/-! # Sets of code points

A class of characters is kept as the ascending list of the code points where membership changes. A
character belongs to the class exactly when an odd number of boundaries lie at or below it. -/

namespace BotBench.Text

/-- A set of code points by its boundaries: members start at each even place and stop before each
odd one. -/
structure CodePointSet where
  bounds : Array Nat

/-- The number of boundaries at or below a code point, by bisection between `low` and `high`. -/
def CodePointSet.rank (set : CodePointSet) (code : Nat) : Nat → Nat → Nat → Nat
  | 0, low, _ => low
  | fuel + 1, low, high =>
      if low < high then
        let middle := (low + high) / 2
        if set.bounds.getD middle 0 ≤ code then set.rank code fuel (middle + 1) high
        else set.rank code fuel low middle
      else low

/-- Whether a character belongs to the set. -/
def CodePointSet.contains (set : CodePointSet) (c : Char) : Bool :=
  set.rank c.toNat (set.bounds.size + 1) 0 set.bounds.size % 2 == 1

end BotBench.Text
