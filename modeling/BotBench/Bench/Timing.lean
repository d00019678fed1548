import BotBench.Number.Binary64

/-! # Time on the bench

Time is a rational number of seconds. Sums and products of times are rounded by a rounding that the
bench is given: to binary64 numbers when it runs, and not at all where exact arithmetic is meant. -/

namespace BotBench

open Number

/-- A span of time. -/
inductive Span
  | finite (seconds : Rat)
  | endless
  deriving DecidableEq, Repr, Inhabited

namespace Span

/-- The span of a number of seconds. A negative infinity is as good as no time at all. -/
def ofFloat (x : Float) : Span :=
  match Binary64.ofFloat x with
  | .infinite true => .finite 0
  | exact =>
      match exact.toRat? with
      | some seconds => .finite seconds
      | none => .endless

/-- Whether a span is over at once. -/
def isOver : Span → Bool
  | .finite seconds => seconds ≤ 0
  | .endless => false

/-- The span plus `draw` times the span `jitter`. -/
def addJitter (rounding : Rat → Rat) (draw : Rat) : Span → Span → Span
  | .finite base, .finite jitter => .finite (rounding (base + rounding (draw * jitter)))
  | _, _ => .endless

/-- Whether the span is over before another one. -/
def before : Span → Span → Bool
  | .finite a, .finite b => a < b
  | .finite _, .endless => true
  | .endless, _ => false

end Span

/-- A time in whole milliseconds, a half rounded up. -/
def milliseconds (rounding : Rat → Rat) (time : Rat) : Int :=
  (rounding (rounding (time * 1000) + 1 / 2)).floor

/-- Numbers that come up at random, as streams: the `k`-th number drawn and the `k`-th choice made.
-/
structure Draws where
  number : Nat → Rat
  pick : Nat → Int
  numbersUsed : Nat := 0
  picksUsed : Nat := 0

namespace Draws

/-- The item at a place of a list that repeats for ever. -/
def cycled {α : Type} (items : List α) (fallback : α) (place : Nat) : α :=
  items.getD (place % items.length) fallback

/-- The streams that repeat two lists; an empty list counts as one half, or as zero. -/
def ofLists (numbers : List Rat) (picks : List Int) : Draws where
  number := cycled numbers (1 / 2)
  pick := cycled picks 0

/-- Draw a number. -/
def drawNumber (draws : Draws) : Rat × Draws :=
  (draws.number draws.numbersUsed, { draws with numbersUsed := draws.numbersUsed + 1 })

/-- Choose an item of a list that is not empty. -/
def choose {α : Type} [Inhabited α] (draws : Draws) (items : List α) : α × Draws :=
  let place := (draws.pick draws.picksUsed % (items.length : Int)).toNat
  (items.getD place default, { draws with picksUsed := draws.picksUsed + 1 })

end Draws

end BotBench
