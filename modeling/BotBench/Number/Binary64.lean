import BotBench.Number.Power

/-! # The exact value of a floating-point number

A binary64 number is a sign, a natural mantissa and a power of two. This module reads that exact
value off the bits, and goes back: a rational number is rounded to the nearest binary64 number, a
tie going to the even mantissa. -/

namespace BotBench.Number

/-- What a binary64 number stands for: `± mantissa · 2 ^ exponent`, an infinity, or no number. -/
inductive Binary64
  | finite (negative : Bool) (mantissa : Nat) (exponent : Int)
  | infinite (negative : Bool)
  | undefined
  deriving Repr, DecidableEq, Inhabited

/-- The least exponent of a binary64 number. -/
def leastExponent : Int := -1074

/-- The greatest exponent of a binary64 number. -/
def greatestExponent : Int := 971

/-- Read the exact value of a number off its bits. -/
def Binary64.ofFloat (x : Float) : Binary64 :=
  let bits := x.toBits.toNat
  let negative := bits / twoTo 63 == 1
  let field : Nat := bits / twoTo 52 % 2048
  let fraction : Nat := bits % twoTo 52
  if field == 2047 then
    if fraction == 0 then .infinite negative else .undefined
  else if field == 0 then .finite negative fraction leastExponent
  else .finite negative (twoTo 52 + fraction) ((field : Int) - 1075)

/-- The rational number `numerator / denominator · 2 ^ exponent` as a quotient of naturals. -/
def scaleByTwo (numerator denominator : Nat) (exponent : Int) : Nat × Nat :=
  if 0 ≤ exponent then (numerator * twoTo exponent.toNat, denominator)
  else (numerator, denominator * twoTo (-exponent).toNat)

/-- The natural number nearest to a quotient; a tie goes to the even one. -/
def roundQuotient (numerator denominator : Nat) : Nat :=
  let quotient := numerator / denominator
  let remainder := numerator % denominator
  if 2 * remainder < denominator then quotient
  else if denominator < 2 * remainder then quotient + 1
  else if quotient % 2 == 0 then quotient else quotient + 1

/-- The exponent of the binary64 grid on which a positive quotient is rounded: 53 binary digits, but
none below the least exponent. -/
def gridExponent (numerator denominator : Nat) : Int :=
  let estimate : Int := (Nat.log2 numerator : Int) - Nat.log2 denominator
  let (a, b) := scaleByTwo numerator denominator (-estimate)
  let magnitude := if a < b then estimate - 1 else estimate
  max (magnitude - 52) leastExponent

/-- The mantissa and exponent of the binary64 number nearest to a quotient. -/
def nearest (numerator denominator : Nat) : Nat × Int :=
  if numerator == 0 then (0, leastExponent)
  else
    let exponent := gridExponent numerator denominator
    let (a, b) := scaleByTwo numerator denominator (-exponent)
    let mantissa := roundQuotient a b
    if mantissa == twoTo 53 then (twoTo 52, exponent + 1) else (mantissa, exponent)

/-- The floating-point number of an exact value; a value beyond the range is infinite. -/
def Binary64.toFloat : Binary64 → Float
  | .finite negative mantissa exponent =>
      let sign := if negative then twoTo 63 else 0
      if greatestExponent < exponent then .ofBits (.ofNat (sign + 2047 * twoTo 52))
      else if mantissa < twoTo 52 then .ofBits (.ofNat (sign + mantissa))
      else .ofBits (.ofNat (sign + (exponent + 1075).toNat * twoTo 52 + (mantissa - twoTo 52)))
  | .infinite negative => .ofBits (.ofNat ((if negative then twoTo 63 else 0) + 2047 * twoTo 52))
  | .undefined => .ofBits (.ofNat (4095 * twoTo 51))

/-- The value of a finite number. -/
def Binary64.toRat? : Binary64 → Option Rat
  | .finite negative mantissa exponent =>
      let magnitude : Rat :=
        if 0 ≤ exponent then (mantissa * twoTo exponent.toNat : Nat)
        else mkRat mantissa (twoTo (-exponent).toNat)
      some (if negative then -magnitude else magnitude)
  | _ => none

/-- The binary64 number nearest to a rational, its exponent not bounded above. -/
def Binary64.ofRat (q : Rat) : Binary64 :=
  let (mantissa, exponent) := nearest q.num.natAbs q.den
  .finite (q.num < 0) mantissa exponent

/-- A rational rounded to the nearest binary64 number. -/
def roundToBinary64 (q : Rat) : Rat :=
  (Binary64.ofRat q).toRat?.getD q

/-- The floating-point number nearest to a rational. -/
def floatOfRat (q : Rat) : Float :=
  (Binary64.ofRat q).toFloat

/-- The value of a finite floating-point number. -/
def ratOfFloat? (x : Float) : Option Rat :=
  (Binary64.ofFloat x).toRat?

/-- The whole part of a finite floating-point number, the fraction dropped. -/
def truncate? (x : Float) : Option Int :=
  match Binary64.ofFloat x with
  | .finite negative mantissa exponent =>
      let magnitude : Int :=
        if 0 ≤ exponent then mantissa * twoTo exponent.toNat
        else mantissa / twoTo (-exponent).toNat
      some (if negative then -magnitude else magnitude)
  | _ => none

/-- A rational rounded to `places` decimals; a half goes to the even neighbour. -/
def roundDecimals (places : Nat) (q : Rat) : Rat :=
  let magnitude := roundQuotient (q.num.natAbs * tenTo places) q.den
  let rounded := mkRat magnitude (tenTo places)
  if q.num < 0 then -rounded else rounded

theorem roundQuotient_one (n : Nat) : roundQuotient n 1 = n := by
  simp [roundQuotient, Nat.mod_one]

end BotBench.Number
