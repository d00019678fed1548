import BotBench.Number.Binary64

/-! # Shortest decimals

A number is written with the fewest digits that read back to it, and among those with the digits
nearest to its exact value. How the digits are laid out (positionally or with an exponent) is up to
the format that writes them and is given by a `DigitLayout`. -/

namespace BotBench.Number

/-- A positive decimal `0.d₁d₂… · 10 ^ point`, its digits given as one natural number without
trailing zeros. -/
structure Decimal where
  digits : Nat
  point : Int
  deriving Repr, DecidableEq, Inhabited

/-- Drop the trailing zeros of a natural number, by at most `fuel` steps. -/
def dropZeros : Nat → Nat → Nat
  | 0, n => n
  | fuel + 1, n => if n != 0 && n % 10 == 0 then dropZeros fuel (n / 10) else n

/-- The number of decimal digits of a natural number. -/
def digitCount (n : Nat) : Nat := (Nat.toDigits 10 n).length

/-- The power of ten that bounds a positive quotient: the least `k` with `numerator / denominator <
10 ^ k`, searched upwards from `k` by at most `fuel` steps. -/
def decimalPoint (numerator denominator : Nat) : Nat → Int → Int
  | 0, k => k
  | fuel + 1, k =>
      let below :=
        if 0 ≤ k then numerator < denominator * tenTo k.toNat
        else numerator * tenTo (-k).toNat < denominator
      if below then k else decimalPoint numerator denominator fuel (k + 1)

/-- The real numbers that round to a binary64 number, as three quotients over one denominator: the
lower end, the number, the upper end. -/
structure RoundingInterval where
  lower : Nat
  value : Nat
  upper : Nat
  denominator : Nat
  closed : Bool

/-- The rounding interval of `mantissa · 2 ^ exponent`. Its ends belong to it exactly when the
mantissa is even; below a power of two the grid is twice as fine. -/
def RoundingInterval.of (mantissa : Nat) (exponent : Int) : RoundingInterval :=
  let (scale, denominator) := scaleByTwo 1 4 exponent
  let below := if mantissa == twoTo 52 && leastExponent < exponent then 1 else 2
  { lower := (4 * mantissa - below) * scale
    value := 4 * mantissa * scale
    upper := (4 * mantissa + 2) * scale
    denominator
    closed := mantissa % 2 == 0 }

/-- Whether `digits · 10 ^ power` lies in the interval. -/
def RoundingInterval.holds (interval : RoundingInterval) (digits : Nat) (power : Int) : Bool :=
  let candidate :=
    if 0 ≤ power then digits * tenTo power.toNat * interval.denominator
    else digits * interval.denominator
  let unit := if 0 ≤ power then 1 else tenTo (-power).toNat
  if interval.closed then interval.lower * unit ≤ candidate && candidate ≤ interval.upper * unit
  else interval.lower * unit < candidate && candidate < interval.upper * unit

/-- The decimal with `count` digits that reads back to the number, if there is one; of two such
decimals the nearer, and of two equally near the even one. -/
def decimalOfCount? (interval : RoundingInterval) (point : Int) (count : Nat) : Option Nat :=
  let power := point - count
  let numerator := if 0 ≤ power then interval.value else interval.value * tenTo (-power).toNat
  let unit :=
    if 0 ≤ power then interval.denominator * tenTo power.toNat else interval.denominator
  let low := numerator / unit
  let nearer := roundQuotient numerator unit
  let farther := if nearer == low then low + 1 else low
  if interval.holds nearer power then some nearer
  else if interval.holds farther power then some farther
  else none

/-- The shortest decimal of a positive number `mantissa · 2 ^ exponent`. -/
def shortestDecimal (mantissa : Nat) (exponent : Int) : Decimal :=
  let interval := RoundingInterval.of mantissa exponent
  let start := (((Nat.log2 mantissa : Int) + exponent) * 30103) / 100000 - 1
  let point := decimalPoint interval.value interval.denominator 6 start
  let counts := (List.range 17).map (· + 1)
  match counts.findSome? fun count => (decimalOfCount? interval point count).map (count, ·) with
  | some (count, digits) =>
      { digits := dropZeros 20 digits, point := point + (digitCount digits - count : Int) }
  | none => { digits := mantissa, point := digitCount mantissa }

/-- How a number's digits are laid out. -/
structure DigitLayout where
  /-- Decimals are positional while the point stands above this place … -/
  lowestPoint : Int
  /-- … and at or below this one. -/
  highestPoint : Int
  /-- Whether a whole number keeps `.0` behind it. -/
  wholeMark : Bool
  /-- The least number of digits of an exponent. -/
  exponentWidth : Nat
  /-- Whether zero keeps its sign. -/
  signedZero : Bool
  infinity : String
  undefined : String

/-- A positive decimal in a layout. -/
def DigitLayout.write (layout : DigitLayout) (decimal : Decimal) : List Char :=
  let digits := Nat.toDigits 10 decimal.digits
  let count : Int := digits.length
  let point := decimal.point
  if layout.lowestPoint < point && point ≤ layout.highestPoint then
    if point ≤ 0 then '0' :: '.' :: List.replicate (-point).toNat '0' ++ digits
    else if count ≤ point then
      digits ++ List.replicate (point - count).toNat '0' ++
        (if layout.wholeMark then ['.', '0'] else [])
    else digits.take point.toNat ++ '.' :: digits.drop point.toNat
  else
    let exponent := point - 1
    let power := Nat.toDigits 10 exponent.natAbs
    let mantissa :=
      match digits with
      | [] => []
      | [digit] => [digit]
      | digit :: rest => digit :: '.' :: rest
    mantissa ++ 'e' :: (if exponent < 0 then '-' else '+') ::
      List.replicate (layout.exponentWidth - power.length) '0' ++ power

/-- A floating-point number in a layout. -/
def DigitLayout.text (layout : DigitLayout) (x : Float) : String :=
  match Binary64.ofFloat x with
  | .undefined => layout.undefined
  | .infinite negative => if negative then "-" ++ layout.infinity else layout.infinity
  | .finite negative mantissa exponent =>
      if mantissa == 0 then
        (if negative && layout.signedZero then "-" else "") ++
          (if layout.wholeMark then "0.0" else "0")
      else
        (if negative then "-" else "") ++
          String.ofList (layout.write (shortestDecimal mantissa exponent))

/-- The layout of numbers in records, settings and messages: positional from `0.0001` up to sixteen
digits before the point, a whole number marked by `.0`, exponents of at least two digits. -/
def plainLayout : DigitLayout where
  lowestPoint := -4
  highestPoint := 16
  wholeMark := true
  exponentWidth := 2
  signedZero := true
  infinity := "inf"
  undefined := "nan"

/-- A floating-point number as records, settings and messages show it. -/
def floatText (x : Float) : String := plainLayout.text x

end BotBench.Number
