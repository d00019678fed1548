import BotBench.Number.Numeral
import BotBench.Number.Shortest
import BotBench.Text.Utf16

/-! # Numbers of scripts

Scripts know one kind of number, the binary64 number. This module writes and reads numbers the way
scripts do and holds the operations that the hardware does not give: the remainder, 32-bit integers,
and powers whose base is one. -/

namespace BotBench.Script

open Number Text

/-- The layout of numbers in scripts: positional from `0.000001` up to twenty-one digits before the
point. -/
def numberLayout : DigitLayout where
  lowestPoint := -6
  highestPoint := 21
  wholeMark := false
  exponentWidth := 1
  signedZero := false
  infinity := "Infinity"
  undefined := "NaN"

/-- No number. -/
def notANumber : Float := Binary64.undefined.toFloat

/-- Infinity. -/
def infinity : Float := (Binary64.infinite false).toFloat

/-- The number nearest to an integer. -/
def numberOfInt (n : Int) : Float :=
  let (mantissa, exponent) := nearest n.natAbs 1
  (Binary64.finite (n < 0) mantissa exponent).toFloat

/-- The number nearest to a natural. -/
def numberOfNat (n : Nat) : Float :=
  if n < twoTo 53 then n.toFloat else numberOfInt n

/-- The whole number that a number is, if it is one. -/
def wholeNumber? (x : Float) : Option Int :=
  match Binary64.ofFloat x with
  | .finite negative mantissa exponent =>
      let magnitude? : Option Nat :=
        if 0 ≤ exponent then some (mantissa * twoTo exponent.toNat)
        else
          let unit := twoTo (-exponent).toNat
          if mantissa % unit == 0 then some (mantissa / unit) else none
      magnitude?.map fun magnitude => if negative then -(magnitude : Int) else magnitude
  | _ => none

/-- Whether the sign of a number is a minus. -/
def isNegative (x : Float) : Bool := x.toBits >>> 63 == 1

/-- Whether a number is whole and fits in 53 bits. -/
def isSmallWhole (x : Float) : Bool := x.floor == x && x.abs < 9007199254740992

/-- A number as text. -/
def numberText (x : Float) : String :=
  if isSmallWhole x then
    let digits := toString x.abs.toUInt64
    if x < 0 then "-" ++ digits else digits
  else numberLayout.text x

/-- The whole part of a number; no number has the whole part zero and an infinity none. -/
def wholePart? (x : Float) : Option Int :=
  if x.isNaN then some 0 else truncate? x

/-- A number as a place: its whole part between two bounds. -/
def clampedPart (x : Float) (low high : Int) : Int :=
  match wholePart? x with
  | some n => max low (min high n)
  | none => if x < 0 then low else high

/-- The 32 bits that a bitwise operation sees of a number. -/
def bitsOf (x : Float) : UInt32 :=
  match wholePart? x with
  | some n => .ofNat (n % twoTo 32).toNat
  | none => 0

/-- The signed number of 32 bits. -/
def signedOfBits (bits : UInt32) : Float := numberOfInt bits.toInt32.toInt

/-- The remainder of a division of exact values, with the sign of the dividend. -/
def exactRemainder (x y : Float) : Float :=
  match Binary64.ofFloat x, Binary64.ofFloat y with
  | .finite negative m e, .finite _ n f =>
      if n == 0 then notANumber
      else
        let low := min e f
        let a := m * twoTo (e - low).toNat
        let b := n * twoTo (f - low).toNat
        let (numerator, denominator) := scaleByTwo (a % b) 1 low
        let (mantissa, exponent) := nearest numerator denominator
        (Binary64.finite negative mantissa exponent).toFloat
  | .finite .., .infinite _ => x
  | _, _ => notANumber

/-- The remainder of a division, with the sign of the dividend. Small whole numbers are divided as
such. -/
def remainder (x y : Float) : Float :=
  if isSmallWhole x && isSmallWhole y && y != 0 then
    let magnitude := (x.abs.toUInt64 % y.abs.toUInt64).toFloat
    if isNegative x then -magnitude else magnitude
  else exactRemainder x y

/-- A power. Unlike the hardware's it is no number when the exponent is none, or when it is infinite
and the base is one. -/
def power (x y : Float) : Float :=
  if y.isNaN then notANumber
  else if y.isInf && x.abs == 1 then notANumber
  else x.pow y

/-- The value of a digit up to base 36. -/
def digitOfBase? (base : Nat) (c : Char) : Option Nat :=
  let value? : Option Nat :=
    if c.isDigit then some (c.toNat - '0'.toNat)
    else if 'a' ≤ c && c ≤ 'z' then some (c.toNat - 'a'.toNat + 10)
    else if 'A' ≤ c && c ≤ 'Z' then some (c.toNat - 'A'.toNat + 10)
    else none
  value?.filter (· < base)

/-- The digits of a base at the start of a text, their value, and the rest. -/
def digitsOfBase (base : Nat) : List Char → Nat → Nat → Nat × Nat × List Char
  | [], count, value => (count, value, [])
  | c :: rest, count, value =>
      match digitOfBase? base c with
      | some digit => digitsOfBase base rest (count + 1) (value * base + digit)
      | none => (count, value, c :: rest)

/-- Text without the script blanks at its two ends. -/
def trimScriptBlanks (cs : List Char) : List Char :=
  ((cs.dropWhile isScriptBlank).reverse.dropWhile isScriptBlank).reverse

/-- The digits at the start of a text, and the rest. -/
def plainDigits (cs : List Char) : List Char × List Char := cs.span Char.isDigit

/-- The exponent part of a numeral: its value and the rest. A part without digits is no exponent. -/
def plainExponent : List Char → Int × List Char
  | c :: rest =>
      if c == 'e' || c == 'E' then
        let (negative, cs) := splitSign rest
        match plainDigits cs with
        | ([], _) => (0, c :: rest)
        | (digits, after) =>
            let magnitude : Int := naturalOfDigits digits
            (if negative then -magnitude else magnitude, after)
      else (0, c :: rest)
  | [] => (0, [])

/-- The longest unsigned decimal numeral at the start of a text, and the rest. -/
def decimalAtStart? (negative : Bool) (cs : List Char) : Option (Float × List Char) :=
  let (whole, afterWhole) := plainDigits cs
  let (fraction, afterFraction) :=
    match afterWhole with
    | '.' :: rest => plainDigits rest
    | _ => ([], afterWhole)
  if whole.isEmpty && fraction.isEmpty then none
  else
    let (exponent, rest) := plainExponent afterFraction
    some (floatOfDecimal negative (naturalOfDigits (whole ++ fraction))
      (exponent - fraction.length), rest)

/-- The longest signed decimal numeral or infinity at the start of a text, and the rest. -/
def signedDecimal? (cs : List Char) : Option (Float × List Char) :=
  let (negative, rest) := splitSign cs
  if "Infinity".toList.isPrefixOf rest then
    some ((Binary64.infinite negative).toFloat, rest.drop 8)
  else decimalAtStart? negative rest

/-- The base that the second character of a numeral marks. -/
def baseOfMark? (c : Char) : Option Nat :=
  if c == 'x' || c == 'X' then some 16
  else if c == 'o' || c == 'O' then some 8
  else if c == 'b' || c == 'B' then some 2
  else none

/-- The number that a whole text stands for. Empty text is zero; text that is no numeral is no
number. -/
def numberOfText (s : String) : Float :=
  let cs := trimScriptBlanks s.toList
  let decimal :=
    match signedDecimal? cs with
    | some (x, []) => x
    | _ => notANumber
  match cs with
  | [] => 0
  | '0' :: mark :: digits =>
      match baseOfMark? mark with
      | none => decimal
      | some base =>
          match digitsOfBase base digits 0 0 with
          | (_ + 1, value, []) => numberOfNat value
          | _ => notANumber
  | _ => decimal

/-- The decimal numeral at the start of a text, blanks before it ignored. -/
def leadingDecimal (s : String) : Float :=
  match signedDecimal? (s.toList.dropWhile isScriptBlank) with
  | some (x, _) => x
  | none => notANumber

/-- The whole numeral of a base at the start of a text, blanks before it ignored. Base zero stands
for ten, or for sixteen where the numeral is marked so. -/
def leadingWhole (s : String) (base : Nat) : Float :=
  let (negative, cs) := splitSign (s.toList.dropWhile isScriptBlank)
  let (base, digits) :=
    match cs with
    | '0' :: mark :: rest =>
        if (mark == 'x' || mark == 'X') && (base == 0 || base == 16) then (16, rest) else (base, cs)
    | _ => (base, cs)
  let base := if base == 0 then 10 else base
  if base < 2 || 36 < base then notANumber
  else
    match digitsOfBase base digits 0 0 with
    | (0, _, _) => notANumber
    | (_, value, _) => if negative then -numberOfNat value else numberOfNat value

/-- The digit of a base, up to base 36. -/
def baseDigit (n : Nat) : Char :=
  if n < 10 then Char.ofNat ('0'.toNat + n) else Char.ofNat ('a'.toNat + (n - 10))

/-- The fraction digits of a base of a number below one, at most as many as are asked for. -/
def fractionDigits (base numerator denominator : Nat) : Nat → List Char
  | 0 => []
  | count + 1 =>
      if numerator == 0 then []
      else
        let scaled := numerator * base
        baseDigit (scaled / denominator) ::
          fractionDigits base (scaled % denominator) denominator count

/-- The digits of a natural in a base, at most as many as `fuel` allows, before the digits that are
already known. -/
def baseDigits (base : Nat) : Nat → Nat → List Char → List Char
  | 0, _, known => known
  | fuel + 1, n, known =>
      let known := baseDigit (n % base) :: known
      if n < base then known else baseDigits base fuel (n / base) known

/-- A number as text in a base. -/
def numberTextInBase (x : Float) (base : Nat) : String :=
  match Binary64.ofFloat x with
  | .finite negative mantissa exponent =>
      let (numerator, denominator) := scaleByTwo mantissa 1 exponent
      let whole := baseDigits base 1100 (numerator / denominator) []
      let fraction := fractionDigits base (numerator % denominator) denominator 52
      (if negative && mantissa != 0 then "-" else "") ++ String.ofList whole ++
        (if fraction.isEmpty then "" else "." ++ String.ofList fraction)
  | _ => numberText x

/-- A number with a fixed number of decimals; of two equally near the one farther from zero. -/
def fixedText (x : Float) (places : Nat) : String :=
  match Binary64.ofFloat x with
  | .finite negative mantissa exponent =>
      let (numerator, denominator) := scaleByTwo mantissa 1 exponent
      let scaled := (2 * numerator * tenTo places + denominator) / (2 * denominator)
      if tenTo (21 + places) ≤ scaled then numberText x
      else
        let digits := (Nat.toDigits 10 scaled)
        let padded := List.replicate (places + 1 - digits.length) '0' ++ digits
        let whole := padded.take (padded.length - places)
        let fraction := padded.drop (padded.length - places)
        (if negative && mantissa != 0 then "-" else "") ++ String.ofList whole ++
          (if places == 0 then "" else "." ++ String.ofList fraction)
  | _ => numberText x

end BotBench.Script
