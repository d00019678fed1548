import BotBench.Number.Binary64
import BotBench.Text.Blank
import BotBench.Text.Digit
import BotBench.Text.Quoted

/-! # Reading numerals

A setting may be given as text. A whole number is an optional sign and decimal digits of any script;
a real number may have a point, an exponent, or be one of the words for infinity and for no number.
Between two digits a single underscore is allowed, and blanks at the ends are ignored. A whole
number has a greatest number of digits. Bytes are read like text in ASCII. -/

namespace BotBench.Number

open Text

/-- A character of a numeral. ASCII characters stay as they are, so the information separators are
not blanks of a numeral; other digits become ASCII digits, and other blanks become spaces. -/
def plainNumeralChar (c : Char) : Char :=
  if c.toNat < 127 then c
  else
    match digitValue? c with
    | some d => Nat.digitChar d
    | none => if isBlank c then ' ' else c

/-- Whether blanks of a numeral in ASCII may be dropped at its ends. -/
def isNumeralBlank (c : Char) : Bool :=
  c == ' ' || (9 ≤ c.toNat && c.toNat ≤ 13)

/-- Characters without blanks at the ends. -/
def trimNumeral (cs : List Char) : List Char :=
  ((cs.dropWhile isNumeralBlank).reverse.dropWhile isNumeralBlank).reverse

/-- The characters of a numeral without blanks at the ends. -/
def numeralChars (s : String) : List Char := trimNumeral (s.toList.map plainNumeralChar)

/-- Split off a sign: whether it is negative, and the rest. -/
def splitSign : List Char → Bool × List Char
  | '-' :: rest => (true, rest)
  | '+' :: rest => (false, rest)
  | cs => (false, cs)

/-- The longest run of ASCII digits with single underscores between them, as the digits and the
rest. An underscore belongs to the run only when a digit follows it. -/
def digitRun : List Char → List Char × List Char
  | c :: '_' :: d :: tail =>
      if c.isDigit && d.isDigit then
        let (digits, after) := digitRun (d :: tail)
        (c :: digits, after)
      else if c.isDigit then ([c], '_' :: d :: tail)
      else ([], c :: '_' :: d :: tail)
  | c :: rest =>
      if c.isDigit then
        let (digits, after) := digitRun rest
        (c :: digits, after)
      else ([], c :: rest)
  | [] => ([], [])

/-- The number written by ASCII decimal digits. -/
def naturalOfDigits (cs : List Char) : Nat :=
  cs.foldl (fun n c => 10 * n + (c.toNat - '0'.toNat)) 0

/-- The greatest number of digits that a whole number may be written with. -/
def digitLimit : Nat := 4300

/-- Read a whole number off characters without blanks at the ends. -/
def wholeNumeral? (cs : List Char) : Option Int :=
  let (negative, cs) := splitSign cs
  match digitRun cs with
  | ([], _) => none
  | (digits, []) =>
      if digitLimit < digits.length then none
      else
        let magnitude : Int := naturalOfDigits digits
        some (if negative then -magnitude else magnitude)
  | _ => none

/-- The number of digits in front of characters without blanks at the ends, when there are too many
for a whole number. -/
def digitExcess? (cs : List Char) : Option Nat :=
  let (digits, after) := digitRun (splitSign cs).2
  if digitLimit < digits.length && after.head? != some '_' then some digits.length else none

/-- Read a whole number. -/
def readInt? (s : String) : Option Int := wholeNumeral? (numeralChars s)

/-- The floating-point number nearest to `± digits · 10 ^ power`. -/
def floatOfDecimal (negative : Bool) (digits : Nat) (power : Int) : Float :=
  if digits == 0 then (Binary64.finite negative 0 leastExponent).toFloat
  else
    let places : Int := (Nat.toDigits 10 digits).length + power
    if 400 < places then (Binary64.infinite negative).toFloat
    else if places < -400 then (Binary64.finite negative 0 leastExponent).toFloat
    else
      let (mantissa, exponent) :=
        if 0 ≤ power then nearest (digits * tenTo power.toNat) 1
        else nearest digits (tenTo (-power).toNat)
      (Binary64.finite negative mantissa exponent).toFloat

/-- The exponent part of a real numeral: its value and the rest. No exponent counts as zero. -/
def exponentPart : List Char → Int × List Char
  | c :: rest =>
      if c == 'e' || c == 'E' then
        let (negative, cs) := splitSign rest
        match digitRun cs with
        | ([], _) => (0, c :: rest)
        | (digits, after) =>
            let magnitude : Int := naturalOfDigits digits
            (if negative then -magnitude else magnitude, after)
      else (0, c :: rest)
  | [] => (0, [])

/-- Read the unsigned part of a real number in digits. -/
def readDecimal? (negative : Bool) (cs : List Char) : Option Float :=
  let (whole, afterWhole) := digitRun cs
  let (fraction, afterFraction) :=
    match afterWhole with
    | '.' :: rest => digitRun rest
    | _ => ([], afterWhole)
  if whole.isEmpty && fraction.isEmpty then none
  else
    match exponentPart afterFraction with
    | (exponent, []) =>
        some (floatOfDecimal negative (naturalOfDigits (whole ++ fraction))
          (exponent - fraction.length))
    | _ => none

/-- Read a real number off characters without blanks at the ends. -/
def realNumeral? (cs : List Char) : Option Float :=
  let (negative, cs) := splitSign cs
  let word := String.ofList (cs.map Char.toLower)
  if word == "inf" || word == "infinity" then some (Binary64.infinite negative).toFloat
  else if word == "nan" then some Binary64.undefined.toFloat
  else readDecimal? negative cs

/-- Read a real number. -/
def readFloat? (s : String) : Option Float := realNumeral? (numeralChars s)

/-- What a numeral may be read off: text, or bytes. -/
inductive Inscription
  | text (value : String)
  | bytes (value : List UInt8)
  deriving DecidableEq, Repr, Inhabited

namespace Inscription

/-- The characters of a numeral without blanks at the ends. Bytes are taken as they are: only digits
and blanks in ASCII count. -/
def chars : Inscription → List Char
  | .text value => numeralChars value
  | .bytes value => trimNumeral (value.map fun byte => Char.ofNat byte.toNat)

/-- Read a whole number. -/
def whole? (inscription : Inscription) : Option Int := wholeNumeral? inscription.chars

/-- Read a real number. -/
def real? (inscription : Inscription) : Option Float := realNumeral? inscription.chars

/-- The text or the bytes in quotes. -/
def shown : Inscription → String
  | .text value => quoted value
  | .bytes value => quotedBytes value

/-- The first two hundred characters of the text or of the first two hundred bytes in quotes. -/
def shownShort : Inscription → String
  | .text value => shortQuoted value
  | .bytes value => String.ofList ((quotedBytes (value.take 200)).toList.take 200)

end Inscription

/-- That a whole number has too many digits, in words. -/
def digitProblem (digits : Nat) : String :=
  "Exceeds the limit (" ++ toString digitLimit ++
    " digits) for integer string conversion: value has " ++ toString digits ++
    " digits; use sys.set_int_max_str_digits() to increase the limit"

/-- Why digits are no whole number, in words. -/
def wholeProblem (base : Nat) (chars : List Char) (shown : String) : String :=
  match digitExcess? chars with
  | some digits => digitProblem digits
  | none => "invalid literal for int() with base " ++ toString base ++ ": " ++ shown

end BotBench.Number
