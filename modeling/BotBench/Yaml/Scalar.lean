import BotBench.Number.Numeral

/-! # What a plain scalar means

A scalar without quotes is a truth value, a number, nothing, a date or a point in time when its text
has the form of one, and text otherwise. Whole numbers may be binary, octal, hexadecimal or counted
in sixties. A scalar that is tagged as binary data is written in sextets. -/

namespace BotBench.Yaml

open Number

/-- The kinds of scalars. -/
inductive ScalarKind
  | null
  | bool
  | int
  | float
  | timestamp
  | merge
  | default
  | text
  deriving DecidableEq, Repr

/-- The words for true. -/
def trueWords : List String :=
  ["yes", "Yes", "YES", "true", "True", "TRUE", "on", "On", "ON"]

/-- The words for false. -/
def falseWords : List String :=
  ["no", "No", "NO", "false", "False", "FALSE", "off", "Off", "OFF"]

/-- Whether a text is one or more characters of a class. -/
def allSome (p : Char → Bool) (cs : List Char) : Bool := !cs.isEmpty && cs.all p

/-- A digit or an underscore. -/
def isDigitMark (c : Char) : Bool := c.isDigit || c == '_'

/-- Whether a text is a digit followed by digits and underscores. -/
def isDigits : List Char → Bool
  | c :: rest => c.isDigit && rest.all isDigitMark
  | [] => false

/-- Whether a text is one or more groups `:dd` below sixty, up to where `ends` accepts the rest. -/
def sixties (ends : List Char → Bool) : List Char → Bool
  | ':' :: a :: b :: rest =>
      (a.isDigit && ((b.isDigit && a < '6' && (ends rest || sixties ends rest)) ||
        ends (b :: rest) || (b == ':' && sixties ends (b :: rest))))
  | [':', a] => a.isDigit && ends []
  | _ => false

/-- Whether a text begins with a digit, goes on with digits and underscores, and then satisfies
`after`. -/
def digitsThen (after : List Char → Bool) (cs : List Char) : Bool :=
  match cs with
  | c :: _ => c.isDigit && after (cs.dropWhile isDigitMark)
  | [] => false

/-- A text without one sign in front. -/
def unsigned : List Char → List Char
  | '+' :: rest => rest
  | '-' :: rest => rest
  | cs => cs

/-- Whether an unsigned text has the form of a whole number. -/
def isWholeForm (cs : List Char) : Bool :=
  match cs with
  | ['0'] => true
  | '0' :: 'b' :: rest => allSome (fun c => c == '0' || c == '1' || c == '_') rest
  | '0' :: 'x' :: rest =>
      allSome (fun c => c.isDigit || ('a' ≤ c.toLower && c.toLower ≤ 'f') || c == '_') rest
  | '0' :: rest => allSome (fun c => ('0' ≤ c && c ≤ '7') || c == '_') rest
  | _ => isDigits cs || digitsThen (sixties List.isEmpty) cs

/-- Whether a text is a signed exponent or nothing. -/
def isExponentForm : List Char → Bool
  | [] => true
  | e :: sign :: digits =>
      (e == 'e' || e == 'E') && (sign == '-' || sign == '+') && allSome Char.isDigit digits
  | _ => false

/-- Whether a text has the form of a real number. -/
def isRealForm (cs : List Char) : Bool :=
  let fractionForm (cs : List Char) : Bool :=
    match cs with
    | '.' :: rest => isExponentForm (rest.dropWhile isDigitMark)
    | _ => false
  let sixtiesEnd (cs : List Char) : Bool :=
    match cs with
    | '.' :: rest => rest.all isDigitMark
    | _ => false
  digitsThen fractionForm (unsigned cs) ||
    (match cs with
      | '.' :: rest => digitsThen isExponentForm rest
      | _ => false) ||
    digitsThen (sixties sixtiesEnd) (unsigned cs) ||
    [".inf", ".Inf", ".INF"].contains (String.ofList (unsigned cs)) ||
    [".nan", ".NaN", ".NAN"].contains (String.ofList cs)

/-- A date with an optional time: year, month, day, and whether a time stands behind them, with the
hour, minute and second. -/
structure Timestamp where
  year : Nat
  month : Nat
  day : Nat
  time : Option (Nat × Nat × Nat)
  deriving DecidableEq, Repr

/-- The number written by one or two digits in front of a text, and the rest. -/
def shortNumber? (least : Nat) (cs : List Char) : Option (Nat × List Char) :=
  let digits := (cs.take 2).takeWhile Char.isDigit
  if digits.length < max least 1 then none
  else some (naturalOfDigits digits, cs.drop digits.length)

/-- Whether a text is a zone behind a time, or nothing. -/
def isZoneForm (cs : List Char) : Bool :=
  match cs.dropWhile fun c => c == ' ' || c == '\t' with
  | [] => cs.isEmpty
  | ['Z'] => true
  | sign :: rest =>
      (sign == '+' || sign == '-') &&
        match shortNumber? 1 rest with
        | some (_, []) => true
        | some (_, ':' :: minutes) =>
            match shortNumber? 2 minutes with
            | some (_, []) => true
            | _ => false
        | _ => false

/-- Read a date or a point in time. A date alone has two digits for month and day. -/
def readTimestamp? (cs : List Char) : Option Timestamp := do
  let yearDigits := cs.take 4
  if !(yearDigits.length == 4 && yearDigits.all Char.isDigit) then none
  let year := naturalOfDigits yearDigits
  let '-' :: rest := cs.drop 4 | none
  let (month, afterMonth) ← shortNumber? 1 rest
  let '-' :: rest := afterMonth | none
  let (day, after) ← shortNumber? 1 rest
  match after with
  | [] => if cs.length == 10 then return ⟨year, month, day, none⟩ else none
  | gap :: rest =>
      let rest ←
        if gap == 'T' || gap == 't' then some rest
        else if gap == ' ' || gap == '\t' then
          some (rest.dropWhile fun c => c == ' ' || c == '\t')
        else none
      let (hour, rest) ← shortNumber? 1 rest
      let ':' :: rest := rest | none
      let (minute, rest) ← shortNumber? 2 rest
      let ':' :: rest := rest | none
      let (second, rest) ← shortNumber? 2 rest
      let rest :=
        match rest with
        | '.' :: fraction => fraction.dropWhile Char.isDigit
        | _ => rest
      if isZoneForm rest then return ⟨year, month, day, some (hour, minute, second)⟩ else none

/-- The kind that the text of a plain scalar stands for. -/
def ScalarKind.ofPlain (s : String) : ScalarKind :=
  let cs := s.toList
  if trueWords.contains s || falseWords.contains s then .bool
  else if isRealForm cs then .float
  else if isWholeForm (unsigned cs) then .int
  else if s == "<<" then .merge
  else if ["", "~", "null", "Null", "NULL"].contains s then .null
  else if (readTimestamp? cs).isSome then .timestamp
  else if s == "=" then .default
  else .text

/-- The number that digits stand for in a base. -/
def ofBase (base : Nat) (cs : List Char) : Option Nat :=
  if cs.isEmpty then none
  else cs.foldlM (fun n c => do
    let lower := c.toLower
    let digit ←
      if lower.isDigit then some (lower.toNat - '0'.toNat)
      else if 'a' ≤ lower && lower ≤ 'f' then some (lower.toNat - 'a'.toNat + 10)
      else none
    if digit < base then some (base * n + digit) else none) 0

/-- The parts of a text between colons. -/
def splitColons (cs : List Char) : List (List Char) :=
  cs.foldr (fun c parts =>
    match c, parts with
    | ':', parts => [] :: parts
    | c, part :: parts => (c :: part) :: parts
    | c, [] => [[c]]) [[]]

/-- The value of a whole number in any of its forms. -/
def readWhole? (s : String) : Option Int :=
  let (negative, cs) := splitSign (s.toList.filter (· != '_'))
  let magnitude : Option Nat :=
    match cs with
    | ['0'] => some 0
    | '0' :: 'b' :: rest => ofBase 2 rest
    | '0' :: 'x' :: rest => ofBase 16 rest
    | '0' :: _ => ofBase 8 cs
    | _ =>
        (splitColons cs).foldlM (fun n part =>
          if digitLimit < part.length then none
          else (ofBase 10 part).map fun digit => 60 * n + digit) 0
  magnitude.map fun n => if negative then -(n : Int) else n

/-- The value of a real number in any of its forms. Parts counted in sixties are added from the last
to the first. -/
def readReal? (s : String) : Option Float :=
  let (negative, cs) := splitSign ((s.toList.filter (· != '_')).map Char.toLower)
  let sign : Float := if negative then -1.0 else 1.0
  match String.ofList cs with
  | ".inf" => some (sign * (Binary64.infinite false).toFloat)
  | ".nan" => some Binary64.undefined.toFloat
  | word =>
      if cs.contains ':' then do
        let parts ← (splitColons cs).mapM fun part => readFloat? (String.ofList part)
        let (total, _) := parts.reverse.foldl
          (fun (total, base) digit => (total + digit * base, base * 60.0))
          ((0.0 : Float), (1.0 : Float))
        some (sign * total)
      else (readFloat? word).map (sign * ·)

/-- The six bits that a character stands for in binary data. -/
def sextet? (c : Char) : Option Nat :=
  if 'A' ≤ c && c ≤ 'Z' then some (c.toNat - 'A'.toNat)
  else if 'a' ≤ c && c ≤ 'z' then some (c.toNat - 'a'.toNat + 26)
  else if '0' ≤ c && c ≤ '9' then some (c.toNat - '0'.toNat + 52)
  else if c == '+' then some 62
  else if c == '/' then some 63
  else none

/-- The bytes that are written in sextets, four of them for three bytes; `place` counts the sextets
of a group that have been read, `left` holds the bits that no byte has taken, and `pads` counts the
last padding marks. Padding that fills a group ends the data, and characters that stand for nothing
are passed over. -/
def bytesOfSextets (place left pads : Nat) : List Char → Option (List UInt8)
  | [] => if place == 0 then some [] else none
  | c :: rest =>
      if c == '=' then
        if place < 2 then bytesOfSextets place left pads rest
        else if 4 ≤ place + pads + 1 then some []
        else bytesOfSextets place left (pads + 1) rest
      else
        match sextet? c with
        | none => bytesOfSextets place left pads rest
        | some bits =>
            match place with
            | 0 => bytesOfSextets 1 bits 0 rest
            | 1 => (bytesOfSextets 2 (bits % 16) 0 rest).map (.ofNat (4 * left + bits / 16) :: ·)
            | 2 => (bytesOfSextets 3 (bits % 4) 0 rest).map (.ofNat (16 * left + bits / 4) :: ·)
            | _ => (bytesOfSextets 0 0 0 rest).map (.ofNat (64 * left + bits) :: ·)

/-- The value of a scalar that is tagged as binary data. -/
def readBytes? (s : String) : Option (List UInt8) :=
  if s.toList.all fun c => c.toNat < 128 then bytesOfSextets 0 0 0 s.toList else none

end BotBench.Yaml
