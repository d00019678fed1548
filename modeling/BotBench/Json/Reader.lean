import BotBench.Json.Basic
import BotBench.Number.Numeral

/-! # Reading JSON

The reader takes the standard grammar and, beyond it, the words `NaN`, `Infinity` and `-Infinity`.
Names may repeat; the last value counts. Raw control characters in a string, a byte-order mark in
front and text behind the value are refused. A whole number has a greatest number of digits, and a
number that goes beyond it is a fault of its own; which fault a text has is decided by the first one
from the left. Values may be nested to any depth. -/

namespace BotBench.Json

open Number

/-- Why a text cannot be read. -/
inductive ReadFault
  /-- The text does not follow the grammar. -/
  | malformed
  /-- A whole number is written with too many digits. -/
  | overlong (digits : Nat)
  deriving DecidableEq, Repr, Inhabited

/-- What a reader takes beyond the common grammar: the words that stand for a value, and the
greatest number of digits of a whole number, if there is one. -/
structure Dialect where
  words : List (List Char × Json)
  digitLimit : Option Nat

/-- A part of a text that has to be there. -/
def required {α : Type} (part : Option α) : Except ReadFault α :=
  match part with
  | some found => .ok found
  | none => .error .malformed

/-- A blank between the tokens of JSON. -/
def isSpace (c : Char) : Bool := c == ' ' || c == '\t' || c == '\n' || c == '\r'

/-- Text without the blanks in front. -/
def skipSpace (cs : List Char) : List Char := cs.dropWhile isSpace

/-- The value of a hexadecimal digit. -/
def hexValue? (c : Char) : Option Nat :=
  if '0' ≤ c && c ≤ '9' then some (c.toNat - '0'.toNat)
  else if 'a' ≤ c && c ≤ 'f' then some (c.toNat - 'a'.toNat + 10)
  else if 'A' ≤ c && c ≤ 'F' then some (c.toNat - 'A'.toNat + 10)
  else none

/-- The code unit of four hexadecimal digits. -/
def hexUnit? (a b c d : Char) : Option Nat := do
  return 4096 * (← hexValue? a) + 256 * (← hexValue? b) + 16 * (← hexValue? c) + (← hexValue? d)

/-- The character of a leading and a trailing surrogate. -/
def pairedChar (high low : Nat) : Char :=
  .ofNat (0x10000 + (high - 0xD800) * 0x400 + (low - 0xDC00))

/-- The character of a single code unit; a surrogate without its partner is shown by the replacement
character. -/
def unitChar (code : Nat) : Char :=
  if 0xD800 ≤ code && code ≤ 0xDFFF then .ofNat 0xFFFD else .ofNat code

/-- The character of a one-letter escape. -/
def escaped? : Char → Option Char
  | '"' => some '"'
  | '\\' => some '\\'
  | '/' => some '/'
  | 'b' => some '\x08'
  | 'f' => some '\x0c'
  | 'n' => some '\n'
  | 'r' => some '\r'
  | 't' => some '\t'
  | _ => none

/-- Read the rest of a string behind its opening quote: its characters, and the text behind the
closing quote. -/
def readString : List Char → Option (List Char × List Char)
  | [] => none
  | '"' :: rest => some ([], rest)
  | '\\' :: 'u' :: a :: b :: c :: d :: '\\' :: 'u' :: e :: f :: g :: h :: rest => do
      let high ← hexUnit? a b c d
      let paired : Option Nat := do
        let low ← hexUnit? e f g h
        if 0xD800 ≤ high && high ≤ 0xDBFF && 0xDC00 ≤ low && low ≤ 0xDFFF then some low else none
      match paired with
      | some low =>
          let (cs, after) ← readString rest
          return (pairedChar high low :: cs, after)
      | none =>
          let (cs, after) ← readString ('\\' :: 'u' :: e :: f :: g :: h :: rest)
          return (unitChar high :: cs, after)
  | '\\' :: 'u' :: a :: b :: c :: d :: rest => do
      let code ← hexUnit? a b c d
      let (cs, after) ← readString rest
      return (unitChar code :: cs, after)
  | '\\' :: c :: rest => do
      let plain ← escaped? c
      let (cs, after) ← readString rest
      return (plain :: cs, after)
  | c :: rest =>
      if c.toNat < 32 then none
      else do
        let (cs, after) ← readString rest
        return (c :: cs, after)

/-- Split off a minus sign: whether there is one, and the rest. -/
def splitMinus : List Char → Bool × List Char
  | '-' :: rest => (true, rest)
  | cs => (false, cs)

/-- The digits in front of a text, and the rest. -/
def spanDigits (cs : List Char) : List Char × List Char :=
  (cs.takeWhile Char.isDigit, cs.dropWhile Char.isDigit)

/-- Read the fraction of a number: its digits, if there are any, and the rest. -/
def readFraction (cs : List Char) : List Char × List Char :=
  match cs with
  | '.' :: rest =>
      match spanDigits rest with
      | ([], _) => ([], cs)
      | found => found
  | _ => ([], cs)

/-- Read the exponent of a number, if there is one. -/
def readExponent (cs : List Char) : Option Int × List Char :=
  match cs with
  | c :: rest =>
      if c == 'e' || c == 'E' then
        let (negative, digits) := splitSign rest
        match spanDigits digits with
        | ([], _) => (none, cs)
        | (found, after) =>
            let magnitude : Int := naturalOfDigits found
            (some (if negative then -magnitude else magnitude), after)
      else (none, cs)
  | [] => (none, cs)

/-- The whole digits in front of a text: one zero alone, or digits that do not start with zero. -/
def readWhole (cs : List Char) : Option (List Char × List Char) :=
  match cs with
  | '0' :: rest => some (['0'], rest)
  | _ =>
      match spanDigits cs with
      | ([], _) => none
      | found => some found

/-- Read a number. Without fraction and exponent it is whole, and its digits are counted. -/
def readNumber (digitLimit : Option Nat) (cs : List Char) :
    Except ReadFault (Json × List Char) := do
  let (negative, unsigned) := splitMinus cs
  let (whole, afterWhole) ← required (readWhole unsigned)
  let (fraction, afterFraction) := readFraction afterWhole
  let (exponent, after) := readExponent afterFraction
  if fraction.isEmpty && exponent.isNone then
    if digitLimit.any (· < whole.length) then throw (.overlong whole.length)
    let magnitude : Int := naturalOfDigits whole
    return (.int (if negative then -magnitude else magnitude), after)
  else
    return (.float (floatOfDecimal negative (naturalOfDigits (whole ++ fraction))
      (exponent.getD 0 - fraction.length)), after)

/-- The rest of a text behind a word. -/
def afterWord? : List Char → List Char → Option (List Char)
  | [], cs => some cs
  | w :: word, c :: cs => if w == c then afterWord? word cs else none
  | _, [] => none

/-- The words that stand for a value in plain data. -/
def plainWords : List (List Char × Json) :=
  [("null".toList, .null), ("true".toList, .bool true), ("false".toList, .bool false)]

/-- Plain data, with whole numbers of any length. -/
def plainDialect : Dialect := { words := plainWords, digitLimit := none }

/-- The words that stand for a value where numbers need not be finite. -/
def words : List (List Char × Json) :=
  plainWords ++
    [("NaN".toList, .float Binary64.undefined.toFloat),
      ("Infinity".toList, .float (Binary64.infinite false).toFloat),
      ("-Infinity".toList, .float (Binary64.infinite true).toFloat)]

/-- Data whose numbers need not be finite and whose whole numbers have a greatest length. -/
def wideDialect : Dialect := { words, digitLimit := some digitLimit }

/-- Read a word or a number. -/
def readAtom (dialect : Dialect) (cs : List Char) : Except ReadFault (Json × List Char) :=
  match dialect.words.findSome? fun (word, value) => (afterWord? word cs).map (value, ·) with
  | some found => .ok found
  | none => readNumber dialect.digitLimit cs

mutual

/-- Read a value, nested to a depth of at most `depth`. -/
def readValue (dialect : Dialect) (depth : Nat) (cs : List Char) :
    Except ReadFault (Json × List Char) :=
  match depth with
  | 0 => .error .malformed
  | depth + 1 =>
      match cs with
      | '"' :: rest => do
          let (text, after) ← required (readString rest)
          return (.str (String.ofList text), after)
      | '[' :: rest =>
          match skipSpace rest with
          | ']' :: after => .ok (.arr [], after)
          | inner => do
              let (items, after) ← readItems dialect depth inner
              return (.arr items, after)
      | '\x7b' :: rest =>
          match skipSpace rest with
          | '\x7d' :: after => .ok (.obj [], after)
          | inner => do
              let (fields, after) ← readFields dialect depth inner
              return (.ofFields fields, after)
      | _ => readAtom dialect cs

/-- Read the items of an array up to its closing bracket. -/
def readItems (dialect : Dialect) (depth : Nat) (cs : List Char) :
    Except ReadFault (List Json × List Char) :=
  match depth with
  | 0 => .error .malformed
  | depth + 1 => do
      let (item, rest) ← readValue dialect depth cs
      match skipSpace rest with
      | ']' :: after => return ([item], after)
      | ',' :: more =>
          let (items, after) ← readItems dialect depth (skipSpace more)
          return (item :: items, after)
      | _ => throw .malformed

/-- Read the fields of an object up to its closing brace. -/
def readFields (dialect : Dialect) (depth : Nat) (cs : List Char) :
    Except ReadFault (List (String × Json) × List Char) :=
  match depth, cs with
  | depth + 1, '"' :: rest => do
      let (name, rest) ← required (readString rest)
      let ':' :: rest := skipSpace rest | throw .malformed
      let (value, rest) ← readValue dialect depth (skipSpace rest)
      let field := (String.ofList name, value)
      match skipSpace rest with
      | '\x7d' :: after => return ([field], after)
      | ',' :: more =>
          let (fields, after) ← readFields dialect depth (skipSpace more)
          return (field :: fields, after)
      | _ => throw .malformed
  | _, _ => .error .malformed

end

/-- Read a text that holds one value. The length of the text bounds the depth of nesting. -/
def parseWith (dialect : Dialect) (s : String) : Except ReadFault Json := do
  let cs := s.toList
  let (value, rest) ← readValue dialect (2 * cs.length + 2) (skipSpace cs)
  if (skipSpace rest).isEmpty then return value else throw .malformed

/-- Read a text that holds one value, whose numbers need not be finite. A whole number with more
than `Number.digitLimit` digits is a fault of its own (`BotBench.Json.parse_of_digits`). Nesting has
no limit: that a call stack may be too small for a deeply nested value is left out. -/
def parse (s : String) : Except ReadFault Json := parseWith wideDialect s

/-- The value that a text holds, if it can be read: its whole numbers have at most
`Number.digitLimit` digits, and it may be nested to any depth. -/
def parse? (s : String) : Option Json := (parse s).toOption

/-- Read a text that holds one value of plain data. -/
def parsePlain? (s : String) : Option Json := (parseWith plainDialect s).toOption

theorem parse?_eq_some_iff {s : String} {value : Json} :
    parse? s = some value ↔ parse s = .ok value := by
  unfold parse?
  cases parse s with
  | error fault => simp [Except.toOption]
  | ok found => simp [Except.toOption]

/-! ## Digits alone -/

theorem spanDigits_of_digits {digits : List Char} (decimal : ∀ c ∈ digits, c.isDigit = true) :
    spanDigits digits = (digits, []) := by
  induction digits with
  | nil => rfl
  | cons c digits ih =>
      obtain ⟨first, rest⟩ := List.forall_mem_cons.mp decimal
      have spanned := ih rest
      simp only [spanDigits, Prod.mk.injEq] at spanned ⊢
      simp [first, spanned]

section

variable {first : Char} {digits : List Char} (decimal : ∀ c ∈ first :: digits, c.isDigit = true)
  (leading : first ≠ '0')

include decimal leading

theorem readWhole_of_digits : readWhole (first :: digits) = some (first :: digits, []) := by
  unfold readWhole
  split
  · simp_all
  · rw [spanDigits_of_digits decimal]

theorem readNumber_of_digits (limit : Option Nat) :
    readNumber limit (first :: digits) =
      if limit.any (· < (first :: digits).length) then .error (.overlong (first :: digits).length)
      else .ok (.int (naturalOfDigits (first :: digits)), []) := by
  have unsigned : splitMinus (first :: digits) = (false, first :: digits) := by
    unfold splitMinus
    split
    · simp_all
    · rfl
  unfold readNumber
  rw [unsigned]
  dsimp only
  rw [readWhole_of_digits decimal leading]
  cases long : limit.any (· < (first :: digits).length) with
  | true =>
      simp only [required, bind, Except.bind, readFraction, readExponent, long]
      rfl
  | false =>
      simp only [required, bind, Except.bind, readFraction, readExponent, long]
      rfl

/-- Digits that do not start with zero are a whole number, unless they are too many. -/
theorem parse_of_digits :
    parse (String.ofList (first :: digits)) =
      if digitLimit < (first :: digits).length then .error (.overlong (first :: digits).length)
      else .ok (.int (naturalOfDigits (first :: digits))) := by
  have apart (c : Char) (other : c.isDigit = false) : c ≠ first := by
    rintro rfl
    rw [decimal c List.mem_cons_self] at other
    contradiction
  have spaceless : skipSpace (first :: digits) = first :: digits := by
    simp [skipSpace, isSpace, (apart ' ' rfl).symm, (apart '\t' rfl).symm, (apart '\n' rfl).symm,
      (apart '\r' rfl).symm]
  have value (depth : Nat) : readValue wideDialect (depth + 1) (first :: digits) =
      readAtom wideDialect (first :: digits) := by
    rw [readValue] <;> simp [(apart '"' rfl).symm, (apart '[' rfl).symm, (apart '\x7b' rfl).symm]
  -- no word starts with a digit
  have atom : readAtom wideDialect (first :: digits) =
      readNumber (some digitLimit) (first :: digits) := by
    simp [readAtom, wideDialect, words, plainWords, afterWord?, apart 'n' rfl, apart 't' rfl,
      apart 'f' rfl, apart 'N' rfl, apart 'I' rfl, apart '-' rfl]
  unfold parse parseWith
  rw [String.toList_ofList]
  dsimp only
  rw [spaceless, value, atom, readNumber_of_digits decimal leading, Option.any_some]
  by_cases long : digitLimit < (first :: digits).length
  · simp only [long, decide_true, ↓reduceIte]
    rfl
  · simp only [long, decide_false, ↓reduceIte]
    rfl

end

end BotBench.Json
