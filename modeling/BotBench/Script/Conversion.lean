import BotBench.Script.Property

/-! # Conversions

How values become plain values, texts, numbers and keys, and how they are compared and added. -/

namespace BotBench.Script

open Number Text Run

/-- The kind of plain value that a conversion prefers. -/
inductive Preference
  | none
  | text
  | number
  deriving DecidableEq, Repr, Inhabited

/-- The name of a preference. -/
def Preference.name : Preference → String
  | .none => "default"
  | .text => "string"
  | .number => "number"

variable (inner : Evaluator)

/-- The first plain value that one of some methods of an object gives. -/
def firstPlain (base : Value) : List String → Run Value
  | [] => raise .type "toPrimitive"
  | method :: rest => do
      let f ← read inner base method
      if ← isCallable f then
        let result ← inner.call f base []
        if !result.isObject then return result
      firstPlain base rest

/-- A value as a plain value. -/
def toPlain (preference : Preference) (value : Value) : Run Value := do
  if !value.isObject then return value
  let exotic ← read inner value (.symbol .toPrimitive)
  if exotic.isMissing then
    firstPlain inner value
      (if preference == .text then ["toString", "valueOf"] else ["valueOf", "toString"])
  else
    let result ← callValue inner exotic value [preference.name]
    if result.isObject then raise .type "toPrimitive" else return result

/-- The text of a plain value. -/
def textOfPlain : Value → Run Utf16
  | .undefined => return "undefined"
  | .null => return "null"
  | .bool b => return if b then "true" else "false"
  | .number x => return .whole (numberText x)
  | .text t => return t
  | .symbol _ => raise .type "cannot convert symbol to string"
  | .object _ => return ""

/-- The text of a value. -/
def toText (value : Value) : Run Utf16 := do
  textOfPlain (← toPlain inner .text value)

/-- The text of a value, a symbol giving its description. -/
def describedText (value : Value) : Run Utf16 :=
  match value with
  | .symbol s => return s.shown
  | value => toText inner value

/-- The number of a plain value. -/
def numberOfPlain : Value → Run Float
  | .undefined => return notANumber
  | .null => return 0
  | .bool b => return if b then 1 else 0
  | .number x => return x
  | .text t => return numberOfText t.toString
  | .symbol _ => raise .type "cannot convert symbol to number"
  | .object _ => return notANumber

/-- The number of a value. -/
def toNumber (value : Value) : Run Float := do
  numberOfPlain (← toPlain inner .number value)

/-- The key of a plain value. -/
def keyOfPlain : Value → Run Key
  | .symbol s => return .symbol s
  | .number x =>
      if isSmallWhole x && 0 ≤ x && x < numberOfNat placeBound then return .index x.toUInt64.toNat
      else return .ofText (.whole (numberText x))
  | value => return .ofText (← textOfPlain value)

/-- The key of a value. -/
def toKey (value : Value) : Run Key := do
  keyOfPlain (← toPlain inner .text value)

/-- The object of a value: a plain value is put into a box. -/
def toObject (value : Value) : Run Ref := do
  match value with
  | .object ref => return ref
  | value =>
      match ancestorOfPlain? value with
      | some ancestor => allocate { kind := .boxed value, ancestor := some ancestor }
      | none => raise .type "cannot convert to object"

/-- The whole part of the number of a value, between two bounds. -/
def toClamped (value : Value) (low high : Int) : Run Int :=
  return clampedPart (← toNumber inner value) low high

/-- A place in a sequence of a length: a negative one counts from the end, and a missing one is
`missing`. -/
def toPlace (value : Value) (length missing : Nat) : Run Nat := do
  if value.isUndefined then return missing
  let n ← toClamped inner value (-(length : Int)) length
  return (if n < 0 then n + length else n).toNat

/-- The number of items that a value says it has. -/
def lengthProperty (base : Value) : Run Nat := do
  return (← toClamped inner (← read inner base "length") 0 (twoTo 53 - 1)).toNat

/-- The name of the kind of a value. -/
def typeName (value : Value) : Run String := do
  match value with
  | .undefined => return "undefined"
  | .null => return "object"
  | .bool _ => return "boolean"
  | .number _ => return "number"
  | .text _ => return "string"
  | .symbol _ => return "symbol"
  | .object _ => return if ← isCallable value then "function" else "object"

/-- Whether two plain values are equal when kinds are converted. -/
def equalPlain (a b : Value) : Run Bool := do
  match a, b with
  | .undefined, .null | .null, .undefined => return true
  | .undefined, .undefined | .null, .null => return true
  | .undefined, _ | .null, _ | _, .undefined | _, .null => return false
  | .symbol s, .symbol t => return s == t
  | .symbol _, _ | _, .symbol _ => return false
  | .text s, .text t => return s == t
  | a, b => return (← numberOfPlain a) == (← numberOfPlain b)

/-- Whether two values are equal when kinds are converted. -/
def looselyEqual (a b : Value) : Run Bool := do
  match a, b with
  | .object _, .object _ => return a.same b
  | .object _, b =>
      if b.isMissing then return false else equalPlain (← toPlain inner .none a) b
  | a, .object _ =>
      if a.isMissing then return false else equalPlain a (← toPlain inner .none b)
  | a, b => equalPlain a b

/-- The sum of two values: texts if one of them is a text, else numbers. -/
def add (a b : Value) : Run Value := do
  let a ← toPlain inner .none a
  let b ← toPlain inner .none b
  match a, b with
  | .number x, .number y => return .number (x + y)
  | .text s, b => return .text (← checkText (s ++ (← textOfPlain b)))
  | a, .text t => return .text (← checkText ((← textOfPlain a) ++ t))
  | a, b => return .number ((← numberOfPlain a) + (← numberOfPlain b))

/-- Compare two values: texts by their units, else numbers. -/
def compareValues (onTexts : Utf16 → Utf16 → Bool) (onNumbers : Float → Float → Bool)
    (a b : Value) :
    Run Bool := do
  let a ← toPlain inner .number a
  let b ← toPlain inner .number b
  match a, b with
  | .text s, .text t => return onTexts s t
  | a, b => return onNumbers (← numberOfPlain a) (← numberOfPlain b)

end BotBench.Script
