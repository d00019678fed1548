import BotBench.Script.Library.Lists

/-! # The library: numbers, truth values and symbols

What the functions of `Number`, `Boolean`, `Symbol` and `Math` do. -/

namespace BotBench.Script

open Number Text Run

variable (inner : Evaluator)

/-- The value of a plain value or of a box, if it is of the kind that is asked for. -/
def itself (receiver : Value) (isKind : Value → Bool) (problem : String) : Run Value := do
  match receiver with
  | .object ref =>
      match (← object ref).kind with
      | .boxed value => if isKind value then return value else raise .type problem
      | _ => raise .type problem
  | value => if isKind value then return value else raise .type problem

/-- The number that a function of numbers works on. -/
def receivedNumber (receiver : Value) : Run Float := do
  let isNumber : Value → Bool
    | .number _ => true
    | _ => false
  match ← itself receiver isNumber "not a number" with
  | .number x => return x
  | _ => return notANumber

/-- The truth value that a function of truth values works on. -/
def receivedBool (receiver : Value) : Run Bool := do
  let isBool : Value → Bool
    | .bool _ => true
    | _ => false
  return (← itself receiver isBool "not a boolean").isTruthy

/-- The symbol that a function of symbols works on. -/
def receivedSymbol (receiver : Value) : Run Symbol := do
  let isSymbol : Value → Bool
    | .symbol _ => true
    | _ => false
  match ← itself receiver isSymbol "not a symbol" with
  | .symbol s => return s
  | _ => return .iterator

/-- Whether a value is a whole number. -/
def isWholeValue (value : Value) (limit : Option Nat) : Bool :=
  match value with
  | .number x =>
      match wholeNumber? x with
      | some n => limit.all fun limit => n.natAbs ≤ limit
      | none => false
  | _ => false

/-- A number rounded to the nearest whole number, a half going up. -/
def roundHalfUp (x : Float) : Float :=
  let low := x.floor
  if x - low < 0.5 then low else low + 1

/-- The whole part of a number. -/
def truncated (x : Float) : Float := if x < 0 then x.ceil else x.floor

/-- The sign of a number as a number. -/
def signOf (x : Float) : Float := if x < 0 then -1 else if 0 < x then 1 else x

/-- The extreme one of some numbers; no number is more extreme than any. -/
def extreme (isBetter : Float → Float → Bool) (start : Float) (xs : List Float) : Float :=
  xs.foldl (fun best x =>
    if best.isNaN then best else if x.isNaN then x else if isBetter x best then x else best) start

/-- A number as text in a base that is given as an argument. -/
def textInGivenBase (x : Float) (base : Value) : Run Value := do
  if base.isUndefined then return .text (.whole (numberText x))
  let base ← toClamped inner base (-1) 1000
  if base < 2 || 36 < base then raise .range "radix must be between 2 and 36"
  return .text (.whole (if base == 10 then numberText x else numberTextInBase x base.toNat))

/-- Call a function of numbers, truth values or symbols. -/
def callNumberFunction (f : NumberFunction) (receiver : Value) (arguments : List Value) :
    Run Value := do
  let first := argument arguments 0
  let ofNumber (change : Float → Float) : Run Value := do
    return .number (change (← toNumber inner first))
  match f with
  | .construct =>
      if arguments.isEmpty then return .number 0 else return .number (← toNumber inner first)
  | .isFinite =>
      match first with
      | .number x => return .bool x.isFinite
      | _ => return .bool false
  | .isWhole => return .bool (isWholeValue first none)
  | .isSafe => return .bool (isWholeValue first (some (twoTo 53 - 1)))
  | .isNotNumber =>
      match first with
      | .number x => return .bool x.isNaN
      | _ => return .bool false
  | .leadingDecimal => return .number (leadingDecimal (← toText inner first).toString)
  | .leadingWhole =>
      let text := (← toText inner first).toString
      let base := bitsOf (← toNumber inner (argument arguments 1))
      return .number (leadingWhole text base.toNat)
  | .convertedFinite => return .bool (← toNumber inner first).isFinite
  | .convertedNotNumber => return .bool (← toNumber inner first).isNaN
  | .toText => textInGivenBase inner (← receivedNumber receiver) first
  | .toLocalText => return .text (.whole (numberText (← receivedNumber receiver)))
  | .fixed =>
      let x ← receivedNumber receiver
      let places ← toClamped inner first (-1) 1000
      if places < 0 || 100 < places then raise .range "invalid number of digits"
      return .text (.whole (fixedText x places.toNat))
  | .valueOf => return .number (← receivedNumber receiver)
  | .constructBool => return .bool first.isTruthy
  | .boolText => return .text (if ← receivedBool receiver then "true" else "false")
  | .boolValue => return .bool (← receivedBool receiver)
  | .constructSymbol =>
      let description ← if first.isUndefined then pure none else pure (some (← toText inner first))
      return .symbol (← allocateSymbol description)
  | .symbolText => return .text (← receivedSymbol receiver).shown
  | .symbolValue => return .symbol (← receivedSymbol receiver)
  | .symbolDescription =>
      return ((← receivedSymbol receiver).description.map Value.text).getD .undefined
  | .abs => ofNumber Float.abs
  | .ceil => ofNumber Float.ceil
  | .floor => ofNumber Float.floor
  | .round => ofNumber roundHalfUp
  | .trunc => ofNumber truncated
  | .sign => ofNumber signOf
  | .sqrt => ofNumber Float.sqrt
  | .cbrt => ofNumber Float.cbrt
  | .exp => ofNumber Float.exp
  | .log => ofNumber Float.log
  | .log2 => ofNumber Float.log2
  | .log10 => ofNumber Float.log10
  | .sin => ofNumber Float.sin
  | .cos => ofNumber Float.cos
  | .tan => ofNumber Float.tan
  | .atan => ofNumber Float.atan
  | .atan2 =>
      let y ← toNumber inner first
      return .number (y.atan2 (← toNumber inner (argument arguments 1)))
  | .max =>
      return .number (extreme (fun x y => y < x) (-infinity) (← arguments.mapM (toNumber inner)))
  | .min => return .number (extreme (fun x y => x < y) infinity (← arguments.mapM (toNumber inner)))
  | .power =>
      let x ← toNumber inner first
      return .number (power x (← toNumber inner (argument arguments 1)))
  | .random => return .number 0.5

end BotBench.Script
