import BotBench.Script.Library.Lists
import BotBench.Text.Casing

/-! # The library: texts

What the functions of `String` do. Places count 16-bit units. -/

namespace BotBench.Script

open Number Text Run

variable (inner : Evaluator)

/-- The text that a function of texts works on. -/
def receivedText (receiver : Value) : Run Utf16 := do
  if receiver.isMissing then raise .type "null or undefined are forbidden"
  let text ← toText inner receiver
  passText text
  return text

/-- A replacement with its marks filled in: `$$` is a dollar, `$&` what was found, and what stands
before and behind it are marked by the two quotes that lean left and right. -/
def fillReplacement (text found : Utf16) (place : Nat) : List Char → List Utf16
  | '$' :: c :: rest =>
      if c == '$' then "$" :: fillReplacement text found place rest
      else if c == '&' then found :: fillReplacement text found place rest
      else if c.toNat == 0x60 then text.slice 0 place :: fillReplacement text found place rest
      else if c == '\'' then
        text.slice (place + found.length) text.length :: fillReplacement text found place rest
      else "$" :: fillReplacement text found place (c :: rest)
  | c :: rest => .whole (String.singleton c) :: fillReplacement text found place rest
  | [] => []

/-- What replaces a text found at a place. -/
def replacementFor (text found : Utf16) (place : Nat) (replacement : Value) : Run Utf16 := do
  if ← isCallable replacement then
    toText inner (← inner.call replacement .undefined
      [.text found, .ofNat place, .text text])
  else
    return .concat (fillReplacement text found place (← toText inner replacement).toString.toList)

/-- Two lists in turn, the first one starting. -/
def inTurn : List Utf16 → List Utf16 → List Utf16 → List Utf16
  | part :: parts, between :: rest, known => inTurn parts rest (between :: part :: known)
  | parts, _, known => known.reverse ++ parts

/-- The pieces of a text around the places at which another stands; an empty one stands at both ends
and between all units. -/
def piecesAround (text sought : Utf16) : List Utf16 :=
  if sought.isEmpty then [Utf16.whole ""] ++ text.units.map Utf16.ofUnit ++ [Utf16.whole ""]
  else text.split sought

/-- Replace the first text that is found, or all. -/
def replaceText (receiver : Value) (arguments : List Value) (onlyFirst : Bool) : Run Value := do
  let text ← receivedText inner receiver
  let sought ← toText inner (argument arguments 0)
  let given := argument arguments 1
  let replacement ← if ← isCallable given then pure given else pure (.text (← toText inner given))
  let (places, pieces) :=
    if onlyFirst then
      match text.find? sought 0 with
      | some place =>
          ([place], [text.slice 0 place, text.slice (place + sought.length) text.length])
      | none => ([], [text])
    else (text.places sought, piecesAround text sought)
  let between ← places.mapM fun place => replacementFor inner text sought place replacement
  return .text (← checkText (.concat (inTurn pieces between [])))

/-- Split a text. -/
def splitText (receiver : Value) (arguments : List Value) : Run Value := do
  let text ← receivedText inner receiver
  let limit ← match argument arguments 1 with
    | .undefined => pure (twoTo 32 - 1)
    | value => do pure (bitsOf (← toNumber inner value)).toNat
  let parts ← match argument arguments 0 with
    | .undefined => pure [text]
    | value => do pure (text.split (← toText inner value))
  allocateList ((parts.take limit).map .text)

/-- A text filled up to a length. -/
def padText (receiver : Value) (arguments : List Value) (atStart : Bool) : Run Value := do
  let text ← receivedText inner receiver
  let length := (← toClamped inner (argument arguments 0) 0 (twoTo 31)).toNat
  let filler ← match argument arguments 1 with
    | .undefined => pure (Utf16.whole " ")
    | value => toText inner value
  let missing := length - text.length
  if missing == 0 || filler.isEmpty then return .text text
  if (← get).memory ≤ length then outOfMemory
  spend (textSteps length)
  let filling := (filler.replicate (missing / filler.length + 1)).slice 0 missing
  return .text (if atStart then filling ++ text else text ++ filling)

/-- A text a number of times. -/
def repeatText (receiver : Value) (arguments : List Value) : Run Value := do
  let text ← receivedText inner receiver
  match wholePart? (← toNumber inner (argument arguments 0)) with
  | none => raise .range "invalid repeat count"
  | some count =>
      if count < 0 || twoTo 31 ≤ count then raise .range "invalid repeat count"
      if (← get).memory ≤ count.toNat * text.memory then outOfMemory
      spend (textSteps (count.toNat * text.size))
      return .text (text.replicate count.toNat)

/-- A text without some of the blanks at its ends. -/
def trimText (receiver : Value) (atStart atEnd : Bool) : Run Value := do
  let isBlankUnit (unit : UInt16) : Bool := isScriptBlank (Char.ofNat unit.toNat)
  let units := (← receivedText inner receiver).units
  let units := if atStart then units.dropWhile isBlankUnit else units
  let units := if atEnd then (units.reverse.dropWhile isBlankUnit).reverse else units
  return .text (.ofUnits units)

/-- A text found in another from a place on. -/
def findText (receiver : Value) (arguments : List Value) : Run (Option Nat) := do
  let text ← receivedText inner receiver
  let sought ← toText inner (argument arguments 0)
  let start ← toClamped inner (argument arguments 1) 0 text.length
  return text.find? sought start.toNat

/-- The unit at a place that is given as an argument. -/
def unitAt? (receiver : Value) (arguments : List Value) : Run (Option (Utf16 × Nat × UInt16)) := do
  let text ← receivedText inner receiver
  let place ← toClamped inner (argument arguments 0) (-1) (twoTo 31)
  if place < 0 then return none
  return (text.unit? place.toNat).map (text, place.toNat, ·)

/-- The code of the character at a place. -/
def codeAt (text : Utf16) (place : Nat) (unit : UInt16) : Nat :=
  match text.unit? (place + 1) with
  | some next =>
      if Utf16.isHighHalf unit && Utf16.isLowHalf next then (Utf16.charOfHalves unit next).toNat
      else unit.toNat
  | none => unit.toNat

/-- The text of a value that is a text or a box of one. -/
def textItself (receiver : Value) : Run Value := do
  match receiver with
  | .text t => return .text t
  | .object ref =>
      match (← object ref).kind with
      | .boxed (.text t) => return .text t
      | _ => raise .type "not a string"
  | _ => raise .type "not a string"

/-- Call a function of texts. -/
def callTextFunction (f : TextFunction) (receiver : Value) (arguments : List Value) :
    Run Value := do
  let first := argument arguments 0
  let second := argument arguments 1
  match f with
  | .construct =>
      if arguments.isEmpty then return ""
      else return .text (← describedText inner first)
  | .ofUnits =>
      let units ← arguments.mapM fun value => do
        return UInt16.ofNat (bitsOf (← toNumber inner value)).toNat
      return .text (.ofUnits units)
  | .charAt =>
      match ← unitAt? inner receiver arguments with
      | some (_, _, unit) => return .text (.ofUnit unit)
      | none => return ""
  | .charCodeAt =>
      match ← unitAt? inner receiver arguments with
      | some (_, _, unit) => return .ofNat unit.toNat
      | none => return .number notANumber
  | .codePointAt =>
      match ← unitAt? inner receiver arguments with
      | some (text, place, unit) => return .ofNat (codeAt text place unit)
      | none => return .undefined
  | .concat =>
      let text ← receivedText inner receiver
      let texts ← arguments.mapM (toText inner)
      return .text (← checkText (.concat (text :: texts)))
  | .endsWith =>
      let text ← receivedText inner receiver
      let sought ← toText inner first
      let stop ← match second with
        | .undefined => pure text.length
        | value => do pure (← toClamped inner value 0 text.length).toNat
      return .bool (sought.length ≤ stop && text.slice (stop - sought.length) stop == sought)
  | .includes => return .bool (← findText inner receiver arguments).isSome
  | .indexOf => return placeValue (← findText inner receiver arguments)
  | .lastIndexOf =>
      let text ← receivedText inner receiver
      let sought ← toText inner first
      let limit ← toNumber inner second
      let limit := if limit.isNaN then text.length else (clampedPart limit 0 text.length).toNat
      return placeValue (text.findLast? sought limit)
  | .padEnd => padText inner receiver arguments false
  | .padStart => padText inner receiver arguments true
  | .repeated => repeatText inner receiver arguments
  | .replace => replaceText inner receiver arguments true
  | .replaceAll => replaceText inner receiver arguments false
  | .slice =>
      let text ← receivedText inner receiver
      let start ← toPlace inner first text.length 0
      let stop ← toPlace inner second text.length text.length
      return .text (text.slice start stop)
  | .split => splitText inner receiver arguments
  | .startsWith =>
      let text ← receivedText inner receiver
      let sought ← toText inner first
      let start := (← toClamped inner second 0 text.length).toNat
      return .bool (Utf16.startsAt sought.units (text.units.drop start))
  | .substr =>
      let text ← receivedText inner receiver
      let start ← toPlace inner first text.length 0
      let count ← match second with
        | .undefined => pure (text.length - start)
        | value => do pure (← toClamped inner value 0 (text.length - start : Nat)).toNat
      return .text (text.slice start (start + count))
  | .substring =>
      let text ← receivedText inner receiver
      let start := (← toClamped inner first 0 text.length).toNat
      let stop ← match second with
        | .undefined => pure text.length
        | value => do pure (← toClamped inner value 0 text.length).toNat
      return .text (text.slice (min start stop) (max start stop))
  | .lower => return .text ((← receivedText inner receiver).mapChars lowerCase)
  | .upper => return .text ((← receivedText inner receiver).mapChars upperCase)
  | .trim => trimText inner receiver true true
  | .trimStart => trimText inner receiver true false
  | .trimEnd => trimText inner receiver false true
  | .compare =>
      let text ← receivedText inner receiver
      let other ← toText inner first
      return .number (if text.precedes other then -1 else if other.precedes text then 1 else 0)
  | .toText => textItself receiver
  | .characters => allocateIterator (.text (← receivedText inner receiver)) .values

end BotBench.Script
