import BotBench.Json.Basic
import BotBench.Script.Library.Objects

/-! # Plain data of scripts

A value that is written as plain data loses what is not data: functions, symbols and what is
undefined. An object can say by a method `toJSON` what is written in its place. `PlainData` is what
is written; it becomes a text for the script and a `Json` value for the bench. -/

namespace BotBench.Script

open Text Run

/-- Plain data. -/
inductive PlainData
  | null
  | bool (b : Bool)
  | number (x : Float)
  | text (t : Utf16)
  | list (items : List PlainData)
  | record (fields : List (Utf16 × PlainData))
  deriving Inhabited

namespace PlainData

/-- The characters of a unit with four hexadecimal digits. -/
def escapedUnit (code : Nat) : List Char :=
  let digits := Nat.toDigits 16 code
  '\\' :: 'u' :: List.replicate (4 - digits.length) '0' ++ digits

/-- A character between quotes. -/
def quotedChar (c : Char) : List Char :=
  if c == '"' then ['\\', '"']
  else if c == '\\' then ['\\', '\\']
  else if c == '\n' then ['\\', 'n']
  else if c == '\r' then ['\\', 'r']
  else if c == '\t' then ['\\', 't']
  else if c.toNat == 8 then ['\\', 'b']
  else if c.toNat == 12 then ['\\', 'f']
  else if c.toNat < 32 then escapedUnit c.toNat
  else [c]

/-- A text in quotes. A half of a character is written by its code. -/
def quoted (t : Utf16) : String :=
  let inside := match t with
    | .whole word => word.toList.flatMap quotedChar
    | .cut units => (Utf16.pieces units).flatMap fun
      | .inl c => quotedChar c
      | .inr unit => escapedUnit unit.toNat
  String.ofList ('"' :: inside ++ ['"'])

mutual

/-- Plain data as a text, `gap` being the step of indentation and `indent` the line break and the
indentation around. -/
def write (gap indent : String) : PlainData → String
  | .null => "null"
  | .bool b => if b then "true" else "false"
  | .number x => if x.isFinite then numberText x else "null"
  | .text t => quoted t
  | .list [] => "[]"
  | .list (item :: items) =>
      let inside := if gap.isEmpty then "" else indent ++ gap
      let outside := if gap.isEmpty then "" else indent
      writeItems gap (indent ++ gap) ("," ++ inside)
        ("[" ++ inside ++ write gap (indent ++ gap) item) items ++ outside ++ "]"
  | .record [] => "\x7b\x7d"
  | .record ((name, value) :: fields) =>
      let inside := if gap.isEmpty then "" else indent ++ gap
      let outside := if gap.isEmpty then "" else indent
      let colon := if gap.isEmpty then ":" else ": "
      writeFields gap (indent ++ gap) ("," ++ inside) colon
        ("\x7b" ++ inside ++ quoted name ++ colon ++ write gap (indent ++ gap) value) fields ++
        outside ++ "\x7d"

/-- A text with the items of a list behind it, a separator before each. -/
def writeItems (gap indent separator known : String) : List PlainData → String
  | [] => known
  | item :: items =>
      writeItems gap indent separator (known ++ separator ++ write gap indent item) items

/-- A text with the fields of a record behind it, a separator before each. -/
def writeFields (gap indent separator colon known : String) : List (Utf16 × PlainData) → String
  | [] => known
  | (name, value) :: fields =>
      writeFields gap indent separator colon
        (known ++ separator ++ quoted name ++ colon ++ write gap indent value) fields

end

/-- A number as the bench reads its text: whole where the text has digits alone. -/
def numberToJson (x : Float) : Json :=
  if !x.isFinite then .null
  else
    match (numberText x).toInt? with
    | some n => .int n
    | none => .float x

mutual

/-- Plain data as the bench reads it. -/
def toJson : PlainData → Json
  | .null => .null
  | .bool b => .bool b
  | .number x => numberToJson x
  | .text t => .str t.toString
  | .list items => .arr (itemsToJson items)
  | .record fields => .ofFields (fieldsToJson fields)

/-- The items of a list as the bench reads them. -/
def itemsToJson : List PlainData → List Json
  | [] => []
  | item :: items => item.toJson :: itemsToJson items

/-- The fields of a record as the bench reads them. -/
def fieldsToJson : List (Utf16 × PlainData) → List (String × Json)
  | [] => []
  | (name, value) :: fields => (name.toString, value.toJson) :: fieldsToJson fields

end

end PlainData

variable (inner : Evaluator)

/-- What a script may say about writing plain data: a function that replaces values, the keys that
are written, and the step of indentation. -/
structure WritingOptions where
  replacer : Option Value := none
  keys : Option (List Key) := none
  gap : String := ""

/-- The value that is written in the place of another: what its method says, then what the replacing
function says, and then what is in its box. -/
def replacedValue (options : WritingOptions) (holder : Value) (key : Key) (value : Value) :
    Run Value := do
  let value ←
    if value.isObject then do
      let method ← read inner value "toJSON"
      if ← isCallable method then inner.call method value [key.toValue] else pure value
    else pure value
  let value ← match options.replacer with
    | some f => inner.call f holder [key.toValue, value]
    | none => pure value
  match value with
  | .object ref =>
      match (← object ref).kind with
      | .boxed (.number _) => return .number (← toNumber inner value)
      | .boxed (.text _) => return .text (← toText inner value)
      | .boxed (.bool b) => return .bool b
      | _ => return value
  | value => return value

/-- Write a value as plain data, if it is data. The objects around it must not come again inside. -/
def plainData? (options : WritingOptions) :
    Nat → List Ref → Value → Key → Value → Run (Option PlainData)
  | 0, _, _, _, _ => stackOverflow
  | fuel + 1, around, holder, key, value => do
      match ← replacedValue inner options holder key value with
      | .undefined | .symbol _ => return none
      | .null => return some .null
      | .bool b => return some (.bool b)
      | .number x => return some (.number x)
      | .text t => return some (.text t)
      | .object ref =>
          let value := Value.object ref
          if ← isCallable value then return none
          if around.contains ref then raise .type "circular reference"
          let nested := plainData? options fuel (ref :: around) value
          if ← isArray value then
            let items ← (List.range (← lengthProperty inner value)).mapM fun place => do
              let item ← nested (.index place) (← read inner value (.index place))
              return item.getD .null
            return some (.list items)
          else
            let keys ← match options.keys with
              | some keys => pure keys
              | none => listedKeys ref
            let fields ← keys.filterMapM fun key => do
              let field? ← nested key (← read inner value key)
              return field?.map fun field => (key.text?.getD "", field)
            return some (.record fields)

/-- The deepest nesting of plain data. -/
def dataDepth : Nat := 400

/-- Write a value as plain data, if it is data. -/
def writtenData? (options : WritingOptions) (value : Value) : Run (Option PlainData) := do
  let holder ←
    if options.replacer.isSome then do
      pure (Value.object (← allocatePlain [(Key.ofText "", .plain value)]))
    else pure .undefined
  plainData? inner options dataDepth [] holder (Key.ofText "") value

/-- What an argument says about which values are written. -/
def withReplacer (options : WritingOptions) (replacer : Value) : Run WritingOptions := do
  if ← isCallable replacer then return { options with replacer := some replacer }
  else if ← isArray replacer then
    let items ← listedItems inner replacer
    let keys ← items.filterMapM fun item => do
      match item with
      | .text t => return some (Key.ofText t)
      | .number _ => return some (← toKey inner item)
      | _ => return none
    return { options with keys := some keys.eraseDups }
  else return options

/-- What an argument says about the indentation: a number of blanks, or a text, of which at most ten
count. -/
def gapOf (space : Value) : Run String := do
  match space with
  | .number x => return String.ofList (List.replicate (clampedPart x 0 10).toNat ' ')
  | .text t => return (t.slice 0 10).toString
  | _ => return ""

/-- Write a value as a text of plain data. -/
def writeData (arguments : List Value) : Run Value := do
  let options ← withReplacer inner { gap := ← gapOf (argument arguments 2) } (argument arguments 1)
  match ← writtenData? inner options (argument arguments 0) with
  | some data => return .text (← checkText (.whole (data.write options.gap "\n")))
  | none => return .undefined

mutual

/-- Make the value of plain data. -/
def valueOfJson : Json → Run Value
  | .null => return .null
  | .bool b => return .bool b
  | .int n => return .number (numberOfInt n)
  | .float x => return .number x
  | .str s => return .text (.whole s)
  | .arr items => do allocateList (← valuesOfJson items)
  | .obj fields => do
      let ref ← allocatePlain []
      defineFields ref fields
      return .object ref

/-- Make the values of a list of plain data. -/
def valuesOfJson : List Json → Run (List Value)
  | [] => return []
  | item :: items => do
      let value ← valueOfJson item
      return value :: (← valuesOfJson items)

/-- Define the fields of a record of plain data. -/
def defineFields (ref : Ref) : List (String × Json) → Run Unit
  | [] => return
  | (name, item) :: fields => do
      defineValue ref (Key.ofText name) (← valueOfJson item)
      defineFields ref fields

end

end BotBench.Script
