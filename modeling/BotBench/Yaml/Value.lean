import BotBench.Yaml.Node
import BotBench.Yaml.Scalar

/-! # The values of a settings document

`Value.ofText` reads a document to the end: plain scalars get the value that their text stands for,
explicit tags are obeyed, mappings under the merge key are put in front of the own pairs, and a
repeated key keeps its place and takes the last value. -/

namespace BotBench.Yaml

/-- A value of a document. Dates and points in time are known by the name of their kind alone. -/
inductive Value
  | null
  | bool (value : Bool)
  | int (value : Int)
  | float (value : Float)
  | text (value : String)
  | bytes (value : List UInt8)
  | list (items : List Value)
  | set (items : List Value)
  | map (pairs : List (Value × Value))
  | other (kind : String)
  deriving Inhabited

/-- Why a document has no value. -/
inductive Fault
  /-- The text breaks the rules of the format. -/
  | malformed
  /-- A scalar has the form of a date that does not exist; the part that is wrong is named. -/
  | badDate (problem : String)
  /-- A scalar is tagged as a whole number and is none. -/
  | notWhole (base : Nat) (text : String)
  /-- A scalar is tagged as a real number and is none. -/
  | notReal (text : String)
  deriving DecidableEq, Repr

/-- The name by which messages call a value's kind. -/
def Value.kind : Value → String
  | .null => "NoneType"
  | .bool _ => "bool"
  | .int _ => "int"
  | .float _ => "float"
  | .text _ => "str"
  | .bytes _ => "bytes"
  | .list _ => "list"
  | .set _ => "set"
  | .map _ => "dict"
  | .other kind => kind

/-- Whether a document with this value counts as empty. -/
def Value.isEmpty : Value → Bool
  | .null => true
  | .bool value => !value
  | .int value => value == 0
  | .float value => value == 0.0
  | .text value => value.isEmpty
  | .bytes value => value.isEmpty
  | .list items => items.isEmpty
  | .set items => items.isEmpty
  | .map pairs => pairs.isEmpty
  | .other _ => false

/-- Whether a value may be a key. -/
def Value.isKey : Value → Bool
  | .list _ | .set _ | .map _ => false
  | _ => true

/-- Whether two keys are the same text. -/
def Value.sameText : Value → Value → Bool
  | .text a, .text b => a == b
  | _, _ => false

/-- Set a key of a mapping. -/
def setPair (key value : Value) : List (Value × Value) → List (Value × Value)
  | [] => [(key, value)]
  | (other, old) :: rest =>
      if other.sameText key then (other, value) :: rest else (other, old) :: setPair key value rest

/-- The number of days of a month. -/
def daysOfMonth (year month : Nat) : Nat :=
  if month == 2 then
    if year % 4 == 0 && (year % 100 != 0 || year % 400 == 0) then 29 else 28
  else if [4, 6, 9, 11].contains month then 30 else 31

/-- The value of a date that exists. -/
def dateValue (stamp : Timestamp) : Except Fault Value :=
  if stamp.year == 0 then .error (.badDate "year 0 is out of range")
  else if !(1 ≤ stamp.month && stamp.month ≤ 12) then
    .error (.badDate "month must be in 1..12")
  else if !(1 ≤ stamp.day && stamp.day ≤ daysOfMonth stamp.year stamp.month) then
    .error (.badDate "day is out of range for month")
  else
    match stamp.time with
    | none => .ok (.other "datetime.date")
    | some (hour, minute, second) =>
        if 23 < hour then .error (.badDate "hour must be in 0..23")
        else if 59 < minute then .error (.badDate "minute must be in 0..59")
        else if 59 < second then .error (.badDate "second must be in 0..59")
        else .ok (.other "datetime.datetime")

/-- The base in which the text of a whole number is read. -/
def wholeBase (s : String) : Nat :=
  match (Number.splitSign (s.toList.filter (· != '_'))).2 with
  | '0' :: 'b' :: _ => 2
  | '0' :: 'x' :: _ => 16
  | ['0'] => 10
  | '0' :: _ => 8
  | _ => 10

/-- The value of a scalar of a given kind. -/
def scalarValue (kind : ScalarKind) (s : String) : Except Fault Value :=
  match kind with
  | .null => .ok .null
  | .bool =>
      let word := String.ofList (s.toList.map Char.toLower)
      if trueWords.contains word then .ok (.bool true)
      else if falseWords.contains word then .ok (.bool false)
      else .error .malformed
  | .int =>
      match readWhole? s with
      | some n => .ok (.int n)
      | none => .error (.notWhole (wholeBase s) s)
  | .float =>
      match readReal? s with
      | some x => .ok (.float x)
      | none => .error (.notReal (String.ofList (s.toList.filter (· != '_')) |>.toLower))
  | .timestamp =>
      match readTimestamp? s.toList with
      | some stamp => dateValue stamp
      | none => .error .malformed
  | .merge | .default => .error .malformed
  | .text => .ok (.text s)

/-- The address in front of the names of the common tags. -/
def tagStart : String := "tag:yaml.org,2002:"

/-- The name of a common tag. -/
def commonTag? (address : String) : Option String :=
  (Json.afterWord? tagStart.toList address.toList).map String.ofList

/-- The kind of a scalar by its tag or, without a tag, by its text. -/
def scalarKind? (tag : Option String) (plain : Bool) (s : String) : Option ScalarKind :=
  match tag with
  | none => some (if plain then .ofPlain s else .text)
  | some "!" => some (.ofPlain s)
  | some address =>
      match commonTag? address with
      | some "null" => some .null
      | some "bool" => some .bool
      | some "int" => some .int
      | some "float" => some .float
      | some "timestamp" => some .timestamp
      | some "str" => some .text
      | some "merge" => some .merge
      | some "value" => some .default
      | _ => none

/-- Whether a node is the merge key. -/
def Node.isMerge : Node → Bool
  | .scalar tag plain s => scalarKind? tag plain s == some .merge
  | _ => false

/-- The pairs of a mapping with merged mappings in front of the own pairs. Of several merged
mappings the first takes precedence. -/
def flattenPairs (fuel : Nat) (pairs : List (Node × Node)) : Except Fault (List (Node × Node)) :=
  match fuel with
  | 0 => .error .malformed
  | fuel + 1 => do
      let merged ← (pairs.filter fun pair => pair.1.isMerge).mapM fun (_, source) =>
        match source with
        | .mapping _ inner => flattenPairs fuel inner
        | .sequence _ items => do
            let parts ← items.mapM fun item =>
              match item with
              | .mapping _ inner => flattenPairs fuel inner
              | _ => .error .malformed
            return parts.reverse.flatten
        | _ => .error .malformed
      return merged.flatten ++ pairs.filter fun pair => !pair.1.isMerge

/-- The value of a node, nested to a depth of at most `fuel`. -/
def Value.ofNode (fuel : Nat) (node : Node) : Except Fault Value :=
  match fuel with
  | 0 => .error .malformed
  | fuel + 1 =>
      match node with
      | .loop isMapping => .ok (if isMapping then .map [] else .list [])
      | .scalar tag plain s =>
          match scalarKind? tag plain s with
          | some kind => scalarValue kind s
          | none =>
              match if tag.bind commonTag? == some "binary" then readBytes? s else none with
              | some data => .ok (.bytes data)
              | none => .error .malformed
      | .sequence tag items =>
          match tag.map commonTag? with
          | none | some (some "seq") => return .list (← items.mapM (Value.ofNode fuel))
          | some (some name) =>
              if name == "omap" || name == "pairs" then
                return .list (← items.mapM (Value.ofNode fuel))
              else .error .malformed
          | some none =>
              if tag == some "!" then return .list (← items.mapM (Value.ofNode fuel))
              else .error .malformed
      | .mapping tag pairs => do
          let pairs ← flattenPairs (fuel + 1) pairs
          let values ← pairs.mapM fun (key, value) => do
            let key ←
              match key with
              | .scalar tag plain s =>
                  if scalarKind? tag plain s == some .default then Except.ok (.text s)
                  else Value.ofNode fuel key
              | _ => Value.ofNode fuel key
            if key.isKey then return (key, ← Value.ofNode fuel value) else throw .malformed
          let entries := values.foldl (fun known pair => setPair pair.1 pair.2 known) []
          match tag.bind commonTag?, tag with
          | some "set", _ => return .set (entries.map (·.1))
          | some "map", _ | none, none | none, some "!" => return .map entries
          | _, _ => throw .malformed

/-- The value of a document; a text without a document has the null value. -/
def Value.ofText (text : String) : Except Fault Value :=
  match Token.scan? text with
  | none => .error .malformed
  | some tokens =>
      match Node.ofTokens? tokens with
      | none => .error .malformed
      | some none => .ok .null
      | some (some node) => Value.ofNode (tokens.length + 2) node

end BotBench.Yaml
