import BotBench.Number.Shortest
import BotBench.Text.Quoted

/-! # JSON values

Plain data as it crosses from a script to the bench: objects keep the order in which their fields
were written, whole numbers are exact, and a number with a point or an exponent is a floating-point
number. -/

namespace BotBench

open Number Text

/-- Plain data. -/
inductive Json
  | null
  | bool (value : Bool)
  | int (value : Int)
  | float (value : Float)
  | str (value : String)
  | arr (items : List Json)
  | obj (fields : List (String × Json))
  deriving Inhabited

namespace Json

/-- Set a field of an object: a field that is already there keeps its place and gets the new value.
-/
def setField (name : String) (value : Json) : List (String × Json) → List (String × Json)
  | [] => [(name, value)]
  | (other, old) :: rest =>
      if other == name then (name, value) :: rest else (other, old) :: setField name value rest

/-- The fields of an object written as the list `fields`, a repeated name counting once. -/
def ofFields (fields : List (String × Json)) : Json :=
  .obj (fields.foldl (fun known field => setField field.1 field.2 known) [])

/-- A field of a list of fields. -/
def field? (name : String) (fields : List (String × Json)) : Option Json :=
  (fields.find? fun field => field.1 == name).map (·.2)

/-- The name by which messages call a value's kind. -/
def kind : Json → String
  | .null => "NoneType"
  | .bool _ => "bool"
  | .int _ => "int"
  | .float _ => "float"
  | .str _ => "str"
  | .arr _ => "list"
  | .obj _ => "dict"

mutual

/-- A value as it is shown inside another one: text in quotes. -/
def shown : Json → String
  | .null => "None"
  | .bool true => "True"
  | .bool false => "False"
  | .int n => toString n
  | .float x => floatText x
  | .str s => quoted s
  | .arr items => "[" ++ shownItems items ++ "]"
  | .obj fields => "\x7b" ++ shownFields fields ++ "\x7d"

/-- The items of an array, separated by commas. -/
def shownItems : List Json → String
  | [] => ""
  | [item] => shown item
  | item :: rest => shown item ++ ", " ++ shownItems rest

/-- The fields of an object, separated by commas. -/
def shownFields : List (String × Json) → String
  | [] => ""
  | [(name, value)] => quoted name ++ ": " ++ shown value
  | (name, value) :: rest => quoted name ++ ": " ++ shown value ++ ", " ++ shownFields rest

end

/-- A value as it is put into a log line or a message: text stands as it is. -/
def display : Json → String
  | .str s => s
  | value => shown value

end Json

end BotBench
