import BotBench.Chat.Message
import BotBench.Json.Reader

/-! # The outcome of a sandbox run

A run of a script hands one value across to the bench: normally the text of a JSON object that says
which console lines were written, and whether the run failed, found no bot, found no reply, or
replied. `Outcome.decode` reads it. The text is shaped by the script, so any field may be missing or
of any kind. -/

namespace BotBench

/-- How important a log entry is. -/
inductive LogLevel
  | debug
  | info
  | warning
  deriving DecidableEq, Repr, Inhabited

/-- An entry of the bench's own log. -/
structure LogEntry where
  level : LogLevel
  text : String
  deriving DecidableEq, Repr, Inhabited

/-- The name of a level. -/
def LogLevel.name : LogLevel → String
  | .debug => "DEBUG"
  | .info => "INFO"
  | .warning => "WARNING"

/-- The entry as one line. -/
def LogEntry.line (entry : LogEntry) : String := entry.level.name ++ " " ++ entry.text

/-- Why a simulation has no answer. -/
inductive SimulationFault
  /-- The sandbox reports a failure. -/
  | sandbox (problem : String)
  /-- The language has no engine. -/
  | unsupported (language : Json)
  /-- A value of this kind has no items. -/
  | notIterable (kind : String)
  /-- A value of this kind cannot be searched. -/
  | notContainer (kind : String)
  /-- A value of this kind has no fields. -/
  | notSubscriptable (kind : String)
  /-- Places in a text are given by numbers. -/
  | textIndexedByName
  /-- Places in an array are given by numbers. -/
  | listIndexedByName
  /-- An object lacks a field. -/
  | missingField (name : String)
  /-- A value of this kind has no field access. -/
  | noFields (kind : String)
  /-- A whole number is written with too many digits. -/
  | overlongNumber (digits : Nat)
  deriving Inhabited

/-- The wording of a fault. -/
def SimulationFault.message : SimulationFault → String
  | .sandbox problem => problem
  | .unsupported language => "Unsupported bot language: " ++ language.display
  | .notIterable kind => "'" ++ kind ++ "' object is not iterable"
  | .notContainer kind => "argument of type '" ++ kind ++ "' is not iterable"
  | .notSubscriptable kind => "'" ++ kind ++ "' object is not subscriptable"
  | .textIndexedByName => "string indices must be integers, not 'str'"
  | .listIndexedByName => "list indices must be integers or slices, not str"
  | .missingField name => name
  | .noFields kind => "'" ++ kind ++ "' object has no attribute 'get'"
  | .overlongNumber digits => Number.digitProblem digits

/-- The log of a simulation and its answer: a reply, no reply, or a fault. -/
structure Simulation where
  log : List LogEntry := []
  answer : Except SimulationFault (Option Reply)
  deriving Inhabited

namespace Outcome

/-- The text that a key has in common with a search word. -/
def containsText (word : List Char) : List Char → Bool
  | [] => word.isEmpty
  | c :: rest => word.isPrefixOf (c :: rest) || containsText word rest

/-- Whether an item is a given text. -/
def isText (name : String) : Json → Bool
  | .str s => s == name
  | _ => false

/-- The items of a value: of an array its items, of a text its characters, of an object its names.
-/
def items : Json → Except SimulationFault (List Json)
  | .arr items => .ok items
  | .str s => .ok (s.toList.map fun c => .str (String.singleton c))
  | .obj fields => .ok (fields.map fun field => .str field.1)
  | value => .error (.notIterable value.kind)

/-- Whether a value mentions a name: an object as a field, an array as an item, a text as a part. -/
def mentions (name : String) : Json → Except SimulationFault Bool
  | .obj fields => .ok (fields.any fun field => field.1 == name)
  | .arr items => .ok (items.any (isText name))
  | .str s => .ok (containsText name.toList s.toList)
  | value => .error (.notContainer value.kind)

/-- The value under a name. -/
def subscript (name : String) : Json → Except SimulationFault Json
  | .obj fields =>
      match Json.field? name fields with
      | some value => .ok value
      | none => .error (.missingField name)
  | .arr _ => .error .listIndexedByName
  | .str _ => .error .textIndexedByName
  | value => .error (.notSubscriptable value.kind)

/-- Read a button: a callback button exactly when the payload is mentioned. -/
def toButton (value : Json) : Except SimulationFault Button := do
  if ← mentions "callback_data" value then
    return .callback (← subscript "text" value) (← subscript "callback_data" value)
  else return .reply (← subscript "text" value)

/-- Read a row of buttons. -/
def toRow (value : Json) : Except SimulationFault (List Button) := do
  (← items value).mapM toButton

/-- Read a reply from the fields of an object. The rows are read before the text. -/
def toReply (fields : List (String × Json)) : Except SimulationFault Reply := do
  let rows ← (← items ((Json.field? "rows" fields).getD (.arr []))).mapM toRow
  return { text := ← subscript "text" (.obj fields), buttons := Layout.ofRows? rows }

/-- The log entry of a console line. -/
def consoleEntry (line : Json) : LogEntry := ⟨.debug, "bot console: " ++ line.display⟩

/-- The answer that the fields of an outcome give, and the entry logged about a missing reply. -/
def answer (fields : List (String × Json)) : Simulation :=
  let error := (Json.field? "error" fields).getD .null
  if isText "execution" error then
    let problem := (Json.field? "message" fields).getD (.str "")
    { answer := .error (.sandbox ("execution failed: " ++ problem.display)) }
  else if isText "no_instance" error then { answer := .error (.sandbox "no bot instance found") }
  else
    match (Json.field? "reply" fields).getD .null with
    | .null =>
        let key := (Json.field? "key" fields).getD .null
        { log := [⟨.debug, "No reply produced for handler key " ++ key.display⟩]
          answer := .ok none }
    | .obj reply => { answer := (toReply reply).map some }
    | value => { answer := .error (.noFields value.kind) }

/-- Read the fields of an outcome. The console is logged before anything else is looked at. -/
def ofFields (fields : List (String × Json)) : Simulation :=
  match items ((Json.field? "console" fields).getD (.arr [])) with
  | .error fault => { answer := .error fault }
  | .ok lines =>
      let answered := answer fields
      { answered with log := lines.map consoleEntry ++ answered.log }

/-- Read what a run hands across, the data being read already. What is no object cannot be read; it
is shown as it was handed across. -/
def ofData (data raw : Json) : Simulation :=
  match data with
  | .obj fields => ofFields fields
  | _ =>
      { answer := .error (.sandbox ("execution failed: unreadable sandbox result " ++ raw.shown)) }

/-- Read what a run hands across. A text that breaks the grammar is shown as it is; a number in it
that is too long is a fault of its own. -/
def decode (raw : Json) : Simulation :=
  match raw with
  | .str text =>
      match Json.parse text with
      | .ok data => ofData data raw
      | .error .malformed => ofData .null raw
      | .error (.overlong digits) => { answer := .error (.overlongNumber digits) }
  | _ => ofData .null raw

end Outcome

end BotBench
