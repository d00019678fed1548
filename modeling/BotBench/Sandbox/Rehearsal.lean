import BotBench.Sandbox.Outcome
import BotBench.Script.Interpreter
import BotBench.Settings.Basic

/-! # Running a bot in the sandbox

A bot's script is run once: it constructs its bot and registers handlers. Then the handler for the
message is called with a context through which it can reply. What comes of it is told as plain data,
or as the text of an error that the sandbox itself could not handle. -/

namespace BotBench.Sandbox

open Script Script.Run Text

/-- The key of the handler for a command: the message up to the first blank. Other messages have
none. -/
def commandKey? (message : String) : Option String :=
  match message.toList with
  | '/' :: rest => some (String.ofList ('/' :: rest.takeWhile fun c => !isScriptBlank c))
  | _ => none

/-- Make the module that a bot may require: its constructor and its keyboards. -/
def makeModule : Run (Ref × Ref) := do
  let bot := Intrinsic.botAncestor.ref
  let methods : List (String × Nat × HostFunction) :=
    [("start", 1, .start), ("command", 2, .command), ("on", 2, .on), ("launch", 0, .launch),
      ("stop", 0, .stop)]
  for (name, count, f) in methods do
    define bot (Key.ofText (.whole name)) (.plain (← hostFunction "" count f))
  let constructor ← hostFunction "Telegraf" 1 .construct
  let constructorRef := constructor.ref?.getD default
  define constructorRef "prototype"
    { content := .data (.object bot) true, isEnumerable := false, isConfigurable := false }
  define bot "constructor" (.hidden constructor)
  let button ← record
    [ ("text", ← hostFunction "text" 1 .buttonText),
      ("callback", ← hostFunction "callback" 2 .buttonCallback),
      ("url", ← hostFunction "url" 2 .buttonAddress),
      ("webApp", ← hostFunction "webApp" 2 .buttonApp) ]
  let keyboards ← record
    [ ("keyboard", ← hostFunction "keyboard" 1 .keyboard),
      ("inlineKeyboard", ← hostFunction "inlineKeyboard" 1 .inlineKeyboard),
      ("button", button) ]
  return (constructorRef, keyboards.ref?.getD default)

/-- Make what a script is given: the function by which it requires modules, the process with the
token, and the console. -/
def makeGifts (token : String) : Run (List Value) := do
  let (constructor, keyboards) ← makeModule
  let require ← hostFunction "require" 1 (.require constructor keyboards)
  let environment ← record [(tokenVariable, .text (.whole token))]
  let process ← record
    [ ("env", environment),
      ("once", ← hostFunction "once" 0 .processOnce),
      ("on", ← hostFunction "on" 0 .processOn) ]
  let print ← hostFunction "sink" 0 .print
  let console ← record
    [("log", print), ("info", print), ("warn", print), ("error", print), ("debug", print)]
  return [require, process, console]

/-- Make the context of a handler. -/
def makeContext (message : String) : Run Value := do
  record
    [ ("message", ← record [("text", .text (.whole message))]),
      ("from", ← record
        [("id", .number 1), ("is_bot", .bool false), ("first_name", "User")]),
      ("chat", ← record [("id", .number 1), ("type", "private")]),
      ("reply", ← hostFunction "reply" 2 .reply) ]

variable (evaluator : Evaluator)

/-- A thrown value as a text: its message, if it has one, or the value itself. -/
def describe (thrown : Value) : Run Utf16 := do
  if !thrown.isTruthy then return ← describedText evaluator thrown
  if (← read evaluator thrown "message").isUndefined then describedText evaluator thrown
  else describedText evaluator (← read evaluator thrown "message")

/-- Write what came of a run as plain data. -/
def tell (fields : List (String × Value)) : Run (Option PlainData) := do
  let lines ← allocateList ((← get).host.lines.toList.map .text)
  writtenData? evaluator {} (← record (fields ++ [("console", lines)]))

/-- Tell that a run failed. -/
def tellFailure (thrown : Value) : Run (Option PlainData) := do
  tell evaluator [("error", "execution"), ("message", .text (← describe evaluator thrown))]

/-- Run something, and tell of its failure if it throws. -/
def attempt {α : Type} (run : Run α) (goOn : α → Run (Option PlainData)) :
    Run (Option PlainData) := do
  let result : Except Value α ← tryCatch (do return .ok (← run)) fun
    | .thrown value => return .error value
    | other => throw other
  match result with
  | .ok a => goOn a
  | .error thrown => tellFailure evaluator thrown

/-- Run a script with what it is given. -/
def runScript (source : String) (gifts : List Value) : Run Unit := do
  match FunctionNode.ofProgram ["require", "process", "console"] source with
  | .error fault => raise .reading fault.message
  | .ok node =>
      let program ← allocateClosure {} node none
      discard (evaluator.call program .undefined gifts)

/-- The handler of a bot for a message, and its key. A message that is no command goes to the
handler for messages if there is one, or else to the handler for texts. -/
def findHandler (bot : Value) (message : String) : Run (String × Value) := do
  let handlerFor (key : String) : Run Value := do
    read evaluator (← read evaluator bot "handlers") (Key.ofText (.whole key))
  match commandKey? message with
  | some key => return (key, ← handlerFor key)
  | none =>
      let handler ← handlerFor "on_message"
      if handler.isTruthy then return ("on_message", handler)
      else return ("on_text", ← handlerFor "on_text")

/-- A button as an object of a script. -/
def buttonValue (button : OfferedButton) : Run Value :=
  record (("text", .text button.text) ::
    (button.payload.map fun payload => ("callback_data", Value.text payload)).toList)

/-- A reply as an object of a script; no reply is null. -/
def draftValue : Option Draft → Run Value
  | none => return .null
  | some draft => do
      let rows ← draft.rows.mapM fun row => do allocateList (← row.mapM buttonValue)
      record [("text", .text draft.text), ("rows", ← allocateList rows)]

/-- Call the handler of a bot for a message and tell what comes of it. -/
def answer (message : String) (bot : Ref) : Run (Option PlainData) := do
  let (key, handler) ← findHandler evaluator (.object bot) message
  let told := ("key", Value.text (.whole key))
  if !(← isCallable handler) then tell evaluator [told, ("reply", .null)]
  else
    let context ← makeContext message
    attempt evaluator (evaluator.call handler .undefined [context]) fun _ => do
      tell evaluator [told, ("reply", ← draftValue (← get).host.reply)]

/-- Run a bot's script and have it answer a message. -/
def rehearse (source token message : String) : Run (Option PlainData) := do
  let gifts ← makeGifts token
  attempt evaluator (runScript evaluator source gifts) fun () => do
    match (← get).host.bot with
    | none => tell evaluator [("error", "no_instance")]
    | some bot => answer evaluator message bot

/-- The text of a thrown value that the sandbox could not handle: the value, and its trace if it is
not an untouched one. -/
def uncaughtText (thrown : Value) : Run Utf16 := do
  let text ← describedText evaluator thrown
  if thrown.isMissing then return text ++ "\n"
  let trace ← describedText evaluator (← read evaluator thrown "stack")
  return if trace.isEmpty then text else .concat [text, "\n", trace]

/-- The steps that a script may take in a second. -/
def stepsPerSecond : Nat := 16000000

/-- The steps that a script may take in a time. -/
def stepsOf (seconds : Float) : Nat :=
  match Number.truncate? (seconds * numberOfNat stepsPerSecond) with
  | some steps => if steps < 0 then 1000 * stepsPerSecond else steps.toNat
  | none => 1000 * stepsPerSecond

/-- What a bot's script gives: plain data, nothing, or the text of an error. -/
def rehearsal (settings : Settings) (source token message : String) :
    Except String (Option PlainData) :=
  let evaluator := Evaluator.standard
  let start := Machine.start (stepsOf settings.sandboxTimeLimit) settings.sandboxMemoryLimit.toNat
  match (rehearse evaluator source token message).run start with
  | .ok data _ => .ok data
  | .error (.thrown value) machine =>
      match (uncaughtText evaluator value).run machine with
      | .ok text _ => .error text.toString
      | .error _ _ => .error ""
  | .error _ _ => .error "InternalError: interrupted"

/-- Simulate a bot by running its script. -/
def simulate (settings : Settings) (source token message : String) : Simulation :=
  match rehearsal settings source token message with
  | .ok (some data) => Outcome.ofData data.toJson (.str (data.write "" ""))
  | .ok none => Outcome.ofData .null .null
  | .error problem => { answer := .error (.sandbox ("execution failed: " ++ problem)) }

end BotBench.Sandbox
