import BotBench.Sandbox.Keyboard
import BotBench.Script.Library.Table

/-! # What the sandbox offers to a bot

The module with the bot's constructor and the keyboards, the console, the process, and the context
that a handler gets. Handlers are registered under keys: `/name` for a command and `on_event` for an
event. -/

namespace BotBench.Sandbox

open Script Script.Run Text

/-- The module that a bot may require. -/
def moduleName : String := "telegraf"

/-- The variable in which a bot finds its token. -/
def tokenVariable : String := "TELEGRAM_TOKEN"

/-- The text of a host function. -/
def hostText : HostFunction → Option String
  | .construct => some
      ("function Telegraf(botToken) \x7b\n    this.handlers = \x7b\x7d;\n" ++
      "    botInstance = this;\n  \x7d")
  | .start => some "function (fn) \x7b\n    this.handlers['/start'] = fn;\n  \x7d"
  | .command => some ("function (names, fn) \x7b\n" ++
      "    var list = isArray(names) ? names : [names];\n" ++
      "    for (var i = 0; i < list.length; i++) \x7b\n" ++
      "      this.handlers['/' + list[i]] = fn;\n" ++
      "    \x7d\n  \x7d")
  | .on => some "function (eventType, fn) \x7b\n    this.handlers['on_' + eventType] = fn;\n  \x7d"
  | .launch | .stop | .processOnce | .processOn => some "function () \x7b\x7d"
  | .require .. => some ("function require(name) \x7b\n    if (name === botModule) \x7b\n" ++
      "      return \x7b Telegraf: Telegraf, Markup: Markup \x7d;\n    \x7d\n" ++
      "    throw new Error(\"Module '\" + name + \"' is not available in this sandbox.\");\n  \x7d")
  | .keyboard => some ("function (rows) \x7b\n" ++
      "      return markup(\x7b keyboard: rows, resize_keyboard: true \x7d);\n    \x7d")
  | .inlineKeyboard => some
      "function (rows) \x7b\n      return markup(\x7b inline_keyboard: rows \x7d);\n    \x7d"
  | .buttonText => some "function (text) \x7b return \x7b text: text \x7d; \x7d"
  | .buttonCallback => some
      "function (text, data) \x7b return \x7b text: text, callback_data: data \x7d; \x7d"
  | .buttonAddress => some "function (text, url) \x7b return \x7b text: text, url: url \x7d; \x7d"
  | .buttonApp => some
      "function (text, url) \x7b return \x7b text: text, web_app: \x7b url: url \x7d \x7d; \x7d"
  | .addChained _ => some ("function (name) \x7b\n      result[name] = function () " ++
      "\x7b return result; \x7d;\n    \x7d")
  | .chained _ => some "function () \x7b return result; \x7d"
  | .print => some ("function sink() \x7b\n    var line = '';\n" ++
      "    for (var i = 0; i < arguments.length; i++) \x7b\n" ++
      "      line += (i > 0 ? ' ' : '') + toString(arguments[i]);\n    \x7d\n" ++
      "    consoleLines[consoleLines.length] = line;\n  \x7d")
  | .reply => some ("function (text, extra) \x7b\n      if (reply === null) \x7b\n" ++
      "        reply = \x7b text: text === undefined ? '' : toString(text), " ++
      "rows: rowsOf(extra) \x7d;\n" ++
      "      \x7d\n      return Promise.resolve(\x7b text: text \x7d);\n    \x7d")

/-- Change what the host keeps. -/
def modifyHost (change : Host → Host) : Run Unit :=
  modify fun machine => { machine with host := change machine.host }

/-- Make a plain object with ordinary properties. -/
def record (fields : List (String × Value)) : Run Value :=
  return .object (← allocatePlain
    (fields.map fun (name, value) => (Key.ofText (.whole name), .plain value)))

/-- Make a host function. -/
def hostFunction (name : String) (count : Nat) (f : HostFunction) : Run Value :=
  allocateNative (.whole name) count (.host f)

variable (inner : Evaluator)

/-- The value of a name that all scripts share. -/
def globalValue (name : String) : Run Value := valueOfName inner {} name

/-- Register a handler with a bot. -/
def register (bot : Value) (key : Key) (handler : Value) : Run Unit := do
  write inner false (← read inner bot "handlers") key handler

/-- Register a handler for a key that is a mark and the text of a value. -/
def registerFor (bot : Value) (mark : String) (name handler : Value) : Run Unit := do
  let handlers ← read inner bot "handlers"
  write inner false handlers (← toKey inner (← add inner mark name)) handler

/-- Register a handler for a command, or for each of a list of commands. -/
def registerCommands (bot names handler : Value) : Run Unit := do
  if ← isArray names then
    repeating 0 fun place => do
      if (← lengthProperty inner names) ≤ place then return .inr ()
      registerFor inner bot "/" (← read inner names (.index place)) handler
      return .inl (place + 1)
  else registerFor inner bot "/" names handler

/-- The methods by which calls on a keyboard are chained. -/
def chainedNames : List String := ["resize", "oneTime", "persistent", "selective"]

/-- Wrap a keyboard for a reply, with methods that give it again. -/
def wrapKeyboard (fields : List (String × Value)) : Run Value := do
  let keyboard ← record fields
  let wrapping ← allocatePlain [(Key.ofText "reply_markup", .plain keyboard)]
  let names ← allocateList (chainedNames.map fun name => .text (.whole name))
  let addChained ← hostFunction "" 1 (.addChained wrapping)
  discard (invoke inner names "forEach" [addChained])
  return .object wrapping

/-- Require a module. There is only one. -/
def requireModule (constructor keyboards : Ref) (name : Value) : Run Value := do
  if name.same moduleName then
    record [("Telegraf", .object constructor), ("Markup", .object keyboards)]
  else
    let text ← add inner (← add inner "Module '" name) "' is not available in this sandbox."
    let error ← globalValue inner "Error"
    throwValue (← constructValue inner error [text] error)

/-- Write a line to the console, where it takes memory to the end of the run. -/
def print (arguments : List Value) : Run Unit := do
  let texts ← arguments.mapM (describedText inner)
  let line ← checkText (.join " " texts)
  modify fun machine => { machine with memory := machine.memory - line.size }
  modifyHost fun host => { host with lines := host.lines.push line }

/-- Reply to the message. Only the first reply counts. -/
def reply (text extra : Value) : Run Value := do
  if (← get).host.reply.isNone then
    let shown ← if text.isUndefined then pure (Utf16.whole "") else describedText inner text
    let rows ← rowsOf inner extra
    modifyHost fun host => { host with reply := some { text := shown, rows } }
  let promise ← globalValue inner "Promise"
  invoke inner promise "resolve" [← record [("text", text)]]

/-- Call a host function. -/
def callHost (f : HostFunction) (given : Value) (arguments : List Value) : Run Value := do
  let first := argument arguments 0
  let second := argument arguments 1
  match f with
  | .construct =>
      let receiver ← receiverOf false given
      write inner false receiver "handlers" (← record [])
      modifyHost fun host => { host with bot := receiver.ref? }
      return .undefined
  | .start =>
      register inner (← receiverOf false given) "/start" first
      return .undefined
  | .command =>
      registerCommands inner (← receiverOf false given) first second
      return .undefined
  | .on =>
      registerFor inner (← receiverOf false given) "on_" first second
      return .undefined
  | .launch | .stop | .processOnce | .processOn => return .undefined
  | .require constructor keyboards => requireModule inner constructor keyboards first
  | .keyboard => wrapKeyboard inner [("keyboard", first), ("resize_keyboard", .bool true)]
  | .inlineKeyboard => wrapKeyboard inner [("inline_keyboard", first)]
  | .buttonText => record [("text", first)]
  | .buttonCallback => record [("text", first), ("callback_data", second)]
  | .buttonAddress => record [("text", first), ("url", second)]
  | .buttonApp => record [("text", first), ("web_app", ← record [("url", second)])]
  | .addChained wrapping =>
      let chained ← hostFunction "" 0 (.chained wrapping)
      write inner false (.object wrapping) (← toKey inner first) chained
      return .undefined
  | .chained wrapping => return .object wrapping
  | .print =>
      print inner arguments
      return .undefined
  | .reply => reply inner first second

end BotBench.Sandbox
