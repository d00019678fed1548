import BotBench.Json.Basic

/-! # Languages and states of bots -/

namespace BotBench

/-- The language of a bot's source. -/
inductive Language
  | python
  | javascript
  deriving DecidableEq, Repr, Inhabited

/-- The name of a language. -/
def Language.name : Language → String
  | .python => "python"
  | .javascript => "javascript"

/-- The language with a given name. -/
def Language.ofName? (name : String) : Option Language :=
  if name == "python" then some .python
  else if name == "javascript" then some .javascript
  else none

/-- Whether a bot answers, rests, or has failed. -/
inductive Status
  | running
  | stopped
  | error
  deriving DecidableEq, Repr, Inhabited

/-- The name of a state. -/
def Status.name : Status → String
  | .running => "running"
  | .stopped => "stopped"
  | .error => "error"

/-- The state with a given name. -/
def Status.ofName? (name : String) : Option Status :=
  if name == "running" then some .running
  else if name == "stopped" then some .stopped
  else if name == "error" then some .error
  else none

theorem Language.ofName?_name (language : Language) : ofName? language.name = some language := by
  cases language <;> rfl

theorem Status.ofName?_name (status : Status) : ofName? status.name = some status := by
  cases status <;> rfl

/-- Why an operation on bots is refused. -/
inductive Refusal
  /-- No bot has this number. -/
  | unknownBot (id : Int)
  /-- The token is blank. -/
  | blankToken
  /-- The value names no language. -/
  | unknownLanguage (given : Json)
  /-- The value names no state. -/
  | unknownStatus (given : Json)
  /-- A record has no field of this name. -/
  | unknownField (name : String)

/-- The wording of a refusal. -/
def Refusal.message : Refusal → String
  | .unknownBot id => s!"Unknown bot id: {id}"
  | .blankToken => "Telegram Bot Token is required."
  | .unknownLanguage given => given.shown ++ " is not a valid Language"
  | .unknownStatus given => given.shown ++ " is not a valid BotStatus"
  | .unknownField name =>
      "BotRecord.__init__() got an unexpected keyword argument '" ++ name ++ "'"

/-- The language that a value names. -/
def Language.ofJson (given : Json) : Except Refusal Language :=
  match given with
  | .str name =>
      match ofName? name with
      | some language => .ok language
      | none => .error (.unknownLanguage given)
  | _ => .error (.unknownLanguage given)

/-- The state that a value names. -/
def Status.ofJson (given : Json) : Except Refusal Status :=
  match given with
  | .str name =>
      match ofName? name with
      | some status => .ok status
      | none => .error (.unknownStatus given)
  | _ => .error (.unknownStatus given)

end BotBench
