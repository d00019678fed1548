import BotBench.Bot.Language
import BotBench.Number.Numeral

/-! # Parameters of requests

Parameters in paths and queries are text and are read as numbers, truth values and languages; bodies
are plain data and are read as structures. What cannot be read is reported as a flaw with the place
where it was found. -/

namespace BotBench.Http

open Text Number

/-- Why a parameter cannot be read. -/
inductive FlawKind
  | missing
  | notString
  | notLanguage
  | notWhole
  | notTruth
  | notObject
  deriving DecidableEq, Repr

/-- The name of a kind of flaw. -/
def FlawKind.name : FlawKind → String
  | .missing => "missing"
  | .notString => "string_type"
  | .notLanguage => "enum"
  | .notWhole => "int_parsing"
  | .notTruth => "bool_parsing"
  | .notObject => "model_attributes_type"

/-- A parameter that cannot be read, and where it stands. -/
structure Flaw where
  kind : FlawKind
  place : List String
  deriving DecidableEq, Repr

/-- A flaw as an object. -/
def Flaw.toJson (flaw : Flaw) : Json :=
  .obj [("type", .str flaw.kind.name), ("loc", .arr (flaw.place.map .str))]

/-- A parameter, or its flaws. -/
abbrev Read (α : Type) := Except (List Flaw) α

/-- Both parameters, or the flaws of both. -/
def both {α β : Type} (first : Read α) (second : Read β) : Read (α × β) :=
  match first, second with
  | .ok a, .ok b => .ok (a, b)
  | .error flaws, .ok _ => .error flaws
  | .ok _, .error flaws => .error flaws
  | .error flaws, .error more => .error (flaws ++ more)

/-- Read a whole number: blanks around it, one sign, underscores between digits and a fraction of
zeros are allowed. -/
def readWhole? (s : String) : Option Int :=
  let (negative, cs) := splitSign (trimBlanks s.toList)
  let (digits, rest) := digitRun cs
  let fractionless :=
    match rest with
    | [] => true
    | '.' :: zeros => !zeros.isEmpty && zeros.all (· == '0')
    | _ => false
  if digits.isEmpty || !fractionless then none
  else
    let magnitude : Int := naturalOfDigits digits
    some (if negative then -magnitude else magnitude)

/-- Read the number of a bot in a path. -/
def readBot (text : String) : Read Int :=
  match readWhole? text with
  | some id => .ok id
  | none => .error [⟨.notWhole, ["path", "bot_id"]⟩]

/-- Read the language of a template in a path. -/
def readTemplateLanguage (text : String) : Read Language :=
  match Language.ofName? text with
  | some language => .ok language
  | none => .error [⟨.notLanguage, ["path", "language"]⟩]

/-- Read a truth value. -/
def readTruth? (text : String) : Option Bool :=
  let word := String.ofList (text.toList.map Char.toLower)
  if ["1", "on", "t", "true", "y", "yes"].contains word then some true
  else if ["0", "off", "f", "false", "n", "no"].contains word then some false
  else none

/-- Read whether a request waits. -/
def readWait (query : List (String × String)) : Read Bool :=
  match query.find? fun entry => entry.1 == "wait" with
  | none => .ok false
  | some (_, text) =>
      match readTruth? text with
      | some wait => .ok wait
      | none => .error [⟨.notTruth, ["query", "wait"]⟩]

/-- Read a field of a body that holds text. -/
def readText (name : String) (fields : List (String × Json)) : Read String :=
  match Json.field? name fields with
  | none => .error [⟨.missing, ["body", name]⟩]
  | some (.str text) => .ok text
  | some _ => .error [⟨.notString, ["body", name]⟩]

/-- Read the language of a body. Without one the source is in the indentation language. -/
def readLanguage (fields : List (String × Json)) : Read Language :=
  match Json.field? "language" fields with
  | none => .ok .python
  | some value =>
      match Language.ofJson value with
      | .ok language => .ok language
      | .error _ => .error [⟨.notLanguage, ["body", "language"]⟩]

/-- Read a body that has to be an object. -/
def readObject {α : Type} (body : Option Json) (read : List (String × Json) → Read α) : Read α :=
  match body with
  | none | some .null => .error [⟨.missing, ["body"]⟩]
  | some (.obj fields) => read fields
  | some _ => .error [⟨.notObject, ["body"]⟩]

/-- The source, the token and the language of a bot. -/
def readDeployment (body : Option Json) : Read ((String × String) × Language) :=
  readObject body fun fields =>
    both (both (readText "code" fields) (readText "token" fields)) (readLanguage fields)

/-- The text of a chat message. -/
def readMessage (body : Option Json) : Read String := readObject body (readText "text")

end BotBench.Http
