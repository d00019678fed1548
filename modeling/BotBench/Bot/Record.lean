import BotBench.Bot.Language
import BotBench.Chat.Message

/-! # Bot records

A record describes one simulated deployment. It is a value: every change makes a new record. The
generation counts the user's interventions, so that a delayed step can tell whether it is stale. -/

namespace BotBench

open Number

/-- One simulated deployment. The usage figures are exact values of floating-point numbers. -/
structure Record where
  id : Int
  name : String
  status : Status
  code : String
  token : String
  language : Language
  logs : List String := []
  messages : List Message := []
  cpuUsage : Rat := 0
  ramUsage : Rat := 0
  generation : Int := 0

namespace Record

/-- The fields of a record that its users see. -/
def publicFields (record : Record) : List (String × Json) :=
  [("id", .int record.id), ("name", .str record.name), ("status", .str record.status.name),
    ("code", .str record.code), ("token", .str record.token),
    ("language", .str record.language.name), ("logs", .arr (record.logs.map .str)),
    ("messages", .arr (record.messages.map Message.toJson)),
    ("cpu_usage", .float (floatOfRat record.cpuUsage)),
    ("ram_usage", .float (floatOfRat record.ramUsage))]

/-- The record as an object. -/
def toJson (record : Record) : Json := .obj record.publicFields

/-- The record with its generation. -/
def toFullJson (record : Record) : Json :=
  .obj (record.publicFields ++ [("generation", .int record.generation)])

end Record

/-- A change of one field of a record. -/
inductive Change
  | id (value : Int)
  | name (value : String)
  | status (value : Status)
  | code (value : String)
  | token (value : String)
  | language (value : Language)
  | logs (value : List String)
  | messages (value : List Message)
  | cpuUsage (value : Rat)
  | ramUsage (value : Rat)
  | generation (value : Int)
  | unknown (field : String)

namespace Change

/-- Change one field; there is no record with an unknown field. -/
def apply (record : Record) : Change → Except Refusal Record
  | .id value => .ok { record with id := value }
  | .name value => .ok { record with name := value }
  | .status value => .ok { record with status := value }
  | .code value => .ok { record with code := value }
  | .token value => .ok { record with token := value }
  | .language value => .ok { record with language := value }
  | .logs value => .ok { record with logs := value }
  | .messages value => .ok { record with messages := value }
  | .cpuUsage value => .ok { record with cpuUsage := value }
  | .ramUsage value => .ok { record with ramUsage := value }
  | .generation value => .ok { record with generation := value }
  | .unknown field => .error (.unknownField field)

/-- Change several fields, one after the other. -/
def applyAll (record : Record) (changes : List Change) : Except Refusal Record :=
  changes.foldlM apply record

end Change

end BotBench
