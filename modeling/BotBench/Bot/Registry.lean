import BotBench.Bot.Record
import BotBench.Settings.Basic

/-! # The registry

The registry holds the records in the order of their creation and gives out their numbers, each
once. Log lines carry the time at which they were written, and logs and transcripts keep a window on
their last entries. -/

namespace BotBench

/-- The last `limit` items of a list; a limit that is not positive keeps all of them. -/
def window {α : Type} (limit : Int) (items : List α) : List α :=
  if 0 < limit then items.drop (items.length - limit.toNat) else items

/-- A log line with its time in whole milliseconds. -/
def stamped (time : Int) (text : String) : String := s!"[{time}] " ++ text

/-- The records by their numbers, and the number of the next bot. -/
structure Registry where
  slots : List (Int × Record) := []
  nextId : Int := 1

namespace Registry

/-- The record of a bot, if there is one. -/
def find? (registry : Registry) (id : Int) : Option Record :=
  (registry.slots.find? fun slot => slot.1 == id).map (·.2)

/-- The record of a bot. -/
def get (registry : Registry) (id : Int) : Except Refusal Record :=
  match registry.find? id with
  | some record => .ok record
  | none => .error (.unknownBot id)

/-- All records in the order of their creation. -/
def records (registry : Registry) : List Record := registry.slots.map (·.2)

/-- Put a record into the slot of a bot. -/
def put (registry : Registry) (id : Int) (record : Record) : Registry :=
  { registry with
    slots := registry.slots.map fun slot => if slot.1 == id then (id, record) else slot }

/-- Create the record of a new bot. -/
def create (registry : Registry) (time : Int) (code token : String) (language : Language) :
    Record × Registry :=
  let id := registry.nextId
  let record : Record :=
    { id, name := s!"Bot #{id}", status := .stopped, code, token, language,
      logs := [stamped time "Bot created."] }
  (record, { slots := registry.slots ++ [(id, record)], nextId := id + 1 })

/-- Remove a bot and return its record. -/
def remove (registry : Registry) (id : Int) : Except Refusal (Record × Registry) := do
  let record ← registry.get id
  return (record, { registry with slots := registry.slots.filter fun slot => slot.1 != id })

/-- Change a record and write a line into its log, which overrides a change of the log itself. -/
def update (registry : Registry) (limits : Settings) (time : Int) (id : Int) (log : Option String)
    (changes : List Change) : Except Refusal (Record × Registry) := do
  let record ← registry.get id
  let changed ← Change.applyAll record changes
  let updated :=
    match log with
    | some text =>
        { changed with logs := window limits.logLimit (record.logs ++ [stamped time text]) }
    | none => changed
  return (updated, registry.put id updated)

/-- Write a line into a bot's log. -/
def appendLog (registry : Registry) (limits : Settings) (time : Int) (id : Int) (text : String) :
    Except Refusal (Record × Registry) :=
  registry.update limits time id (some text) []

/-- Append a message to a bot's transcript. -/
def appendMessage (registry : Registry) (limits : Settings) (time : Int) (id : Int)
    (message : Message) : Except Refusal (Record × Registry) := do
  let record ← registry.get id
  registry.update limits time id none
    [.messages (window limits.transcriptLimit (record.messages ++ [message]))]

end Registry

end BotBench
