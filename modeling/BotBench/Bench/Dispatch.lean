import BotBench.Bench.State

/-! # Chat turns

A message to a running bot enters the transcript, is put to the engine, and is answered by the
engine's reply, by a report of its failure, or not at all. A bot that is not running ignores
messages. -/

namespace BotBench.Bench

/-- Why a chat turn has no result. -/
inductive TurnFault
  | refused (refusal : Refusal)
  | simulation (fault : SimulationFault)

/-- The lines written before the engine is asked. -/
def openingLines (language : Language) (text : String) : List String :=
  ["User message received: \"" ++ text ++ "\"", "Simulating bot response via code execution..."] ++
    (if language == .python then
      ["Python simulation is regex-based and may not cover all edge cases."]
    else [])

/-- Write several lines into a bot's log. -/
def appendLines (config : Config) (b : Bench) (id : Int) (lines : List String) : Bench :=
  lines.foldl (fun b line => b.after (b.appendLog config id line)) b

/-- Append a message of the bot and a line about it. -/
def concludeTurn (config : Config) (b : Bench) (id : Int) (message : Option Message)
    (line : String) (lineFirst : Bool) : Bench :=
  let appended (b : Bench) : Bench :=
    match message with
    | some message => b.after (b.appendMessage config id message)
    | none => b
  if lineFirst then appended (b.appendLines config id [line])
  else (appended b).appendLines config id [line]

/-- Run one chat turn. The bench is changed even when the engine fails in a way that is not reported
to the user. -/
def send (config : Config) (b : Bench) (id : Int) (text : String) :
    Bench × Except TurnFault (Option Message) :=
  match b.registry.get id with
  | .error refusal => (b, .error (.refused refusal))
  | .ok record =>
      if record.status != .running then
        (b.note .info
            ("Ignoring message for " ++ record.name ++ " in status " ++ record.status.name),
          .ok none)
      else
        let b := b.after (b.appendMessage config id { sender := .user, text := .str text })
        let b := b.appendLines config id (openingLines record.language text)
        let simulation := config.engine record.language record.code record.token text
        let b := { b with log := b.log ++ simulation.log }
        match simulation.answer with
        | .error (.sandbox problem) =>
            let b := b.note .warning ("Simulation failed for " ++ record.name ++ ": " ++ problem)
            let message : Message :=
              { sender := .bot
                text := .str ("Sorry, an error occurred in the simulation: " ++ problem) }
            (b.concludeTurn config id (some message) ("Error: " ++ problem) true,
              .ok (some message))
        | .error fault => (b, .error (.simulation fault))
        | .ok none =>
            (b.concludeTurn config id none "Code did not produce a reply for this message." true,
              .ok none)
        | .ok (some reply) =>
            let message := reply.toMessage
            (b.concludeTurn config id (some message)
              ("Simulation sent reply: \"" ++ reply.text.display ++ "\"") false, .ok (some message))

end BotBench.Bench
