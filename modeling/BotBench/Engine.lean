import BotBench.Bot.Language
import BotBench.Mining.Extraction
import BotBench.Sandbox.Rehearsal

/-! # Engines

The engine of a language simulates a bot: from its source, its token and a message it finds the
reply. -/

namespace BotBench.Engine

/-- The log entries about an extraction. -/
def miningLog (source message : String) : List LogEntry :=
  match Mining.extract source message with
  | .ok _ => []
  | .error miss =>
      match miss.note? with
      | some note => [⟨.debug, note⟩]
      | none => []

/-- Simulate a bot by mining its source. -/
def mine (source message : String) : Simulation where
  log := miningLog source message
  answer := .ok (Mining.reply? source message)

/-- Simulate a bot in its language. -/
def simulate (settings : Settings) (language : Language) (source token message : String) :
    Simulation :=
  match language with
  | .python => mine source message
  | .javascript => Sandbox.simulate settings source token message

/-- Simulate a bot in the language that a value names. Other languages have no engine. -/
def simulateNamed (settings : Settings) (language : Json) (source token message : String) :
    Simulation :=
  match Language.ofJson language with
  | .ok language => simulate settings language source token message
  | .error _ => { answer := .error (.unsupported language) }

end BotBench.Engine
