import BotBench.Proofs.Sandbox.Trial

/-! # What comes of a simulation

A script is run, and then the handler that it has registered is called. Both write lines and the
handler replies, and either may throw an error. Whatever else they do, what comes of it is known
from the lines, the replies and the ending (`BotBench.Sandbox.simulate_course`): all lines are
logged, an error is reported even if there are replies, and else the first reply is the answer. -/

namespace BotBench.Sandbox

open Script Script.Run Text Number

variable {evaluator : Evaluator} {m m' m₀ m₁ m₃ start : Machine} {settings : Settings}
  {source token message key : String} {thrown handler context value : Value} {problem : Utf16}
  {events later : List Event} {lines : List Utf16} {draft : Draft}

/-! ## Endings -/

/-- How the script and its handler end: with an error that has a message, or with the end of the
handler for a key. -/
inductive Ending
  | threw (problem : Utf16)
  | returned (key : String)

/-- The log entries of console lines. -/
def consoleEntries (lines : List Utf16) : List LogEntry :=
  lines.map fun line => ⟨.debug, "bot console: " ++ line.toString⟩

/-- What comes of some events and an ending. -/
def Ending.simulation (events : List Event) : Ending → Simulation
  | .threw problem =>
      { log := consoleEntries (printedLines events)
        answer := .error (.sandbox ("execution failed: " ++ problem.toString)) }
  | .returned key =>
      match firstDraft? events with
      | none =>
          { log := consoleEntries (printedLines events) ++
              [⟨.debug, "No reply produced for handler key " ++ key⟩]
            answer := .ok none }
      | some draft =>
          { log := consoleEntries (printedLines events), answer := .ok (some draft.toReply) }

/-- A script ends well, and the handler of its bot for the message is a function, which is then
called with a context. -/
structure Resolves (source token message : String) (start m₀ m₁ m₃ : Machine) (key : String)
    (handler context : Value) : Prop where
  script : ∃ gifts, (makeGifts token).run start = .ok gifts m₀ ∧
    (runScript .standard source gifts).run m₀ = .ok () m₁
  handler : ∃ bot m₂, m₁.host.bot = some bot ∧
    (findHandler .standard (.object bot) message).run m₁ = .ok (key, handler) m₂ ∧
    Aside m₁ m₂ ∧ m₂.isFunction handler = true ∧
    (makeContext message).run m₂ = .ok context m₃

namespace Resolves

/-- The context is made, and the handler looked up, without a line or a reply. -/
theorem performs (resolves : Resolves source token message start m₀ m₁ m₃ key handler context)
    (first : Performs m₀ events m₁) (second : Performs m₃ later m) :
    Performs m₀ (events ++ later) m := by
  obtain ⟨bot, m₂, -, -, aside, -, made⟩ := resolves.handler
  have kept : m₃.host = m₂.host := (KeepsHost.makeContext message).host_eq made
  have aside' : Aside m₂ m₃ := ⟨congrArg Host.lines kept, congrArg Host.reply kept⟩
  exact ((first.aside aside).aside aside').trans second

end Resolves

end BotBench.Sandbox
