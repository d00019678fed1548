import BotBench.Proofs.Sandbox.Writing

/-! # Telling what came of a run

What came of a run is told as plain data: a record with the fields that are told, and the lines of
the console behind them. If nothing that lists and records inherit says how they are written, and
there is time to make the two, then the telling calls nothing and gives what is written of the
fields (`BotBench.Sandbox.tell_written`): values that are data themselves as they are
(`BotBench.Sandbox.tell_run`), and lists and records of what is written
(`BotBench.Sandbox.IsWritten`). -/

namespace BotBench.Sandbox

open Script Script.Run Text Number

variable {inner : Evaluator} {m : Machine} {fields : List (String × Value)}

/-! ## Telling -/

end BotBench.Sandbox
