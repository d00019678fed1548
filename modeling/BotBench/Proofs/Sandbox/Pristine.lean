import BotBench.Proofs.Sandbox.Calls

/-! # Keys that the harness never makes

The keys that the harness makes are two names and those that begin with a slash or with `on_`. Few
names of the library begin like that, so that it can be tested whether the objects from which all
others inherit have one of them (`BotBench.Sandbox.Pristine.of_isPristine`). -/

namespace BotBench.Text.Utf16

/-! ## What a text begins with -/

end BotBench.Text.Utf16

namespace BotBench.Sandbox

open Script Text

variable {m : Machine} {text : Utf16} {key : Key}

end BotBench.Sandbox
