import BotBench.Script.Value

/-! # The host of a script

What the sandbox keeps while a script runs: the bot that was constructed last, the lines that were
written to the console, and the first reply that was made. -/

namespace BotBench.Sandbox

open Script Text

/-- A button of a reply. -/
structure OfferedButton where
  text : Utf16
  payload : Option Utf16
  deriving DecidableEq, Repr, Inhabited

/-- A reply as the script made it: its text and its rows of buttons, which may be empty. -/
structure Draft where
  text : Utf16
  rows : List (List OfferedButton)
  deriving DecidableEq, Repr, Inhabited

/-- What the sandbox keeps while a script runs. -/
structure Host where
  bot : Option Ref := none
  lines : Array Utf16 := #[]
  reply : Option Draft := none
  deriving Inhabited

end BotBench.Sandbox
