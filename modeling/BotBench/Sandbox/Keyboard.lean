import BotBench.Sandbox.Host
import BotBench.Script.Library.Objects

/-! # Keyboards

A handler hands a keyboard to its reply in many shapes: as rows of buttons, as one row, with or
without a wrapping. `rowsOf` finds the rows; what is no button is left out. -/

namespace BotBench.Sandbox

open Script Script.Run Text

variable (inner : Evaluator)

/-- Whether a value is an object that cannot be called. -/
def isRecord (value : Value) : Run Bool := do
  if value.isObject then return !(← isCallable value) else return false

/-- The button that an entry of a row is: a text, or an object with a text, which also has a payload
if one is given. -/
def toButton? (entry : Value) : Run (Option OfferedButton) := do
  match entry with
  | .text text => return some { text, payload := none }
  | entry =>
      unless ← isRecord entry do return none
      if (← read inner entry "text").isUndefined then return none
      let text ← describedText inner (← read inner entry "text")
      if (← read inner entry "callback_data").isUndefined then return some { text, payload := none }
      let payload ← describedText inner (← read inner entry "callback_data")
      return some { text, payload := some payload }

/-- The entries of a list, in order. -/
def entriesOfList (list : Value) : Run (List Value) := do
  let length ← lengthProperty inner list
  (List.range length).mapM fun place => do read inner list (.index place)

/-- The buttons of a row. An entry that is no list is a row of its own. -/
def toRow (row : Value) : Run (List OfferedButton) := do
  let entries ← if ← isArray row then entriesOfList inner row else pure [row]
  entries.filterMapM (toButton? inner)

/-- The rows of a keyboard. A list without lists in it is one row. -/
def toRows (keyboard : Value) : Run (List (List OfferedButton)) := do
  unless ← isArray keyboard do return []
  let entries ← entriesOfList inner keyboard
  let areRows ← entries.anyM isArray
  if areRows then entries.mapM (toRow inner)
  else return [← entries.filterMapM (toButton? inner)]

/-- The object that holds the keyboard of a reply: the one under `reply_markup`, if it is an object,
or else what was given itself. -/
def keyboardHolder (extra : Value) : Run Value := do
  let wrapped ← read inner extra "reply_markup"
  if ← isRecord wrapped then return wrapped else return extra

/-- The rows of buttons in what a handler hands to a reply. -/
def rowsOf (extra : Value) : Run (List (List OfferedButton)) := do
  unless ← isRecord extra do return []
  let holder ← keyboardHolder inner extra
  let inline ← read inner holder "inline_keyboard"
  toRows inner (← if inline.isTruthy then pure inline else read inner holder "keyboard")

end BotBench.Sandbox
