import BotBench.Json.Basic

/-! # Buttons and their layout

A reply may carry rows of buttons. A reply button sends its own text when pressed, a callback button
sends a payload of its own. A layout never has an empty row and is never empty: `Layout.ofRows?`
drops empty rows and gives nothing when none is left. -/

namespace BotBench

/-- A button under a message. Texts and payloads are plain data: they are text unless a script says
otherwise. -/
inductive Button
  | reply (text : Json)
  | callback (text payload : Json)
  deriving Inhabited

namespace Button

/-- What pressing the button sends. -/
def payload : Button → Json
  | .reply text => text
  | .callback _ payload => payload

/-- The button as an object; the payload is written exactly for callback buttons. -/
def toJson : Button → Json
  | .reply text => .obj [("text", text)]
  | .callback text payload => .obj [("text", text), ("callback_data", payload)]

/-- Read a button from the fields of an object: it is a callback button exactly when the payload is
written, even as null. A button without a text is refused. -/
def ofFields? (fields : List (String × Json)) : Option Button :=
  match Json.field? "text" fields, Json.field? "callback_data" fields with
  | some text, some payload => some (.callback text payload)
  | some text, none => some (.reply text)
  | none, _ => none

/-- Reading back the fields of a written button gives the button. -/
theorem ofFields?_toJson (button : Button) :
    ∃ fields, button.toJson = .obj fields ∧ ofFields? fields = some button := by
  cases button with
  | reply text => exact ⟨_, rfl, rfl⟩
  | callback text payload => exact ⟨_, rfl, rfl⟩

end Button

/-- Rows of buttons without an empty row, at least one. -/
structure Layout where
  rows : List (List Button)
  rows_ne_nil : rows ≠ []
  row_ne_nil : ∀ row ∈ rows, row ≠ []

namespace Layout

/-- The layout of a list of rows: empty rows are dropped, and nothing is left of empty rows alone.
-/
def ofRows? (rows : List (List Button)) : Option Layout :=
  let kept := rows.filter fun row => !row.isEmpty
  if h : kept ≠ [] then
    some ⟨kept, h, fun row member => by
      have := (List.mem_filter.1 member).2
      intro empty
      simp [empty] at this⟩
  else none

/-- The payloads of all buttons, row by row. -/
def payloads (layout : Layout) : List (List Json) :=
  layout.rows.map fun row => row.map Button.payload

/-- The layout as rows of button objects. -/
def toJson (layout : Layout) : Json :=
  .arr (layout.rows.map fun row => .arr (row.map Button.toJson))

@[ext]
theorem ext {first second : Layout} (rows : first.rows = second.rows) : first = second := by
  cases first
  cases second
  cases rows
  rfl

end Layout

end BotBench
