import BotBench.Proofs.Sandbox.Shape
import Mathlib.Data.List.Forall2
import Mathlib.Data.Option.Basic

/-! # The normal form of a layout

A layout is made of rows of which none is empty, and what is made of such rows is the layout itself.
Written as objects it is read back by the reader of sandbox outcomes, callback buttons as callback
buttons and reply buttons as reply buttons, so that messages that are written alike agree
(`BotBench.Layout.normal_form`). -/

namespace BotBench

/-! ## Agreement -/

/-- Values agree as data does: the fields of an object count whatever their order is. -/
inductive Json.Agree : Json → Json → Prop
  | same (value : Json) : Agree value value
  | arr {first second : List Json} (items : List.Forall₂ Agree first second) :
      Agree (.arr first) (.arr second)
  | obj {first second : List (String × Json)}
      (fields : ∀ name, Option.Rel Agree (field? name first) (field? name second)) :
      Agree (.obj first) (.obj second)

/-- Buttons of one kind agree when their texts and payloads do. -/
inductive Button.Agree : Button → Button → Prop
  | reply {first second : Json} (text : first.Agree second) : Agree (.reply first) (.reply second)
  | callback {first second payload other : Json} (text : first.Agree second)
      (payloads : payload.Agree other) : Agree (.callback first payload) (.callback second other)

/-- Layouts agree row by row and button by button. -/
def Layout.Agree (first second : Layout) : Prop :=
  List.Forall₂ (List.Forall₂ Button.Agree) first.rows second.rows

/-- Messages agree when their texts and their layouts do. -/
structure Message.Agree (first second : Message) : Prop where
  text : first.text.Agree second.text
  buttons : Option.Rel Layout.Agree first.buttons second.buttons

theorem Json.agree_str_iff {s : String} {value : Json} :
    Json.Agree (.str s) value ↔ value = .str s := by
  constructor
  · rintro ⟨⟩
    rfl
  · rintro rfl
    exact .same _

theorem Json.agree_arr_iff {first second : List Json} :
    Json.Agree (.arr first) (.arr second) ↔ List.Forall₂ Json.Agree first second := by
  constructor
  · intro agree
    cases agree with
    | same => exact List.forall₂_same.mpr fun item _ => .same item
    | arr items => exact items
  · exact .arr

theorem Json.agree_obj_iff {first second : List (String × Json)} :
    Json.Agree (.obj first) (.obj second) ↔
      ∀ name, Option.Rel Json.Agree (field? name first) (field? name second) := by
  constructor
  · intro agree name
    cases agree with
    | same =>
        cases field? name first with
        | none => exact .none
        | some value => exact .some (.same value)
    | obj fields => exact fields name
  · exact .obj

/-- What objects that agree hold under a name agrees. -/
theorem Json.Agree.field {first second : List (String × Json)}
    (agree : Json.Agree (.obj first) (.obj second)) (name : String) :
    Option.Rel Json.Agree (field? name first) (field? name second) :=
  Json.agree_obj_iff.mp agree name

theorem Json.field?_cons {name other : String} {value : Json} {fields : List (String × Json)} :
    field? name ((other, value) :: fields) =
      if other = name then some value else field? name fields := by
  by_cases same : other = name <;> simp [field?, same]

/-- Objects with the same names in the same order agree when their values do. -/
theorem Json.agree_of_fields {first second : List (String × Json)}
    (fields : List.Forall₂ (fun a b => a.1 = b.1 ∧ Json.Agree a.2 b.2) first second) :
    Json.Agree (.obj first) (.obj second) := by
  rw [Json.agree_obj_iff]
  intro name
  induction fields with
  | nil => exact .none
  | @cons a b first second both rest ih =>
      obtain ⟨named, value⟩ := a
      obtain ⟨rfl, agree⟩ := both
      rw [field?_cons, field?_cons]
      split
      · exact .some agree
      · exact ih

theorem Button.agree_toJson_iff {first second : Button} :
    first.toJson.Agree second.toJson ↔ first.Agree second := by
  constructor
  · intro agree
    cases first with
    | reply text =>
        cases second with
        | reply other => exact .reply (Option.rel_some_some.mp (Json.Agree.field agree "text"))
        | callback other payload => cases Json.Agree.field agree "callback_data"
    | callback text payload =>
        cases second with
        | reply other => cases Json.Agree.field agree "callback_data"
        | callback other payload' =>
            exact .callback (Option.rel_some_some.mp (Json.Agree.field agree "text"))
              (Option.rel_some_some.mp (Json.Agree.field agree "callback_data"))
  · rintro (⟨text⟩ | ⟨text, payloads⟩)
    · exact Json.agree_of_fields (.cons ⟨rfl, text⟩ .nil)
    · exact Json.agree_of_fields (.cons ⟨rfl, text⟩ (.cons ⟨rfl, payloads⟩ .nil))

theorem Layout.agree_toJson_iff {first second : Layout} :
    first.toJson.Agree second.toJson ↔ first.Agree second := by
  simp only [Layout.toJson, Json.agree_arr_iff, List.forall₂_map_left_iff,
    List.forall₂_map_right_iff, Button.agree_toJson_iff, Layout.Agree]

/-! ## Textual messages -/

/-- The text of a button is text, and so is its payload. -/
inductive Button.IsTextual : Button → Prop
  | reply (text : String) : IsTextual (.reply (.str text))
  | callback (text payload : String) : IsTextual (.callback (.str text) (.str payload))

/-- The text of a message is text, and its buttons are textual. -/
structure Message.IsTextual (message : Message) : Prop where
  text : ∃ s : String, message.text = .str s
  buttons : ∀ layout ∈ message.buttons, ∀ row ∈ layout.rows, ∀ button ∈ row, button.IsTextual

theorem Button.IsTextual.eq_of_agree {first second : Button} (textual : first.IsTextual)
    (agree : first.Agree second) : first = second := by
  cases textual with
  | reply text =>
      cases agree with
      | reply texts => rw [Json.agree_str_iff.mp texts]
  | callback text payload =>
      cases agree with
      | callback texts payloads =>
          rw [Json.agree_str_iff.mp texts, Json.agree_str_iff.mp payloads]

theorem eq_of_forall₂ {α : Type} {related : α → α → Prop} {first second : List α}
    (each : ∀ a ∈ first, ∀ b, related a b → a = b) (all : List.Forall₂ related first second) :
    first = second := by
  rw [← List.forall₂_eq_eq_eq]
  exact ((List.forall₂_and_left _ _).mpr ⟨each, all⟩).imp fun a b both => both.1 b both.2

theorem Layout.eq_of_agree {first second : Layout}
    (textual : ∀ row ∈ first.rows, ∀ button ∈ row, button.IsTextual)
    (agree : first.Agree second) : first = second := by
  refine Layout.ext (eq_of_forall₂ (fun row member other => ?_) agree)
  exact eq_of_forall₂ fun button held other => (textual row member button held).eq_of_agree

theorem Message.IsTextual.eq_of_agree {first second : Message} (textual : first.IsTextual)
    (sender : first.sender = second.sender) (agree : first.Agree second) : first = second := by
  have text : second.text = first.text := by
    obtain ⟨written, isText⟩ := textual.text
    have texts := agree.text
    rw [isText] at texts ⊢
    exact Json.agree_str_iff.mp texts
  have buttons : first.buttons = second.buttons := by
    have layouts := agree.buttons
    have held := textual.buttons
    generalize first.buttons = given at layouts held
    generalize second.buttons = other at layouts
    cases layouts with
    | none => rfl
    | some agree => rw [Layout.eq_of_agree (held _ rfl) agree]
  cases first
  cases second
  simp_all only

/-! ## Written messages -/

/-- Messages of one sender are written alike exactly if they agree. -/
theorem Message.agree_toJson_iff {first second : Message} (sender : first.sender = second.sender) :
    first.toJson.Agree second.toJson ↔ first.Agree second := by
  obtain ⟨origin, text, buttons⟩ := first
  obtain ⟨_, other, buttons'⟩ := second
  obtain rfl := sender
  constructor
  · intro agree
    cases buttons with
    | none =>
        cases buttons' with
        | none => exact ⟨Option.rel_some_some.mp (Json.Agree.field agree "text"), .none⟩
        | some layout' => cases Json.Agree.field agree "buttons"
    | some layout =>
        cases buttons' with
        | none => cases Json.Agree.field agree "buttons"
        | some layout' =>
            have layouts := Option.rel_some_some.mp (Json.Agree.field agree "buttons")
            exact ⟨Option.rel_some_some.mp (Json.Agree.field agree "text"),
              .some (Layout.agree_toJson_iff.mp layouts)⟩
  · rintro ⟨text, buttons⟩
    have sender : Json.Agree (.str origin.name) (.str origin.name) := .same _
    cases buttons with
    | none => exact Json.agree_of_fields (.cons ⟨rfl, sender⟩ (.cons ⟨rfl, text⟩ .nil))
    | some layouts =>
        have written := Layout.agree_toJson_iff.mpr layouts
        exact Json.agree_of_fields
          (.cons ⟨rfl, sender⟩ (.cons ⟨rfl, text⟩ (.cons ⟨rfl, written⟩ .nil)))

/-! ## Rows -/

namespace Layout

variable {rows : List (List Button)} {layout : Layout}

theorem ofRows?_eq_some_iff :
    ofRows? rows = some layout ↔ layout.rows = rows.filter fun row => !row.isEmpty := by
  unfold ofRows?
  dsimp only
  split_ifs with filled
  · rw [Option.some.injEq, Layout.ext_iff]
    exact eq_comm
  · exact iff_of_false nofun fun same => layout.rows_ne_nil (same.trans (not_not.mp filled))

theorem ofRows?_eq_none_iff : ofRows? rows = none ↔ ∀ row ∈ rows, row = [] := by
  simp [ofRows?]

theorem ofRows?_rows (layout : Layout) : ofRows? layout.rows = some layout := by
  rw [ofRows?_eq_some_iff, eq_comm, List.filter_eq_self]
  simpa using layout.row_ne_nil

end Layout

/-! ## Reading back -/

namespace Outcome

theorem toButton_toJson (button : Button) : toButton button.toJson = .ok button := by
  cases button <;> rfl

theorem toRow_toJson (row : List Button) : toRow (.arr (row.map Button.toJson)) = .ok row := by
  have read := mapM_ok fun button (_ : button ∈ row) => toButton_toJson button
  rwa [List.map_id'] at read

/-- A reply whose rows are those of a layout has the layout. -/
theorem toReply_toJson {fields : List (String × Json)} {text : Json} {layout : Layout}
    (rows : Json.field? "rows" fields = some layout.toJson)
    (held : Json.field? "text" fields = some text) :
    toReply fields = .ok { text, buttons := some layout } := by
  have read := mapM_ok fun row (_ : row ∈ layout.rows) => toRow_toJson row
  rw [List.map_id'] at read
  rw [toReply, rows, Option.getD_some, Layout.toJson, items]
  simp only [bind, Except.bind, read, subscript, held, Layout.ofRows?_rows]
  rfl

end Outcome

/-- **Layouts have one normal form, and they are read back from what is written of them.** Rows make
a layout unless all of them are empty: the rows that are not, unchanged and in order. The rows of a
layout make the layout. A reply that holds the rows of a layout as they are written is read with
that layout; a callback button is not taken for a reply button, whatever its payload is. So messages
of one sender are written alike, up to the order of fields, exactly if their texts and layouts
agree, and different textual messages are written differently. -/
theorem Layout.normal_form :
    (∀ rows : List (List Button),
      (ofRows? rows = none ↔ ∀ row ∈ rows, row = []) ∧
      ∀ layout, ofRows? rows = some layout →
        layout.rows = (rows.filter fun row => !row.isEmpty) ∧ ∀ row ∈ layout.rows, row ≠ []) ∧
    (∀ layout : Layout, ofRows? layout.rows = some layout) ∧
    (∀ (layout : Layout) (text : Json) (fields : List (String × Json)),
      Json.field? "rows" fields = some layout.toJson → Json.field? "text" fields = some text →
      Outcome.toReply fields = .ok { text, buttons := some layout }) ∧
    (∀ text other payload : Json,
      ¬(Button.reply text).toJson.Agree (Button.callback other payload).toJson) ∧
    ∀ first second : Message, first.sender = second.sender →
      (first.toJson.Agree second.toJson ↔ first.Agree second) ∧
        (first.IsTextual → first.toJson.Agree second.toJson → first = second) := by
  refine ⟨fun rows => ⟨ofRows?_eq_none_iff, fun layout made => ?_⟩, ofRows?_rows,
    fun layout text fields rows held => Outcome.toReply_toJson rows held,
    fun text other payload agree => ?_,
    fun first second sender => ⟨Message.agree_toJson_iff sender, fun textual agree => ?_⟩⟩
  · exact ⟨ofRows?_eq_some_iff.mp made, layout.row_ne_nil⟩
  · cases Button.agree_toJson_iff.mp agree
  · exact textual.eq_of_agree sender ((Message.agree_toJson_iff sender).mp agree)

/-- A reply button and a callback button of the same text, whose payload is its text. -/
def Layout.twins : Layout where
  rows := [[.reply (.str "Yes"), .callback (.str "Yes") (.str "Yes")]]
  rows_ne_nil := by simp
  row_ne_nil := by simp

/-- A message with the two buttons. -/
def Message.question : Message where
  sender := .bot
  text := .str "Sure?"
  buttons := some Layout.twins

theorem Message.question_isTextual : question.IsTextual where
  text := ⟨"Sure?", rfl⟩
  buttons := by
    rintro layout ⟨⟩
    simp only [Layout.twins, List.forall_mem_singleton, List.forall_mem_cons]
    exact ⟨.reply "Yes", .callback "Yes" "Yes"⟩

/-- The two buttons are read back, and the message without them is written otherwise. -/
theorem Layout.normal_form_question :
    ofRows? twins.rows = some twins ∧
      Outcome.toReply [("text", .str "Sure?"), ("rows", twins.toJson)] =
        .ok { text := .str "Sure?", buttons := some twins } ∧
      ¬Message.question.toJson.Agree { Message.question with buttons := none }.toJson := by
  obtain ⟨-, again, read, -, alike⟩ := Layout.normal_form
  refine ⟨again twins, read twins _ _ rfl rfl, fun agree => ?_⟩
  have written := alike Message.question { Message.question with buttons := none } rfl
  cases congrArg Message.buttons (written.2 Message.question_isTextual agree)

end BotBench
