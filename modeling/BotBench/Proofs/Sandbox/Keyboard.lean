import BotBench.Proofs.Script.Datum
import BotBench.Sandbox.Keyboard

/-! # The rows of a keyboard

What the rows of a keyboard are, said of data: the entries of its items, or the one row of its items
if none of them is a list (`BotBench.Sandbox.rowsOfItems`). The rows of what a handler hands to a
reply are found without calling anything (`BotBench.Sandbox.rowsOf_run`). -/

namespace BotBench.Sandbox

open Script Script.Run Text

/-! ## Rows of data -/

/-- The button that data is: a text, or a record with a text, which also has a payload if one is
given. -/
def buttonOf? (entry : Datum) : Option OfferedButton :=
  match entry with
  | .text text => some { text, payload := none }
  | entry =>
      if (entry.field "text").isUndefined then none
      else
        let payload := entry.field "callback_data"
        some
          { text := (entry.field "text").shown
            payload := if payload.isUndefined then none else some payload.shown }

/-- The row of buttons that data is. What is no list is a row of its own. -/
def rowOf (row : Datum) : List OfferedButton :=
  (if row.isList then row.items else [row]).filterMap buttonOf?

/-- The rows of a list: of each item if one of them is a list, and else one row. -/
def rowsOfItems (items : List Datum) : List (List OfferedButton) :=
  if items.any Datum.isList then items.map rowOf else [items.filterMap buttonOf?]

/-- What holds the keyboard: the record under `reply_markup`, or else what was given itself. -/
def holderOf (extra : Datum) : Datum :=
  if (extra.field "reply_markup").isRecord then extra.field "reply_markup" else extra

/-- The keyboard in what is handed to a reply, under one of two names. -/
def keyboardOf (extra : Datum) : Datum :=
  let inline := (holderOf extra).field "inline_keyboard"
  if inline.isTruthy then inline else (holderOf extra).field "keyboard"

/-- The rows of buttons in what is handed to a reply. -/
def extraRows (extra : Datum) : List (List OfferedButton) :=
  if (keyboardOf extra).isList then rowsOfItems (keyboardOf extra).items else []

/-- The text and the payload of an entry are plain. -/
def IsWorded (entry : Datum) : Prop :=
  (entry.field "text").isPlain = true ∧ (entry.field "callback_data").isPlain = true

/-- The texts and the payloads of a list of entries and lists of entries are plain. -/
def AreWorded (items : List Datum) : Prop :=
  ∀ item ∈ items, IsWorded item ∧ ∀ entry ∈ item.items, IsWorded entry

/-! ## Finding the rows -/

/-- The names that are looked for in what is handed to a reply. -/
def keyboardNames : List String :=
  ["reply_markup", "inline_keyboard", "keyboard", "text", "callback_data"]

variable {inner : Evaluator} {m : Machine} {value : Value} {datum : Datum}
  {items : List Datum} {values : List Value}

theorem isName_of_mem {name : String} (member : name ∈ keyboardNames) :
    Key.ofText (.whole name) = .name (.whole name) ∧ name ≠ "length" := by
  revert name
  decide

theorem read_name (held : Holds m datum value) (isRecord : datum.isRecord = true)
    (bare : Bare keyboardNames m) {name : String} (member : name ∈ keyboardNames) :
    ∃ found, (read inner value (Key.ofText (.whole name))).run m = .ok found m ∧
      Holds m (datum.field (.whole name)) found :=
  held.read_run isRecord bare member (isName_of_mem member).1 (isName_of_mem member).2

theorem isRecord_run (held : Holds m datum value) :
    (isRecord value).run m = .ok datum.isRecord m := by
  cases isPlain : datum.isPlain
  · obtain ⟨ref, rfl⟩ := held.eq_object isPlain
    change (isCallable (.object ref) >>= fun callable => pure !callable).run m = _
    rw [bind_of_ok isCallable_run, pure_run]
    by_cases function : datum = .function
    · subst function
      rw [show m.isFunction (.object ref) = true from held]
      rfl
    · rw [held.isFunction function]
      cases datum <;> first | rfl | contradiction
  · rw [held.eq_plainValue isPlain]
    cases datum <;> first | rfl | cases isPlain

/-- An entry is the button that its data is. -/
theorem toButton?_run (held : Holds m datum value) (bare : Bare keyboardNames m)
    (worded : IsWorded datum) :
    (toButton? inner value).run m = .ok (buttonOf? datum) m := by
  cases isPlain : datum.isPlain
  · obtain ⟨ref, rfl⟩ := held.eq_object isPlain
    rw [toButton?.eq_def]
    simp only
    rw [bind_of_ok (isRecord_run held)]
    cases isRecord : datum.isRecord
    · cases datum <;> first | (cases isPlain; done) | (cases isRecord; done) | rfl
    have button : buttonOf? datum =
        if (datum.field "text").isUndefined then none
        else some
          { text := (datum.field "text").shown
            payload :=
              if (datum.field "callback_data").isUndefined then none
              else some (datum.field "callback_data").shown } := by
      cases datum <;> first | (cases isPlain; done) | rfl
    obtain ⟨text, readText, heldText⟩ :=
      @read_name inner _ _ _ held isRecord bare "text" (by decide)
    obtain ⟨payload, readPayload, heldPayload⟩ :=
      @read_name inner _ _ _ held isRecord bare "callback_data" (by decide)
    rw [button, if_pos rfl, bind_of_ok readText, heldText.isUndefined]
    cases noText : (datum.field "text").isUndefined
    · rw [if_neg (by simp), bind_of_ok readText, bind_of_ok (heldText.describedText_run worded.1),
        bind_of_ok readPayload, heldPayload.isUndefined]
      cases noPayload : (datum.field "callback_data").isUndefined
      · rw [if_neg (by simp), bind_of_ok readPayload,
          bind_of_ok (heldPayload.describedText_run worded.2)]
        rfl
      · rfl
    · rfl
  · rw [held.eq_plainValue isPlain]
    cases datum <;> first | rfl | cases isPlain

theorem entriesOfList_run (held : Holds m (.list items) value) (bare : Bare keyboardNames m) :
    ∃ values, (entriesOfList inner value).run m = .ok values m ∧
      List.Forall₂ (Holds m) items values := by
  obtain ⟨values, length, item, related⟩ := @Holds.read_index inner _ _ _ held bare.places
  refine ⟨values, ?_, related⟩
  rw [entriesOfList, bind_of_ok length, mapM_run fun place member =>
    item place (List.mem_range.mp member)]
  congr 1
  refine List.ext_getElem (by simp) fun place inside _ => ?_
  have there : place < values.length := by simpa using inside
  simp [List.getElem?_eq_getElem there]

/-- A row is the row that its data is. -/
theorem toRow_run (held : Holds m datum value) (bare : Bare keyboardNames m)
    (worded : IsWorded datum ∧ ∀ entry ∈ datum.items, IsWorded entry) :
    (toRow inner value).run m = .ok (rowOf datum) m := by
  rw [toRow, bind_of_ok held.isArray_run, rowOf]
  cases isList : datum.isList
  · have related : List.Forall₂ (Holds m) [datum] [value] := .cons held .nil
    exact filterMapM_forall₂ related fun entry member value held => by
      rw [List.mem_singleton.mp member] at held ⊢
      exact toButton?_run held bare worded.1
  · obtain ⟨items, rfl⟩ := datum.eq_list isList
    obtain ⟨values, entries, related⟩ := @entriesOfList_run inner _ _ _ held bare
    rw [if_pos rfl, bind_of_ok entries]
    exact filterMapM_forall₂ related fun entry member value held =>
      toButton?_run held bare (worded.2 entry member)

theorem toRows_run (held : Holds m datum value) (bare : Bare keyboardNames m)
    (worded : AreWorded datum.items) :
    (toRows inner value).run m =
      .ok (if datum.isList then rowsOfItems datum.items else []) m := by
  rw [toRows, bind_of_ok held.isArray_run]
  cases isList : datum.isList
  · rfl
  · obtain ⟨items, rfl⟩ := datum.eq_list isList
    obtain ⟨values, entries, related⟩ := @entriesOfList_run inner _ _ _ held bare
    have lists := anyM_forall₂ related fun item _ value held => held.isArray_run
    simp only [if_true, bind_of_ok entries, bind_of_ok lists, Datum.items]
    by_cases nested : items.any Datum.isList
    · rw [rowsOfItems, if_pos nested, if_pos nested]
      exact mapM_forall₂ related fun item member value held =>
        toRow_run held bare (worded item member)
    · rw [rowsOfItems, if_neg nested, if_neg nested,
        bind_of_ok (filterMapM_forall₂ related fun item member value held =>
          toButton?_run held bare (worded item member).1)]
      rfl

theorem keyboardHolder_run (held : Holds m datum value) (isRecord : datum.isRecord = true)
    (bare : Bare keyboardNames m) :
    ∃ holder, (keyboardHolder inner value).run m = .ok holder m ∧ Holds m (holderOf datum) holder ∧
      (holderOf datum).isRecord = true := by
  obtain ⟨wrapped, readWrapped, heldWrapped⟩ :=
    @read_name inner _ _ _ held isRecord bare "reply_markup" (by decide)
  rw [keyboardHolder, bind_of_ok readWrapped, bind_of_ok (isRecord_run heldWrapped), holderOf]
  cases holds : (datum.field "reply_markup").isRecord
  · exact ⟨value, rfl, held, isRecord⟩
  · exact ⟨wrapped, rfl, heldWrapped, holds⟩

/-- The rows in what is handed to a reply are those of its data. Nothing is changed by looking for
them. -/
theorem rowsOf_run (held : Holds m datum value) (bare : Bare keyboardNames m)
    (worded : AreWorded (keyboardOf datum).items) :
    (rowsOf inner value).run m = .ok (extraRows datum) m := by
  rw [rowsOf, bind_of_ok (isRecord_run held)]
  cases isRecord : datum.isRecord
  · cases datum <;> first | (cases isRecord; done) | rfl
  obtain ⟨holder, found, heldHolder, holds⟩ := @keyboardHolder_run inner _ _ _ held isRecord bare
  obtain ⟨inline, readInline, heldInline⟩ :=
    @read_name inner _ _ _ heldHolder holds bare "inline_keyboard" (by decide)
  obtain ⟨keyboard, readKeyboard, heldKeyboard⟩ :=
    @read_name inner _ _ _ heldHolder holds bare "keyboard" (by decide)
  simp only [if_true, bind_of_ok found, bind_of_ok readInline, heldInline.isTruthy]
  rw [keyboardOf] at worded
  rw [extraRows, keyboardOf]
  cases truthy : ((holderOf datum).field "inline_keyboard").isTruthy
  · rw [truthy] at worded
    simp only [Bool.false_eq_true, if_false, bind_of_ok readKeyboard]
    exact toRows_run heldKeyboard bare worded
  · rw [truthy] at worded
    exact toRows_run heldInline bare worded

end BotBench.Sandbox
