import BotBench.Sandbox.Rehearsal

/-! # The shape of an outcome

A run of a script hands its outcome across as plain data, and the script has a say in what that data
looks like. An outcome that is no object is reported as a failure of the sandbox. An object is read
field by field, and each field must have the shape that the reader relies on
(`BotBench.Outcome.WellFormed`): the console has items, and a reply that is asked for is an object
with a text and with rows of buttons. Simulations are settled, by a reply, by none or by a failure
that the sandbox reports, exactly when that is so (`BotBench.Outcome.settled_ofData_iff`), provided
that the reader of the text has not given up on a number that is too long
(`BotBench.Outcome.settled_decode_iff`, `BotBench.Outcome.not_readable_of_digits`). -/

namespace BotBench

/-- A simulation is settled when it has a reply, has none, or reports a failure of the sandbox. -/
def Simulation.Settled (simulation : Simulation) : Prop :=
  (∃ reply, simulation.answer = .ok reply) ∨
    ∃ problem, simulation.answer = .error (.sandbox problem)

namespace Outcome

/-- A value that has items, all of which are good: an array has its items, a text its characters,
and an object the names of its fields. -/
inductive Each (good : Json → Prop) : Json → Prop
  | array {items : List Json} (all : ∀ item ∈ items, good item) : Each good (.arr items)
  | text {s : String} (all : ∀ c ∈ s.toList, good (.str (String.singleton c))) : Each good (.str s)
  | object {fields : List (String × Json)} (all : ∀ field ∈ fields, good (.str field.1)) :
      Each good (.obj fields)

/-- A button is an object with a text. -/
def IsButton (value : Json) : Prop :=
  ∃ fields text, value = .obj fields ∧ Json.field? "text" fields = some text

/-- A reply has a text, and its rows, if there are any, are rows of buttons. -/
structure IsReply (fields : List (String × Json)) : Prop where
  text : ∃ text, Json.field? "text" fields = some text
  rows : ∀ rows, Json.field? "rows" fields = some rows → Each (Each IsButton) rows

/-- The error of an outcome is one of the two that the sandbox knows. -/
def TellsFailure (fields : List (String × Json)) : Prop :=
  Json.field? "error" fields = some (.str "execution") ∨
    Json.field? "error" fields = some (.str "no_instance")

/-- The fields that are read have the shape that the reader relies on. -/
structure WellFormed (fields : List (String × Json)) : Prop where
  console : ∀ console, Json.field? "console" fields = some console → Each (fun _ => True) console
  reply : ¬TellsFailure fields → ∀ value, Json.field? "reply" fields = some value →
    value = .null ∨ ∃ reply, value = .obj reply ∧ IsReply reply

/-! ## Reading succeeds on values of the right shape -/

theorem each_iff {good : Json → Prop} {value : Json} :
    Each good value ↔ ∃ found, items value = .ok found ∧ ∀ item ∈ found, good item := by
  constructor
  · rintro (⟨all⟩ | ⟨all⟩ | ⟨all⟩)
    · exact ⟨_, rfl, all⟩
    · exact ⟨_, rfl, List.forall_mem_map.mpr all⟩
    · exact ⟨_, rfl, List.forall_mem_map.mpr all⟩
  · rintro ⟨found, done, all⟩
    cases value with
    | arr _ =>
        cases done
        exact .array all
    | str _ =>
        cases done
        exact .text (List.forall_mem_map.mp all)
    | obj _ =>
        cases done
        exact .object (List.forall_mem_map.mp all)
    | _ => contradiction

/-- A list is read when each of its items is. -/
theorem mapM_ok_iff {α : Type} {read : Json → Except SimulationFault α} {values : List Json} :
    (∃ found, values.mapM read = .ok found) ↔
      ∀ value ∈ values, ∃ found, read value = .ok found := by
  induction values with
  | nil => simp [pure, Except.pure]
  | cons value values ih =>
      rw [List.mapM_cons, List.forall_mem_cons, ← ih]
      constructor
      · rintro ⟨found, done⟩
        cases first : read value with
        | error fault => simp [first, bind, Except.bind] at done
        | ok head =>
            cases rest : values.mapM read with
            | error fault => simp [first, rest, bind, Except.bind] at done
            | ok tail => exact ⟨⟨head, rfl⟩, tail, rfl⟩
      · rintro ⟨⟨head, first⟩, tail, rest⟩
        exact ⟨head :: tail, by rw [first, rest]; rfl⟩

/-- Items that are written each in a way that is read are read together. -/
theorem mapM_ok {α β : Type} {read : Json → Except SimulationFault β} {write : α → Json}
    {meaning : α → β} {items : List α} (each : ∀ a ∈ items, read (write a) = .ok (meaning a)) :
    (items.map write).mapM read = .ok (items.map meaning) := by
  induction items with
  | nil => rfl
  | cons a items ih =>
      rw [List.map_cons, List.mapM_cons, each a List.mem_cons_self,
        ih fun b member => each b (List.mem_cons_of_mem _ member)]
      rfl

/-- An object has a field under each name that it mentions. -/
theorem field?_of_any {name : String} {fields : List (String × Json)}
    (mentioned : (fields.any fun field => field.1 == name) = true) :
    ∃ value, Json.field? name fields = some value := by
  obtain ⟨field, member, same⟩ := List.any_eq_true.mp mentioned
  have found : (fields.find? fun field => field.1 == name).isSome = true :=
    List.find?_isSome.mpr ⟨field, member, same⟩
  obtain ⟨field, found⟩ := Option.isSome_iff_exists.mp found
  exact ⟨field.2, by rw [Json.field?, found]; rfl⟩

theorem toButton_ok_iff {value : Json} :
    (∃ button, toButton value = .ok button) ↔ IsButton value := by
  constructor
  · rintro ⟨button, done⟩
    cases value with
    | obj fields =>
        cases found : Json.field? "text" fields with
        | some text => exact ⟨fields, text, rfl, found⟩
        | none =>
            cases mentioned : fields.any fun field => field.1 == "callback_data" <;>
              simp [toButton, mentions, subscript, found, mentioned, bind, Except.bind] at done
    | arr items =>
        cases mentioned : items.any (isText "callback_data") <;>
          simp [toButton, mentions, subscript, mentioned, bind, Except.bind] at done
    | str s =>
        cases containsText "callback_data".toList s.toList <;>
          simp [toButton, mentions, subscript, bind, Except.bind] at done
    | _ => simp [toButton, mentions, bind, Except.bind] at done
  · rintro ⟨fields, text, rfl, found⟩
    cases mentioned : fields.any fun field => field.1 == "callback_data" with
    | false =>
        refine ⟨.reply text, ?_⟩
        simp only [toButton, mentions, subscript, found, mentioned, bind, Except.bind]
        rfl
    | true =>
        obtain ⟨payload, held⟩ := field?_of_any mentioned
        refine ⟨.callback text payload, ?_⟩
        simp only [toButton, mentions, subscript, found, held, mentioned, bind, Except.bind]
        rfl

/-- A value that has items is read when each of its items is. -/
theorem toRow_ok_iff {value : Json} :
    (∃ row, toRow value = .ok row) ↔ Each IsButton value := by
  have readable := fun item : Json => @toButton_ok_iff item
  rw [each_iff]
  unfold toRow
  cases held : items value with
  | error fault => simp [bind, Except.bind]
  | ok found => simp [bind, Except.bind, mapM_ok_iff, readable]

theorem toReply_ok_iff {fields : List (String × Json)} :
    (∃ reply, toReply fields = .ok reply) ↔ IsReply fields := by
  -- a reply without rows is read as one whose rows are an empty array
  have rows_iff : (∀ rows, Json.field? "rows" fields = some rows → Each (Each IsButton) rows) ↔
      Each (Each IsButton) ((Json.field? "rows" fields).getD (.arr [])) := by
    cases Json.field? "rows" fields with
    | none => simpa using Each.array (by simp)
    | some rows => simp
  have readable := fun row : Json => @toRow_ok_iff row
  constructor
  · rintro ⟨reply, done⟩
    unfold toReply at done
    cases held : items ((Json.field? "rows" fields).getD (.arr [])) with
    | error fault => simp [held, bind, Except.bind] at done
    | ok found =>
        cases read : found.mapM toRow with
        | error fault => simp [held, read, bind, Except.bind] at done
        | ok rows =>
            refine ⟨?_, rows_iff.mpr (each_iff.mpr ⟨found, held, ?_⟩)⟩
            · cases found : Json.field? "text" fields with
              | none => simp [held, read, subscript, found, bind, Except.bind] at done
              | some text => exact ⟨text, rfl⟩
            · intro row member
              exact (readable row).mp (mapM_ok_iff.mp ⟨rows, read⟩ row member)
  · rintro ⟨⟨text, found⟩, rows⟩
    obtain ⟨values, held, all⟩ := each_iff.mp (rows_iff.mp rows)
    obtain ⟨rows, read⟩ := mapM_ok_iff.mpr fun row member => (readable row).mpr (all row member)
    refine ⟨{ text, buttons := Layout.ofRows? rows }, ?_⟩
    unfold toReply
    simp only [held, read, subscript, found, bind, Except.bind]
    rfl

/-! ## What goes wrong on other values is no failure of the sandbox -/

/-- What is read is not refused with a failure of the sandbox. -/
def Untold {α : Type} (read : Except SimulationFault α) : Prop :=
  ∀ problem, read ≠ .error (.sandbox problem)

theorem Untold.bind {α β : Type} {read : Except SimulationFault α}
    {goOn : α → Except SimulationFault β} (first : Untold read) (rest : ∀ a, Untold (goOn a)) :
    Untold (read >>= goOn) := by
  cases read with
  | error fault =>
      intro problem told
      refine first problem ?_
      rw [Except.error.injEq]
      injection told
  | ok a => exact rest a

theorem Untold.mapM {α : Type} {read : Json → Except SimulationFault α}
    (each : ∀ value, Untold (read value)) (values : List Json) : Untold (values.mapM read) := by
  induction values with
  | nil =>
      intro problem
      simp [pure, Except.pure]
  | cons value values ih =>
      rw [List.mapM_cons]
      refine (each value).bind fun head => ih.bind fun tail problem => ?_
      simp [pure, Except.pure]

theorem untold_items (value : Json) : Untold (items value) := by
  intro problem
  cases value <;> simp [items]

theorem untold_mentions (name : String) (value : Json) : Untold (mentions name value) := by
  intro problem
  cases value <;> simp [mentions]

theorem untold_subscript (name : String) (value : Json) : Untold (subscript name value) := by
  intro problem
  cases value with
  | obj fields =>
      unfold subscript
      dsimp only
      split <;> simp
  | _ => simp [subscript]

theorem untold_toButton (value : Json) : Untold (toButton value) := by
  refine (untold_mentions _ value).bind fun mentioned => ?_
  have written (button : Button) : Untold (pure button) := by
    intro problem
    simp [pure, Except.pure]
  split
  · exact (untold_subscript _ value).bind fun text =>
      (untold_subscript _ value).bind fun payload => written _
  · exact (untold_subscript _ value).bind fun text => written _

theorem untold_toReply (fields : List (String × Json)) : Untold (toReply fields) := by
  have row (value : Json) : Untold (toRow value) :=
    (untold_items value).bind fun found => .mapM untold_toButton found
  refine (untold_items _).bind fun found => (Untold.mapM row found).bind fun rows =>
    (untold_subscript _ _).bind fun text problem => ?_
  simp [pure, Except.pure]

/-! ## Settled simulations -/

theorem settled_log (simulation : Simulation) (log : List LogEntry) :
    Simulation.Settled { simulation with log } ↔ simulation.Settled := Iff.rfl

/-- What is read without being refused by the sandbox is settled when it can be read. -/
theorem settled_map_iff {α : Type} {read : Except SimulationFault α} (untold : Untold read)
    (use : α → Option Reply) (log : List LogEntry) :
    Simulation.Settled { log, answer := read.map use } ↔ ∃ a, read = .ok a := by
  unfold Simulation.Settled
  cases read with
  | ok a => simp [Except.map]
  | error fault =>
      have apart : ∀ problem, fault ≠ .sandbox problem := by
        rintro problem rfl
        exact untold problem rfl
      simpa [Except.map] using apart

theorem isText_iff {name : String} {value : Json} :
    isText name value = true ↔ value = .str name := by
  cases value <;> simp [isText]

theorem settled_answer_iff {fields : List (String × Json)} :
    (answer fields).Settled ↔ (¬TellsFailure fields →
      ∀ value, Json.field? "reply" fields = some value →
        value = .null ∨ ∃ reply, value = .obj reply ∧ IsReply reply) := by
  have told (name : String) :
      isText name ((Json.field? "error" fields).getD .null) = true ↔
        Json.field? "error" fields = some (.str name) := by
    rw [isText_iff]
    cases Json.field? "error" fields <;> simp
  unfold answer
  dsimp only
  split
  · rename_i execution
    have fails : TellsFailure fields := .inl ((told _).mp execution)
    simp [fails, Simulation.Settled]
  · rename_i execution
    split
    · rename_i missing
      have fails : TellsFailure fields := .inr ((told _).mp missing)
      simp [fails, Simulation.Settled]
    · rename_i missing
      have goesOn : ¬TellsFailure fields := by
        rintro (fails | fails)
        · exact execution ((told _).mpr fails)
        · exact missing ((told _).mpr fails)
      cases Json.field? "reply" fields with
      | none => simp [Simulation.Settled]
      | some value =>
          cases value with
          | null => simp [Simulation.Settled]
          | obj reply =>
              have reads := settled_map_iff (untold_toReply reply) some []
              simpa [goesOn, toReply_ok_iff] using reads
          | _ => simp [goesOn, Simulation.Settled]

theorem settled_ofFields_iff {fields : List (String × Json)} :
    (ofFields fields).Settled ↔ WellFormed fields := by
  have console_iff : (∀ console, Json.field? "console" fields = some console →
      Each (fun _ => True) console) ↔
      ∃ lines, items ((Json.field? "console" fields).getD (.arr [])) = .ok lines := by
    cases Json.field? "console" fields with
    | none => simp [items]
    | some console => simp [each_iff]
  have answers := @settled_answer_iff fields
  have split_iff : WellFormed fields ↔ (∀ console, Json.field? "console" fields = some console →
      Each (fun _ => True) console) ∧ (answer fields).Settled := by
    rw [answers]
    exact ⟨fun formed => ⟨formed.console, formed.reply⟩, fun both => ⟨both.1, both.2⟩⟩
  rw [split_iff, console_iff]
  have untold := untold_items ((Json.field? "console" fields).getD (.arr []))
  unfold ofFields
  cases held : items ((Json.field? "console" fields).getD (.arr [])) with
  | ok lines => simp [settled_log]
  | error fault =>
      rw [held] at untold
      have apart : ∀ problem, fault ≠ .sandbox problem := by
        rintro problem rfl
        exact untold problem rfl
      simpa [Simulation.Settled] using apart

/-- Data that is no object is reported as it is; the fields of an object have to be well-formed. -/
theorem settled_ofData_iff {data raw : Json} :
    (ofData data raw).Settled ↔ ∀ fields, data = .obj fields → WellFormed fields := by
  cases data with
  | obj fields => simpa [ofData] using @settled_ofFields_iff fields
  | _ => simp [ofData, Simulation.Settled]

/-- A value handed across can be read: it is no text on which the reader gives up at a whole number
with more than `Number.digitLimit` digits, and if it is the text of an object, then the fields of
the object are well-formed. The depth of nesting is left out of account, as it is by
`BotBench.Json.parse`. -/
structure Readable (raw : Json) : Prop where
  numbers : ∀ text digits, raw = .str text → Json.parse text ≠ .error (.overlong digits)
  fields : ∀ text fields, raw = .str text → Json.parse? text = some (.obj fields) →
    WellFormed fields

theorem readable_str_iff {text : String} :
    Readable (.str text) ↔ (∀ digits, Json.parse text ≠ .error (.overlong digits)) ∧
      ∀ fields, Json.parse text = .ok (.obj fields) → WellFormed fields := by
  constructor
  · rintro ⟨numbers, formed⟩
    exact ⟨fun digits => numbers text digits rfl,
      fun fields parsed => formed text fields rfl (Json.parse?_eq_some_iff.mpr parsed)⟩
  · rintro ⟨numbers, formed⟩
    constructor
    · rintro _ digits ⟨rfl⟩
      exact numbers digits
    · rintro _ fields ⟨rfl⟩ parsed
      exact formed fields (Json.parse?_eq_some_iff.mp parsed)

theorem settled_decode_iff {raw : Json} : (decode raw).Settled ↔ Readable raw := by
  cases raw with
  | str text =>
      rw [readable_str_iff]
      simp only [decode]
      cases Json.parse text with
      | ok data => simp [settled_ofData_iff]
      | error fault =>
          cases fault with
          | malformed => simp [settled_ofData_iff]
          | overlong digits => simp [Simulation.Settled]
  | _ =>
      refine iff_of_true ?_ ⟨by simp, by simp⟩
      simp [decode, settled_ofData_iff]

/-- A whole number alone cannot be read when it is too long, although it is no object. -/
theorem not_readable_of_digits {first : Char} {digits : List Char}
    (decimal : ∀ c ∈ first :: digits, c.isDigit = true) (leading : first ≠ '0')
    (long : Number.digitLimit < (first :: digits).length) :
    ¬Readable (.str (String.ofList (first :: digits))) := by
  intro readable
  apply readable.numbers _ _ rfl
  rw [Json.parse_of_digits decimal leading, if_pos long]

end Outcome

end BotBench
