import BotBench.Bench.State

/-! # Tables and the registry

How the operations on tables and on the registry act on what is found under a key. -/

namespace BotBench

section Table

variable {α : Type}

@[simp] theorem entry?_nil (key : Int) : entry? ([] : List (Int × α)) key = none := rfl

theorem entry?_cons (head : Int × α) (rest : List (Int × α)) (key : Int) :
    entry? (head :: rest) key = if head.1 = key then some head.2 else entry? rest key := by
  unfold entry?
  by_cases same : head.1 = key
  · simp [same]
  · simp [same]

theorem entry?_append (first second : List (Int × α)) (key : Int) :
    entry? (first ++ second) key = Option.or ( entry? first key) ( entry? second key) := by
  induction first with
  | nil => simp
  | cons head rest ih =>
      rw [List.cons_append, entry?_cons, entry?_cons, ih]
      split <;> rfl

theorem entry?_filter_ne (table : List (Int × α)) (erased key : Int) :
    entry? (table.filter fun entry => entry.1 != erased) key =
      if key = erased then none else entry? table key := by
  induction table with
  | nil => simp
  | cons head rest ih =>
      by_cases gone : head.1 = erased
      · have skipped : (head.1 != erased) = false := by simp [gone]
        rw [List.filter_cons, if_neg (by simp [skipped]), ih, entry?_cons]
        by_cases same : key = erased
        · simp only [same, ↓reduceIte]
        · have other : head.1 ≠ key := fun equal => same (equal.symm.trans gone)
          simp only [same, other, ↓reduceIte]
      · have kept : (head.1 != erased) = true := by simp [gone]
        rw [List.filter_cons, if_pos kept, entry?_cons, entry?_cons, ih]
        by_cases found : head.1 = key
        · have other : key ≠ erased := fun equal => gone (found.trans equal)
          simp only [found, other, ↓reduceIte]
        · simp only [found, ↓reduceIte]

theorem entry?_map_key (table : List (Int × α)) (key other : Int) (value : α) :
    entry? (table.map fun entry => if entry.1 == key then (key, value) else entry) other =
      if other = key then ( entry? table key).map fun _ => value else entry? table other := by
  induction table with
  | nil => simp
  | cons head rest ih =>
      rw [List.map_cons, entry?_cons, entry?_cons, entry?_cons, ih]
      by_cases first : head.1 = key
      · by_cases same : other = key
        · simp [first, same]
        · have apart : key ≠ other := Ne.symm same
          simp [first, same, apart]
      · by_cases same : other = key
        · simp [first, same]
        · simp [first, same]

theorem entry?_eraseEntry (table : List (Int × α)) (erased key : Int) :
    entry? (eraseEntry table erased) key = if key = erased then none else entry? table key :=
  entry?_filter_ne table erased key

theorem entry?_isSome_iff_any (table : List (Int × α)) (key : Int) :
    ( entry? table key).isSome = table.any fun entry => entry.1 == key := by
  induction table with
  | nil => rfl
  | cons head rest ih =>
      rw [entry?_cons, List.any_cons, ← ih]
      by_cases same : head.1 = key
      · simp [same]
      · simp [same]

theorem entry?_setEntry (table : List (Int × α)) (key other : Int) (value : α) :
    entry? (setEntry table key value) other =
      if other = key then some value else entry? table other := by
  unfold setEntry
  by_cases present : (table.any fun entry => entry.1 == key) = true
  · rw [if_pos present, entry?_map_key]
    rw [← entry?_isSome_iff_any] at present
    obtain ⟨old, found⟩ := Option.isSome_iff_exists.mp present
    simp only [found, Option.map_some]
  · rw [if_neg present, entry?_append]
    rw [← entry?_isSome_iff_any, Bool.not_eq_true, Option.isSome_eq_false_iff,
      Option.isNone_iff_eq_none] at present
    by_cases same : other = key
    · simp [same, present, entry?_cons]
    · simp [same, Ne.symm same, entry?_cons]

end Table

namespace Registry

theorem find?_eq_entry (registry : Registry) (id : Int) :
    registry.find? id = entry? registry.slots id := rfl

theorem find?_put (registry : Registry) (id other : Int) (record : Record) :
    (registry.put id record).find? other =
      if other = id then (registry.find? id).map fun _ => record else registry.find? other :=
  entry?_map_key registry.slots id other record

theorem find?_create (registry : Registry) (time : Int) (code token : String)
    (language : Language) (id : Int) :
    (registry.create time code token language).2.find? id =
      (registry.find? id).or
        (if id = registry.nextId then some (registry.create time code token language).1
        else none) := by
  rw [find?_eq_entry, find?_eq_entry, create]
  rw [entry?_append, entry?_cons, entry?_nil]
  simp only [eq_comm]

/-- A record is looked up exactly when it is there. -/
theorem get_eq_ok_iff {registry : Registry} {id : Int} {record : Record} :
    registry.get id = .ok record ↔ registry.find? id = some record := by
  unfold get
  cases registry.find? id with
  | none => simp
  | some found => simp

/-- A removal succeeds exactly when the bot is there, and takes its slot away. -/
theorem remove_eq_ok_iff {registry registry' : Registry} {id : Int} {record : Record} :
    registry.remove id = .ok (record, registry') ↔
      registry.find? id = some record ∧
        registry' = { registry with slots := eraseEntry registry.slots id } := by
  unfold remove get
  cases registry.find? id with
  | none => simp [bind, Except.bind]
  | some found =>
      simp only [bind, Except.bind, pure, Except.pure, Except.ok.injEq, Prod.mk.injEq,
        Option.some.injEq]
      refine ⟨?_, ?_⟩
      · rintro ⟨rfl, rfl⟩
        exact ⟨rfl, rfl⟩
      · rintro ⟨rfl, rfl⟩
        exact ⟨rfl, rfl⟩

theorem get_of_find? {registry : Registry} {id : Int} {record : Record}
    (found : registry.find? id = some record) : registry.get id = .ok record :=
  get_eq_ok_iff.mpr found

theorem get_of_missing {registry : Registry} {id : Int} (missing : registry.find? id = none) :
    registry.get id = .error (.unknownBot id) := by
  unfold get
  rw [missing]

/-- A change of a bot that is there puts the changed record into its slot, with the line appended to
the log that the record had before. -/
theorem update_of_find? {registry : Registry} {limits : Settings} {time id : Int}
    {log : Option String} {changes : List Change} {record changed : Record}
    (found : registry.find? id = some record)
    (applied : Change.applyAll record changes = .ok changed) :
    registry.update limits time id log changes =
      let updated :=
        match log with
        | some text =>
            { changed with logs := window limits.logLimit (record.logs ++ [stamped time text]) }
        | none => changed
      .ok (updated, registry.put id updated) := by
  unfold update
  rw [get_of_find? found]
  simp only [bind, Except.bind, applied]
  rfl

theorem update_of_missing {registry : Registry} {limits : Settings} {time id : Int}
    {log : Option String} {changes : List Change} (missing : registry.find? id = none) :
    registry.update limits time id log changes = .error (.unknownBot id) := by
  unfold update
  rw [get_of_missing missing]
  rfl

end Registry

end BotBench
