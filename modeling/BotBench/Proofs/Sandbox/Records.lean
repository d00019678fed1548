import BotBench.Proofs.Script.TextList

/-! # Records and lists that are made

A record is made of fields and a list of values. A record has the fields of which it is made
(`BotBench.Sandbox.own?_recordObject`) and no others, and a new field is put behind them
(`BotBench.Sandbox.put_recordObject`). -/

namespace BotBench.Sandbox

open Script Script.Run Text

variable {m m' : Machine} {ref : Ref} {fields : List (String × Value)} {values : List Value}
  {name : String}

/-! ## Fields -/

/-- The properties of a record. -/
def recordProperties (fields : List (String × Value)) : List (Key × Property) :=
  fields.map fun (name, value) => (Key.ofText (.whole name), .plain value)

/-- A list of values. -/
def listObject (values : List Value) : Object :=
  { kind := .array
    ancestor := some Intrinsic.arrayAncestor.ref
    items := (values.map some).toArray }

/-- A record of fields. -/
def recordObject (fields : List (String × Value)) : Object :=
  { ancestor := some Intrinsic.objectAncestor.ref, properties := recordProperties fields }

theorem find?_recordProperties (distinct : (fields.map Prod.fst).Nodup) {field : String × Value}
    (member : field ∈ fields) :
    ((recordProperties fields).find? fun entry => entry.1 == Key.ofText (.whole field.1)) =
      some (Key.ofText (.whole field.1), .plain field.2) := by
  induction fields with
  | nil => cases member
  | cons first fields ih =>
      obtain ⟨others, distinct⟩ := List.nodup_cons.mp distinct
      change (((Key.ofText (.whole first.1), Property.plain first.2) ::
        recordProperties fields).find? _) = _
      rcases List.mem_cons.mp member with rfl | later
      · rw [List.find?_cons_of_pos (by simp)]
      · have other : Key.ofText (.whole first.1) ≠ Key.ofText (.whole field.1) := fun same =>
          others (Utf16.whole.inj (ofText_injective same) ▸ List.mem_map_of_mem later)
        rw [List.find?_cons_of_neg (by simpa using other)]
        exact ih distinct later

/-- A record has its fields itself. -/
theorem own?_recordObject (distinct : (fields.map Prod.fst).Nodup) {field : String × Value}
    (member : field ∈ fields) :
    (recordObject fields).own? (Key.ofText (.whole field.1)) = some (.plain field.2) := by
  change (recordObject fields).property? _ = _
  rw [Object.property?, recordObject, find?_recordProperties distinct member]
  rfl

theorem putProperty_new {key : Key} {property : Property} {entries : List (Key × Property)}
    (new : ∀ entry ∈ entries, entry.1 ≠ key) :
    Object.putProperty key property entries = entries ++ [(key, property)] := by
  induction entries with
  | nil => rfl
  | cons entry entries ih =>
      have other : (entry.1 == key) = false := by simpa using new entry List.mem_cons_self
      rw [Object.putProperty, other, if_neg (by simp), ih fun entry member =>
        new entry (List.mem_cons_of_mem _ member)]
      rfl

theorem ne_key_of_new (new : name ∉ fields.map Prod.fst) :
    ∀ entry ∈ recordProperties fields, entry.1 ≠ Key.ofText (.whole name) := by
  intro entry member same
  obtain ⟨field, told, rfl⟩ := List.mem_map.mp member
  exact new (List.mem_map.mpr ⟨field, told, Utf16.whole.inj (ofText_injective same)⟩)

/-- A record has no field under another name. -/
theorem own?_recordObject_none (new : name ∉ fields.map Prod.fst) :
    (recordObject fields).own? (Key.ofText (.whole name)) = none := by
  change (recordObject fields).property? _ = none
  rw [Object.property?, Option.map_eq_none_iff, List.find?_eq_none]
  exact fun entry member same => ne_key_of_new new entry member (beq_iff_eq.mp same)

/-- A field under a new name is put behind the others. -/
theorem put_recordObject {value : Value} (new : name ∉ fields.map Prod.fst) :
    (recordObject fields).put (Key.ofText (.whole name)) (.plain value) =
      recordObject (fields ++ [(name, value)]) := by
  rw [Object.put, recordObject, recordObject, putProperty_new (ne_key_of_new new), recordProperties,
    recordProperties, List.map_append]
  rfl

/-! ## Making objects -/

theorem allocateList_run (enough : allocationSteps ≤ m.steps) :
    (allocateList values).run m =
      .ok (.object ⟨m.objects.size⟩) (withObject (listObject values) m) := by
  change (allocate (listObject values) >>= fun ref => pure (Value.object ref)).run m = _
  rw [bind_of_ok (allocate_run enough)]
  rfl

theorem getElem?_withObject (object : Object) (m : Machine) :
    (withObject object m).objects[m.objects.size]? = some object := by
  change (m.objects.push object)[m.objects.size]? = _
  rw [Array.getElem?_push, if_pos rfl]

/-- A new object has been made. -/
structure Adds (object : Object) (ref : Ref) (m m' : Machine) : Prop where
  grows : Grows m m'
  new : ref = ⟨m.objects.size⟩
  objects : m'.objects = m.objects.push object
  host : m'.host = m.host

namespace Adds

variable {object : Object}

theorem of_allocate (made : (allocate object).run m = .ok ref m') : Adds object ref m m' := by
  obtain ⟨rfl, rfl⟩ := allocate_ok made
  exact ⟨.withObject object m, rfl, rfl, rfl⟩

theorem found (adds : Adds object ref m m') : m'.objects[ref.index]? = some object := by
  rw [adds.objects, adds.new, Array.getElem?_push, if_pos rfl]

/-- A new object is none of those that were there. -/
theorem ne {other : Ref} {old : Object} (adds : Adds object ref m m')
    (found : m.objects[other.index]? = some old) : other ≠ ref := by
  rintro rfl
  have inside := (Array.getElem?_eq_some_iff.mp found).1
  rw [adds.new] at inside
  exact inside.ne rfl

/-- What is made by a run that gives a reference as a value. -/
theorem of_value {made : Value}
    (ended : (allocate object >>= fun ref => pure (Value.object ref)).run m = .ok made m') :
    ∃ ref, made = .object ref ∧ Adds object ref m m' := by
  obtain ⟨ref, _, allocated, ended⟩ := bind_ok ended
  cases ended
  exact ⟨ref, rfl, of_allocate allocated⟩

theorem record {made : Value}
    (ended : (Sandbox.record fields).run m = .ok made m') :
    ∃ ref, made = .object ref ∧ Adds (recordObject fields) ref m m' := of_value ended

theorem list {made : Value}
    (ended : (allocateList values).run m = .ok made m') :
    ∃ ref, made = .object ref ∧ Adds (listObject values) ref m m' := of_value ended

theorem hostFunction {count : Nat} {f : HostFunction} {made : Value}
    (ended : (Sandbox.hostFunction name count f).run m = .ok made m') :
    ∃ ref object, made = .object ref ∧ object.kind = .function (.native (.host f)) ∧
      Adds object ref m m' := by
  obtain ⟨ref, same, adds⟩ := of_value ended
  exact ⟨ref, _, same, rfl, adds⟩

end Adds

end BotBench.Sandbox
