import BotBench.Proofs.Sandbox.Records
import BotBench.Sandbox.Rehearsal

/-! # Writing values as data

Values that are data are written as they are, and lists and records item by item and field by field,
if nothing that they inherit says how they are written (`BotBench.Sandbox.IsWritten`). -/

namespace BotBench.Sandbox

open Script Script.Run Text

variable {inner : Evaluator} {m m' : Machine} {ref : Ref} {key : Key}

/-! ## Writing data -/

variable {value holder : Value} {data : PlainData} {fuel : Nat} {around : List Ref}

/-- An object is written in its own place if nothing says otherwise. -/
theorem replacedValue_object (lacks : m.Lacks ref (Key.ofText "toJSON"))
    (unboxed : (m.objectAt ref).kind = .plain ∨ (m.objectAt ref).kind = .array) :
    (replacedValue inner {} holder key (.object ref)).run m = .ok (.object ref) m := by
  change (read inner (.object ref) "toJSON" >>= _).run m = _
  rw [bind_of_ok (read_lacks lacks), bind_of_ok isCallable_run]
  simp only [Machine.isFunction, Bool.false_eq_true, if_false, pure_bind, object_bind_run]
  rcases unboxed with isPlain | isArray
  · rw [isPlain]
    rfl
  · rw [isArray]
    rfl

theorem isFunction_of_kind {kind : Kind} (isKind : (m.objectAt ref).kind = kind)
    (data : kind = .plain ∨ kind = .array) : m.isFunction (.object ref) = false := by
  rw [Machine.isFunction, isKind]
  rcases data with rfl | rfl <;> rfl

/-- Of what is written of a list, as much as a script sees. -/
def listedData (data : List PlainData) : List PlainData := data.take (seenLength data.length)

/-- A list is written item by item. -/
theorem plainData?_list {values : List Value} {data : List PlainData}
    (held : ValueList m ref values) (lacks : m.Lacks ref (Key.ofText "toJSON"))
    (outside : around.contains ref = false)
    (each : List.Forall₂ (fun value data => ∀ key, (plainData? inner {} fuel (ref :: around)
      (.object ref) key value).run m = .ok (some data) m) values data) :
    (plainData? inner {} (fuel + 1) around holder key (.object ref)).run m =
      .ok (some (.list (listedData data))) m := by
  obtain ⟨length, each⟩ := List.forall₂_iff_get.mp each
  have bound := seenLength_le data.length
  rw [plainData?, bind_of_ok (replacedValue_object lacks (.inr held.kind))]
  simp only [bind_of_ok isCallable_run, isFunction_of_kind held.kind (.inr rfl), outside,
    bind_of_ok held.isArray_run, bind_of_ok held.lengthProperty_run, Bool.false_eq_true, if_false,
    if_true, length]
  rw [bind_of_ok (mapM_run (g := fun place => data[place]?.getD .null) ?_)]
  · rw [pure_run, listedData]
    generalize seenLength data.length = count at bound
    congr 3
    refine List.ext_getElem (by simp; omega) fun place inside _ => ?_
    have there : place < data.length := by
      simp only [List.length_map, List.length_range] at inside
      omega
    simp [List.getElem?_eq_getElem there]
  · intro place member
    have inside : place < data.length := by
      have := List.mem_range.mp member
      omega
    have inside' : place < values.length := by omega
    have written := each place inside' inside (.index place)
    rw [List.get_eq_getElem, List.get_eq_getElem] at written
    rw [bind_of_ok (held.read_run (List.getElem?_eq_getElem inside')), bind_of_ok written,
      List.getElem?_eq_getElem inside]
    rfl

/-! ## Writing a record -/

/-- A name that stands for itself as the name of a field: it is no place and not private. -/
structure IsFieldName (name : String) : Prop where
  key : Key.ofText (.whole name) = .name (.whole name)
  isPublic : (Key.name (.whole name)).isPublic = true

/-- What is written of fields, under their names. -/
def labelledData (fields : List (String × Value)) (data : List PlainData) :
    List (Utf16 × PlainData) :=
  (fields.zip data).map fun (field, data) => (.whole field.1, data)

/-- The record of a reference has some fields. -/
structure Record (m : Machine) (ref : Ref) (fields : List (String × Value)) : Prop where
  object : ∃ object, m.objects[ref.index]? = some object ∧ object.kind = .plain ∧
    object.properties = recordProperties fields
  names : ∀ field ∈ fields, IsFieldName field.1
  distinct : (fields.map Prod.fst).Nodup

variable {fields : List (String × Value)}

theorem listing_recordProperties {object : Object} (isPlain : object.kind = .plain)
    (properties : object.properties = recordProperties fields)
    (names : ∀ field ∈ fields, IsFieldName field.1) :
    object.listing = fields.map fun field => (Key.name (.whole field.1), true) := by
  have named : recordProperties fields =
      fields.map fun field => (Key.name (.whole field.1), .plain field.2) :=
    List.map_congr_left fun field member => Prod.ext (names field member).key rfl
  rw [Object.listing, isPlain, properties, named]
  simp only [Property.plain, List.map_map, List.filter_map, Function.comp_def]
  rw [List.filter_eq_nil_iff.mpr (by simp), List.filter_eq_self.mpr (by simp)]
  simp

namespace Record

theorem kind (held : Record m ref fields) : (m.objectAt ref).kind = .plain := by
  obtain ⟨object, found, isPlain, -⟩ := held.object
  rw [Machine.objectAt_of_get found, isPlain]

theorem read_run (held : Record m ref fields) {field : String × Value} (member : field ∈ fields) :
    (read inner (.object ref) (Key.ofText (.whole field.1))).run m = .ok field.2 m := by
  obtain ⟨object, found, isPlain, properties⟩ := held.object
  have own : (m.objectAt ref).own? (Key.ofText (.whole field.1)) = some (.plain field.2) := by
    rw [Machine.objectAt_of_get found, Object.own?, isPlain, Object.property?, properties,
      find?_recordProperties held.distinct member]
    rfl
  exact read_own own

/-- The fields of a record are listed in their order. -/
theorem listedKeys_run (held : Record m ref fields) :
    (listedKeys ref).run m = .ok (fields.map fun field => Key.ofText (.whole field.1)) m := by
  obtain ⟨object, found, isPlain, properties⟩ := held.object
  have listing : (listingOf ref).run m =
      .ok (fields.map fun field => (Key.name (.whole field.1), true)) m := by
    rw [listingOf, object_bind_run, Machine.objectAt_of_get found, isPlain,
      listing_recordProperties isPlain properties held.names]
    rfl
  rw [listedKeys, bind_of_ok listing, pure_run, List.filterMap_map]
  congr 1
  refine List.filterMap_eq_map_iff_forall_eq_some.mpr fun field member => ?_
  simp [(held.names field member).isPublic, (held.names field member).key]

/-- A record is written field by field. -/
theorem plainData?_run (held : Record m ref fields) {data : List PlainData}
    (lacks : m.Lacks ref (Key.ofText "toJSON")) (outside : around.contains ref = false)
    (each : List.Forall₂ (fun field data => ∀ key, (plainData? inner {} fuel (ref :: around)
      (.object ref) key field.2).run m = .ok (some data) m) fields data) :
    (plainData? inner {} (fuel + 1) around holder key (.object ref)).run m =
      .ok (some (.record (labelledData fields data))) m := by
  obtain ⟨length, each⟩ := List.forall₂_iff_zip.mp each
  have notList : (isArray (.object ref)).run m = .ok false m := by
    rw [isArray, object_bind_run, held.kind]
    rfl
  have keys : (fields.map fun field => Key.ofText (.whole field.1)) =
      (fields.zip data).map fun pair => Key.ofText (.whole pair.1.1) := by
    conv_lhs => rw [← List.map_fst_zip length.le, List.map_map]
    rfl
  rw [plainData?, bind_of_ok (replacedValue_object lacks (.inl held.kind))]
  simp only [bind_of_ok isCallable_run, isFunction_of_kind held.kind (.inl rfl), outside,
    bind_of_ok notList, bind_of_ok held.listedKeys_run, Bool.false_eq_true, if_false, keys]
  rw [bind_of_ok (filterMapM_run
    (g := fun pair => ((.whole pair.1.1 : Utf16), pair.2)) fun pair member => ?_)]
  · rfl
  have told := (List.of_mem_zip member).1
  rw [bind_of_ok (held.read_run told), bind_of_ok (each member _), (held.names _ told).key]
  rfl

end Record

/-! ## What is written of values -/

/-- What records and lists inherit does not say how they are written. -/
structure Silent (m : Machine) : Prop where
  objects : m.Lacks Intrinsic.objectAncestor.ref (Key.ofText "toJSON")
  lists : m.Lacks Intrinsic.arrayAncestor.ref (Key.ofText "toJSON")

/-- The names of fields are not mistaken for one another or for a way to write the record. -/
structure Labelled (fields : List (String × Value)) : Prop where
  names : ∀ field ∈ fields, IsFieldName field.1
  distinct : ("toJSON" :: fields.map Prod.fst).Nodup

/-- In a machine that has the objects of this one and maybe more, some data is written of a value,
as deep as it is; the objects around it are others than the ones of this machine. -/
def IsWritten (inner : Evaluator) (m : Machine) (depth : Nat) (value : Value) (data : PlainData) :
    Prop :=
  ∀ m', Grows m m' → Silent m' → ∀ fuel, depth ≤ fuel → ∀ around : List Ref,
    (∀ ref ∈ around, m.objects.size ≤ ref.index) → ∀ holder key,
      (plainData? inner {} fuel around holder key value).run m' = .ok (some data) m'

/-- The list of values does not say itself how it is written, nor does the record of fields. -/
theorem own?_listObject (values : List Value) :
    (listObject values).own? (Key.ofText "toJSON") = none := rfl

theorem Labelled.own?_recordObject (labelled : Labelled fields) :
    (recordObject fields).own? (Key.ofText "toJSON") = none :=
  own?_recordObject_none (List.nodup_cons.mp labelled.distinct).1

namespace Silent

variable {object : Object}

/-- An object that does not say how it is written, and inherits from all objects or lists. -/
theorem lacks (silent : Silent m) (found : m.objects[ref.index]? = some object)
    (own : object.own? (Key.ofText "toJSON") = none)
    (above : object.ancestor = some Intrinsic.objectAncestor.ref ∨
      object.ancestor = some Intrinsic.arrayAncestor.ref) :
    m.Lacks ref (Key.ofText "toJSON") := by
  have here := Machine.objectAt_of_get found
  refine .of_own (by rwa [here]) fun ancestor inherited => ?_
  rw [here] at inherited
  rcases above with above | above <;> cases above.symm.trans inherited
  · exact silent.objects
  · exact silent.lists

theorem withObject (silent : Silent m) (own : object.own? (Key.ofText "toJSON") = none)
    (above : object.ancestor = some Intrinsic.objectAncestor.ref ∨
      object.ancestor = some Intrinsic.arrayAncestor.ref) :
    Silent (Run.withObject object m) := by
  have lacking : ∀ ancestor, object.ancestor = some ancestor →
      m.Lacks ancestor (Key.ofText "toJSON") := fun ancestor inherited => by
    rcases above with above | above <;> cases above.symm.trans inherited
    · exact silent.objects
    · exact silent.lists
  exact ⟨silent.objects.push rfl own lacking, silent.lists.push rfl own lacking⟩

end Silent

namespace IsWritten

variable {depth : Nat} {all : List PlainData}

theorem mono {depth' : Nat} (isWritten : IsWritten inner m depth value data) (grows : Grows m m')
    (deeper : depth ≤ depth') : IsWritten inner m' depth' value data :=
  fun m'' grown silent fuel enough around outside holder key =>
    isWritten m'' (grows.trans grown) silent fuel (deeper.trans enough) around
      (fun ref member => grows.size.trans (outside ref member)) holder key

theorem not_contains {m : Machine} (new : ref.index < m.objects.size)
    (outside : ∀ other ∈ around, m.objects.size ≤ other.index) : around.contains ref = false := by
  have apart : ref ∉ around := fun inside => by
    have := outside ref inside
    omega
  simpa using apart

/-- A new list is written item by item. -/
theorem list {values : List Value} (grows : Grows m m') (new : m.objects.size ≤ ref.index)
    (each : List.Forall₂ (IsWritten inner m depth) values all)
    (found : m'.objects[ref.index]? = some (listObject values)) :
    IsWritten inner m' (depth + 1) (.object ref) (.list (listedData all)) := by
  intro m'' grown silent fuel enough around outside holder key
  obtain ⟨fuel, rfl⟩ := Nat.exists_eq_add_of_le' (show 1 ≤ fuel by omega)
  have there := grown.getElem? found
  have inside := (Array.getElem?_eq_some_iff.mp found).1
  refine plainData?_list ⟨_, there, rfl, rfl⟩
    (silent.lacks there (own?_listObject values) (.inr rfl)) (not_contains inside outside)
    (each.imp fun value data isWritten key =>
      isWritten m'' (grows.trans grown) silent fuel (by omega) _ ?_ _ _)
  rintro other (_ | ⟨_, member⟩)
  · exact new
  · exact grows.size.trans (outside other member)

/-- A new record is written field by field. -/
theorem record (labelled : Labelled fields) (grows : Grows m m')
    (new : m.objects.size ≤ ref.index)
    (each : List.Forall₂ (fun field data => IsWritten inner m depth field.2 data) fields all)
    (found : m'.objects[ref.index]? = some (recordObject fields)) :
    IsWritten inner m' (depth + 1) (.object ref) (.record (labelledData fields all)) := by
  intro m'' grown silent fuel enough around outside holder key
  obtain ⟨fuel, rfl⟩ := Nat.exists_eq_add_of_le' (show 1 ≤ fuel by omega)
  have there := grown.getElem? found
  have inside := (Array.getElem?_eq_some_iff.mp found).1
  have held : Record m'' ref fields :=
    ⟨⟨_, there, rfl, rfl⟩, labelled.names, (List.nodup_cons.mp labelled.distinct).2⟩
  refine held.plainData?_run (silent.lacks there labelled.own?_recordObject (.inl rfl))
    (not_contains inside outside) (each.imp fun field data isWritten key =>
      isWritten m'' (grows.trans grown) silent fuel (by omega) _ ?_ _ _)
  rintro other (_ | ⟨_, member⟩)
  · exact new
  · exact grows.size.trans (outside other member)

end IsWritten

end BotBench.Sandbox
