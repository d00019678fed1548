import BotBench.Proofs.Script.TextList
import Mathlib.Data.List.Forall2

/-! # Data on the heap of a script

A script writes data down as lists and records of plain values. `Datum` is such data as a tree, and
`BotBench.Script.Holds` says that a value of a machine is one: the objects behind it have the items
and the fields of the tree, and nothing else. A field of such a value is read without calling
anything (`BotBench.Script.Holds.read_run`), as long as what all objects and all lists inherit does
not have it. -/

namespace BotBench.Script

open Text Run Number

/-- Data as a tree. A hole of a list is an item that is undefined; a function is not looked into. -/
inductive Datum
  | undefined
  | null
  | bool (b : Bool)
  | number (x : Float)
  | text (t : Utf16)
  | function
  | list (items : List Datum)
  | record (fields : List (Utf16 × Datum))

namespace Datum

/-- Whether data is a plain value. -/
def isPlain : Datum → Bool
  | .function | .list _ | .record _ => false
  | _ => true

/-- Whether data is undefined. -/
def isUndefined : Datum → Bool
  | .undefined => true
  | _ => false

/-- Whether data is a list. -/
def isList : Datum → Bool
  | .list _ => true
  | _ => false

/-- Whether data is an object that cannot be called. -/
def isRecord : Datum → Bool
  | .list _ | .record _ => true
  | _ => false

/-- Whether data counts as true. -/
def isTruthy : Datum → Bool
  | .undefined | .null => false
  | .bool b => b
  | .number x => !(x.isNaN || x == 0)
  | .text t => !t.isEmpty
  | .function | .list _ | .record _ => true

/-- The text of a plain value. -/
def shown : Datum → Utf16
  | .undefined => "undefined"
  | .null => "null"
  | .bool b => if b then "true" else "false"
  | .number x => .whole (numberText x)
  | .text t => t
  | .function | .list _ | .record _ => ""

/-- The value of plain data. -/
def plainValue : Datum → Value
  | .null => .null
  | .bool b => .bool b
  | .number x => .number x
  | .text t => .text t
  | .undefined | .function | .list _ | .record _ => .undefined

/-- Whether an object of a kind is such data. -/
def IsOfKind : Datum → Kind → Prop
  | .function, kind => ∃ callable, kind = .function callable
  | .list _, kind => kind = .array
  | .record _, kind => kind = .plain
  | _, _ => False

/-- The items of a list; what is no list has none. -/
def items : Datum → List Datum
  | .list items => items
  | _ => []

theorem eq_list {datum : Datum} (isList : datum.isList = true) : ∃ items, datum = .list items := by
  cases datum
  case list items => exact ⟨items, rfl⟩
  all_goals cases isList

/-- The field of a record under a name; what is not there is undefined. -/
def field (name : Utf16) : Datum → Datum
  | .record fields => (fields.lookup name).getD .undefined
  | _ => .undefined

end Datum

mutual

/-- A value of a machine is some data. No list has more than `placeBound` items. -/
def Holds (m : Machine) : Datum → Value → Prop
  | .undefined, value => value = .undefined
  | .null, value => value = .null
  | .bool b, value => value = .bool b
  | .number x, value => value = .number x
  | .text t, value => value = .text t
  | .function, value => m.isFunction value = true
  | .list items, value => ∃ ref object, value = .object ref ∧
      m.objects[ref.index]? = some object ∧ object.kind = .array ∧
      object.ancestor = some Intrinsic.arrayAncestor.ref ∧ object.properties = [] ∧
      object.items.size ≤ placeBound ∧ HoldsItems m items object.items.toList
  | .record fields, value => ∃ ref object, value = .object ref ∧
      m.objects[ref.index]? = some object ∧ object.kind = .plain ∧
      object.ancestor = some Intrinsic.objectAncestor.ref ∧ HoldsFields m fields object.properties

/-- The items of a list are some data. -/
def HoldsItems (m : Machine) : List Datum → List (Option Value) → Prop
  | [], items => items = []
  | datum :: data, items => ∃ item rest, items = item :: rest ∧
      Holds m datum (item.getD .undefined) ∧ HoldsItems m data rest

/-- The properties of an object are some fields. -/
def HoldsFields (m : Machine) : List (Utf16 × Datum) → List (Key × Property) → Prop
  | [], properties => properties = []
  | (name, datum) :: fields, properties => ∃ value isWritable isEnumerable isConfigurable rest,
      properties = (Key.ofText name,
        { content := .data value isWritable, isEnumerable, isConfigurable }) :: rest ∧
      Holds m datum value ∧ HoldsFields m fields rest

end

variable {inner : Evaluator} {m m' : Machine} {value : Value} {datum : Datum}
  {data : List Datum} {name : Utf16}

/-! ## Growth -/

mutual

/-- Data is still there when the machine has grown. -/
theorem Holds.grows (grows : Grows m m') :
    ∀ {datum : Datum} {value : Value}, Holds m datum value → Holds m' datum value
  | .undefined, _, held | .null, _, held | .bool _, _, held | .number _, _, held
  | .text _, _, held => held
  | .function, _, held => grows.isFunction held
  | .list _, _, ⟨ref, object, same, found, isArray, above, properties, bounded, items⟩ =>
      ⟨ref, object, same, grows.getElem? found, isArray, above, properties, bounded,
        HoldsItems.grows grows items⟩
  | .record _, _, ⟨ref, object, same, found, isPlain, above, fields⟩ =>
      ⟨ref, object, same, grows.getElem? found, isPlain, above, HoldsFields.grows grows fields⟩

theorem HoldsItems.grows (grows : Grows m m') :
    ∀ {data : List Datum} {items : List (Option Value)}, HoldsItems m data items →
      HoldsItems m' data items
  | [], _, held => held
  | _ :: _, _, ⟨item, rest, same, here, later⟩ =>
      ⟨item, rest, same, Holds.grows grows here, HoldsItems.grows grows later⟩

theorem HoldsFields.grows (grows : Grows m m') :
    ∀ {fields : List (Utf16 × Datum)} {properties : List (Key × Property)},
      HoldsFields m fields properties → HoldsFields m' fields properties
  | [], _, held => held
  | (_, _) :: _, _, ⟨value, isWritable, isEnumerable, isConfigurable, rest, same, here, later⟩ =>
      ⟨value, isWritable, isEnumerable, isConfigurable, rest, same, Holds.grows grows here,
        HoldsFields.grows grows later⟩

end

/-! ## Items and fields -/

theorem holdsItems_iff {items : List (Option Value)} : HoldsItems m data items ↔
    List.Forall₂ (fun datum item => Holds m datum (item.getD .undefined)) data items := by
  induction data generalizing items with
  | nil => rw [HoldsItems, List.forall₂_nil_left_iff]
  | cons datum data ih =>
      simp only [HoldsItems, ih, List.forall₂_cons_left_iff]
      constructor
      · rintro ⟨item, rest, rfl, held, items⟩
        exact ⟨item, rest, held, items, rfl⟩
      · rintro ⟨item, rest, held, items, rfl⟩
        exact ⟨item, rest, rfl, held, items⟩

/-- What a field of a record is, is what the object has under its name. -/
theorem HoldsFields.property? {fields : List (Utf16 × Datum)} {object : Object}
    (held : HoldsFields m fields object.properties) (name : Utf16) :
    match object.property? (Key.ofText name) with
    | some property => ∃ value isWritable isEnumerable isConfigurable,
        property = { content := .data value isWritable, isEnumerable, isConfigurable } ∧
          Holds m ((Datum.record fields).field name) value
    | none => (Datum.record fields).field name = .undefined := by
  rw [Object.property?]
  generalize object.properties = properties at held
  induction fields generalizing properties with
  | nil =>
      rw [HoldsFields] at held
      rw [held]
      rfl
  | cons entry fields ih =>
      obtain ⟨first, datum⟩ := entry
      rw [HoldsFields] at held
      obtain ⟨value, isWritable, isEnumerable, isConfigurable, rest, rfl, here, later⟩ := held
      by_cases same : name = first
      · subst same
        rw [List.find?_cons_of_pos (by simp), Option.map_some]
        refine ⟨value, isWritable, isEnumerable, isConfigurable, rfl, ?_⟩
        rwa [Datum.field, List.lookup_cons_self]
      · have other : (Key.ofText first == Key.ofText name) = false := by
          simpa using fun key => same (ofText_injective key).symm
        have field : (Datum.record ((first, datum) :: fields)).field name =
            (Datum.record fields).field name := by
          rw [Datum.field, Datum.field, List.lookup_cons, beq_false_of_ne same]
        rw [List.find?_cons_of_neg (by simpa using other), field]
        exact ih rest later

/-- The names that what all objects inherit, and what all lists inherit, do not have. The lists do
not inherit items either. -/
structure Bare (names : List String) (m : Machine) : Prop where
  objects : ∀ name ∈ names, m.Lacks Intrinsic.objectAncestor.ref (Key.ofText (.whole name))
  lists : ∀ name ∈ names, m.Lacks Intrinsic.arrayAncestor.ref (Key.ofText (.whole name))
  places : ∀ place, m.Lacks Intrinsic.arrayAncestor.ref (.index place)

theorem Bare.of_eq {names : List String} (bare : Bare names m) (same : m'.objects = m.objects) :
    Bare names m' := by
  have objects : ∀ ref, m'.objectAt ref = m.objectAt ref := fun ref => by
    rw [Machine.objectAt, same, Machine.objectAt]
  have lacks : ∀ ref key, m.Lacks ref key → m'.Lacks ref key := fun ref key lacks =>
    lacks.congr (fun ref => by rw [objects]) fun ref => by rw [objects]
  exact ⟨fun name member => lacks _ _ (bare.objects name member),
    fun name member => lacks _ _ (bare.lists name member),
    fun place => lacks _ _ (bare.places place)⟩

namespace Holds

theorem eq_plainValue (held : Holds m datum value) (isPlain : datum.isPlain = true) :
    value = datum.plainValue := by
  cases datum <;> first | exact held | cases isPlain

theorem eq_object (held : Holds m datum value) (composed : datum.isPlain = false) :
    ∃ ref, value = .object ref := by
  cases datum
  case list => exact ⟨held.choose, held.choose_spec.choose_spec.1⟩
  case record => exact ⟨held.choose, held.choose_spec.choose_spec.1⟩
  case function =>
    have function : m.isFunction value = true := held
    cases value
    case object ref => exact ⟨ref, rfl⟩
    all_goals cases function
  all_goals cases composed

theorem isTruthy (held : Holds m datum value) : value.isTruthy = datum.isTruthy := by
  cases isPlain : datum.isPlain
  · obtain ⟨ref, rfl⟩ := held.eq_object isPlain
    cases datum <;> first | rfl | cases isPlain
  · rw [held.eq_plainValue isPlain]
    cases datum <;> first | rfl | cases isPlain

theorem isUndefined (held : Holds m datum value) : value.isUndefined = datum.isUndefined := by
  cases isPlain : datum.isPlain
  · obtain ⟨ref, rfl⟩ := held.eq_object isPlain
    cases datum <;> first | rfl | cases isPlain
  · rw [held.eq_plainValue isPlain]
    cases datum <;> first | rfl | cases isPlain

theorem kind {ref : Ref} (held : Holds m datum (.object ref)) :
    datum.IsOfKind (m.objectAt ref).kind := by
  cases datum
  case list items =>
    obtain ⟨ref, object, ⟨rfl⟩, found, isArray, -⟩ := held
    rwa [Machine.objectAt_of_get found]
  case record fields =>
    obtain ⟨ref, object, ⟨rfl⟩, found, isPlain, -⟩ := held
    rwa [Machine.objectAt_of_get found]
  case function =>
    have function : m.isFunction (.object ref) = true := held
    rw [Machine.isFunction] at function
    split at function
    next callable isKind => exact ⟨callable, isKind⟩
    next => cases function
  all_goals cases held

theorem isArray_run (held : Holds m datum value) :
    (isArray value).run m = .ok datum.isList m := by
  cases isPlain : datum.isPlain
  · obtain ⟨ref, rfl⟩ := held.eq_object isPlain
    have kind := held.kind
    rw [isArray, object_bind_run]
    cases datum
    case function =>
      obtain ⟨callable, kind⟩ := kind
      rw [kind]
      rfl
    case list | record =>
      rw [show (m.objectAt ref).kind = _ from kind]
      rfl
    all_goals cases isPlain
  · rw [held.eq_plainValue isPlain]
    cases datum <;> first | rfl | cases isPlain

theorem isFunction (held : Holds m datum value) (notFunction : datum ≠ .function) :
    m.isFunction value = false := by
  cases isPlain : datum.isPlain
  · obtain ⟨ref, rfl⟩ := held.eq_object isPlain
    have kind := held.kind
    rw [Machine.isFunction]
    cases datum
    case function => contradiction
    case list | record => rw [show (m.objectAt ref).kind = _ from kind]
    all_goals cases isPlain
  · rw [held.eq_plainValue isPlain]
    cases datum <;> rfl

/-- The text of plain data. -/
theorem describedText_run (held : Holds m datum value) (isPlain : datum.isPlain = true) :
    (describedText inner value).run m = .ok datum.shown m := by
  rw [held.eq_plainValue isPlain]
  cases datum <;> first | rfl | cases isPlain

/-- The fields of data are data. -/
theorem exists_field (held : Holds m datum value) (name : Utf16) :
    ∃ found, Holds m (datum.field name) found := by
  cases datum
  case record fields =>
    obtain ⟨ref, object, rfl, found, isPlain, above, properties⟩ := held
    have field := properties.property? name
    split at field
    next property here =>
      obtain ⟨value, -, -, -, -, held⟩ := field
      exact ⟨value, held⟩
    next absent =>
      rw [field]
      exact ⟨.undefined, rfl⟩
  all_goals exact ⟨.undefined, rfl⟩

/-- A list is not longer than lists may be. -/
theorem items_le (held : Holds m datum value) : datum.items.length ≤ placeBound := by
  cases datum
  case list items =>
    obtain ⟨ref, object, -, -, -, -, -, bounded, held⟩ := held
    have same := (holdsItems_iff.mp held).length_eq
    rw [Array.length_toList] at same
    exact same.trans_le bounded
  all_goals exact Nat.zero_le _

/-- Nor are the lists among its items. -/
theorem items_items_le (held : Holds m datum value) :
    ∀ item ∈ datum.items, item.items.length ≤ placeBound := by
  cases datum
  case list items =>
    obtain ⟨ref, object, -, -, -, -, -, -, held⟩ := held
    exact ((List.forall₂_and_left _ _).mp ((holdsItems_iff.mp held).imp
      fun _ _ held => ⟨held.items_le, held⟩)).1
  all_goals exact fun _ member => nomatch member

/-- A name that no list has itself. -/
theorem listProperty?_of_ne {items : Array (Option Value)} {isOpen : Bool} {name : String}
    (isName : Key.ofText (.whole name) = .name (.whole name)) (notLength : name ≠ "length") :
    listProperty? items isOpen (Key.ofText (.whole name)) = none := by
  have length : Key.ofText "length" = .name "length" := by decide
  rw [isName]
  refine if_neg ?_
  rw [length]
  simpa using notLength

/-- The field of data under a name that it does not inherit. -/
theorem read_run {names : List String} {name : String} (held : Holds m datum value)
    (isRecord : datum.isRecord = true) (bare : Bare names m) (member : name ∈ names)
    (isName : Key.ofText (.whole name) = .name (.whole name)) (notLength : name ≠ "length") :
    ∃ found, (read inner value (Key.ofText (.whole name))).run m = .ok found m ∧
      Holds m (datum.field (.whole name)) found := by
  cases datum
  case list items =>
    obtain ⟨ref, object, rfl, found, isArray, above, properties, -⟩ := held
    have own : (m.objectAt ref).own? (Key.ofText (.whole name)) = none := by
      rw [Machine.objectAt_of_get found, Object.own?, isArray]
      simp only [listProperty?_of_ne isName notLength, Object.property?, properties]
      rfl
    refine ⟨.undefined, read_lacks (.of_own own fun ancestor inherited => ?_), rfl⟩
    rw [Machine.objectAt_of_get found, above] at inherited
    cases inherited
    exact bare.lists name member
  case record fields =>
    obtain ⟨ref, object, rfl, found, isPlain, above, properties⟩ := held
    have own : (m.objectAt ref).own? (Key.ofText (.whole name)) =
        object.property? (Key.ofText (.whole name)) := by
      rw [Machine.objectAt_of_get found, Object.own?, isPlain]
    have field := properties.property? (.whole name)
    split at field
    next property here =>
      obtain ⟨value, isWritable, isEnumerable, isConfigurable, rfl, held⟩ := field
      exact ⟨value, read_own (own.trans here), held⟩
    next absent =>
      refine ⟨.undefined, read_lacks (.of_own (own.trans absent) fun ancestor inherited => ?_), ?_⟩
      · rw [Machine.objectAt_of_get found, above] at inherited
        cases inherited
        exact bare.objects name member
      · rw [field, Holds]
  all_goals cases isRecord

/-- The entries of a list are its items, a hole among them being undefined. -/
theorem read_index {items : List Datum} (held : Holds m (.list items) value)
    (places : ∀ place, m.Lacks Intrinsic.arrayAncestor.ref (.index place)) :
    ∃ values, (lengthProperty inner value).run m = .ok values.length m ∧
      (∀ place, place < values.length → (read inner value (.index place)).run m =
        .ok (values[place]?.getD .undefined) m) ∧
      List.Forall₂ (Holds m) items values := by
  obtain ⟨ref, object, rfl, found, isArray, above, properties, bounded, held⟩ := held
  have here := Machine.objectAt_of_get found
  refine ⟨object.items.toList.map (·.getD .undefined), ?_, fun place inside => ?_, ?_⟩
  · have own : (m.objectAt ref).own? (Key.ofText "length") =
        some { content := .data (.ofNat object.items.size) object.isExtensible
               isEnumerable := false, isConfigurable := false } := by
      rw [here, Object.own?, isArray]
      rfl
    have small : object.items.size < twoTo 53 := lt_of_le_of_lt bounded (by decide)
    have seen : (lengthProperty inner (.object ref)).run m =
        .ok (seenLength object.items.size) m := by
      rw [lengthProperty, bind_of_ok (read_own own)]
      rfl
    rw [seen, seenLength_of_lt small, List.length_map, Array.length_toList]
  · have there : (object.items.toList.map (·.getD .undefined))[place]?.getD .undefined =
        object.items[place]?.join.getD .undefined := by
      rw [List.getElem?_map, Array.getElem?_toList]
      cases object.items[place]? <;> rfl
    have own : (m.objectAt ref).own? (.index place) = object.items[place]?.join.map fun value =>
        { content := .data value object.isExtensible, isConfigurable := object.isExtensible } := by
      rw [here, Object.own?, isArray]
      simp only [listProperty?, Object.property?, properties]
      cases object.items[place]?.join <;> rfl
    rw [there]
    cases item : object.items[place]?.join with
    | some value =>
        rw [item] at own
        exact read_own own
    | none =>
        rw [item] at own
        refine read_lacks (.of_own own fun ancestor inherited => ?_)
        rw [here, above] at inherited
        cases inherited
        exact places place
  · rw [List.forall₂_map_right_iff]
    exact holdsItems_iff.mp held

end Holds

end BotBench.Script
