import BotBench.Sandbox.Module
import Mathlib.Data.List.Forall2

/-! # Runs, objects and properties

How a run is taken apart at its binds, what it costs to make an object, and what reading and writing
a property come to for an object that has the property itself or has it neither itself nor from an
ancestor. Looking for a property changes nothing, so that it is stated as a function of the machine
(`BotBench.Script.Machine.found?`). -/

namespace BotBench.Script

open Text Run

variable {α β γ : Type} {m m' : Machine} {ref : Ref} {key : Key} {value : Value}

/-! ## Runs -/

namespace Run

theorem bind_of_ok {x : Run α} {f : α → Run β} {a : α} (first : x.run m = .ok a m') :
    (x >>= f).run m = (f a).run m' := by
  rw [EStateM.run_bind, first]

/-- A bind that ends well is two runs that end well. -/
theorem bind_ok {x : Run α} {f : α → Run β} {b : β} (ended : (x >>= f).run m = .ok b m') :
    ∃ a between, x.run m = .ok a between ∧ (f a).run between = .ok b m' := by
  rw [EStateM.run_bind] at ended
  cases first : x.run m with
  | ok a between =>
      rw [first] at ended
      exact ⟨a, between, rfl, ended⟩
  | error e between =>
      rw [first] at ended
      cases ended

@[simp]
theorem pure_run (a : α) : (pure a : Run α).run m = .ok a m := rfl

@[simp]
theorem get_bind_run (f : Machine → Run β) : (get >>= f).run m = (f m).run m := rfl

theorem discard_ok {x : Run α} (ended : (discard x).run m = .ok () m') :
    ∃ a, x.run m = .ok a m' := by
  change EStateM.map _ x m = _ at ended
  rw [EStateM.map] at ended
  split at ended
  next a last ran =>
    cases ended
    exact ⟨a, ran⟩
  next => cases ended

theorem throw_ne_ok {e : Abrupt} {a : α} : (throw e : Run α).run m ≠ .ok a m' := by
  intro same
  cases same

/-! ## Time -/

/-- Two machines that differ in the time and the memory that are left at most. -/
structure Alike (m m' : Machine) : Prop where
  objects : m'.objects = m.objects
  host : m'.host = m.host

theorem Alike.trans {m₁ m₂ m₃ : Machine} (first : Alike m₁ m₂) (second : Alike m₂ m₃) :
    Alike m₁ m₃ :=
  ⟨second.objects.trans first.objects, second.host.trans first.host⟩

/-- The machine after some steps. -/
def after (count : Nat) (m : Machine) : Machine := { m with steps := m.steps - count }

theorem spend_run {count : Nat} (enough : count ≤ m.steps) :
    (spend count).run m = .ok () (after count m) := by
  rw [spend, get_bind_run, if_neg (by omega)]
  rfl

theorem spend_short {count : Nat} (short : m.steps < count) :
    (spend count).run m = .error .interrupted m := by
  rw [spend, get_bind_run, if_pos short]
  rfl

theorem spend_ok {count : Nat} (ended : (spend count).run m = .ok () m') :
    m' = after count m := by
  by_cases enough : count ≤ m.steps
  · rw [spend_run enough] at ended
    cases ended
    rfl
  · rw [spend_short (by omega)] at ended
    cases ended

theorem Alike.spend {count : Nat} (ended : (spend count).run m = .ok () m') : Alike m m' := by
  rw [spend_ok ended]
  exact ⟨rfl, rfl⟩

theorem raise_ne_ok {kind : ErrorKind} {message : String} {a : α} :
    (raise kind message : Run α).run m ≠ .ok a m' := by
  intro ended
  obtain ⟨error, between, -, thrown⟩ := bind_ok ended
  exact throw_ne_ok thrown

theorem checkText_ok {t made : Utf16} (ended : (checkText t).run m = .ok made m') :
    made = t ∧ Alike m m' := by
  obtain ⟨_, m₁, spent, ended⟩ := bind_ok ended
  simp only [get_bind_run] at ended
  split at ended
  · cases ended
    exact ⟨rfl, .spend spent⟩
  · obtain ⟨_, m₂, passed, ended⟩ := bind_ok ended
    split at ended
    · cases ended
      exact ⟨rfl, (Alike.spend spent).trans (.spend passed)⟩
    · exact absurd ended raise_ne_ok

/-! ## Objects -/

/-- The machine with one more object. -/
def withObject (object : Object) (m : Machine) : Machine :=
  { after allocationSteps m with objects := m.objects.push object }

theorem allocate_run {object : Object} (enough : allocationSteps ≤ m.steps) :
    (allocate object).run m = .ok ⟨m.objects.size⟩ (withObject object m) := by
  rw [allocate, bind_of_ok (spend_run enough)]
  rfl

theorem allocate_ok {object : Object} (ended : (allocate object).run m = .ok ref m') :
    ref = ⟨m.objects.size⟩ ∧ m' = withObject object m := by
  obtain ⟨_, m₁, spent, ended⟩ := bind_ok ended
  rw [spend_ok spent] at ended
  cases ended
  exact ⟨rfl, rfl⟩

end Run

/-- The object of a reference. -/
def Machine.objectAt (m : Machine) (ref : Ref) : Object := m.objects[ref.index]?.getD default

@[simp]
theorem object_bind_run (f : Object → Run β) :
    (object ref >>= f).run m = (f (m.objectAt ref)).run m := rfl

theorem Machine.objectAt_of_get {object : Object} (found : m.objects[ref.index]? = some object) :
    m.objectAt ref = object := by
  rw [Machine.objectAt, found]
  rfl

/-- A reference to nothing is read as an object without properties and ancestors. -/
theorem Machine.objectAt_dangling (dangling : m.objects.size ≤ ref.index) :
    m.objectAt ref = default := by
  rw [Machine.objectAt, Array.getElem?_eq_none dangling]
  rfl

/-- A machine has the objects of another, and maybe more. -/
structure Grows (m m' : Machine) : Prop where
  size : m.objects.size ≤ m'.objects.size
  objects : ∀ place < m.objects.size, m'.objects[place]? = m.objects[place]?

namespace Grows

theorem of_eq (same : m'.objects = m.objects) : Grows m m' :=
  ⟨Nat.le_of_eq (by rw [same]), fun _ _ => by rw [same]⟩

theorem refl (m : Machine) : Grows m m := .of_eq rfl

theorem after (count : Nat) (m : Machine) : Grows m (Run.after count m) := .of_eq rfl

theorem trans {m₁ m₂ m₃ : Machine} (first : Grows m₁ m₂) (second : Grows m₂ m₃) :
    Grows m₁ m₃ :=
  ⟨Nat.le_trans first.size second.size, fun place inside =>
    (second.objects place (Nat.lt_of_lt_of_le inside first.size)).trans
      (first.objects place inside)⟩

theorem withObject (object : Object) (m : Machine) : Grows m (Run.withObject object m) where
  size := by simp [Run.withObject]
  objects place inside := by
    change (m.objects.push object)[place]? = _
    rw [Array.getElem?_push, if_neg (Nat.ne_of_lt inside)]

/-- An object of a machine is still there when the machine has grown. -/
theorem getElem? {object : Object} (grows : Grows m m')
    (found : m.objects[ref.index]? = some object) : m'.objects[ref.index]? = some object :=
  (grows.objects _ (Array.getElem?_eq_some_iff.mp found).1).trans found

/-- A reference to something is still one to the same. -/
theorem objectAt (grows : Grows m m') (there : m.objectAt ref ≠ default) :
    m'.objectAt ref = m.objectAt ref := by
  have inside : ref.index < m.objects.size := by
    by_contra dangling
    exact there (Machine.objectAt_dangling (by omega))
  rw [Machine.objectAt, grows.objects _ inside, Machine.objectAt]

end Grows

/-- Whether a value is a function. -/
def Machine.isFunction (m : Machine) : Value → Bool
  | .object ref =>
      match (m.objectAt ref).kind with
      | .function _ => true
      | _ => false
  | _ => false

/-- A function is still one when the machine has grown. -/
theorem Grows.isFunction (grows : Grows m m') (function : m.isFunction value = true) :
    m'.isFunction value = true := by
  cases value
  case object ref =>
    have there : m.objectAt ref ≠ default := fun same => by
      rw [Machine.isFunction, same] at function
      cases function
    rwa [Machine.isFunction, grows.objectAt there]
  all_goals cases function

theorem isCallable_run : (isCallable value).run m = .ok (m.isFunction value) m := by
  cases value
  case object ref =>
    change (callable? (.object ref) >>= fun callable => pure callable.isSome).run m = _
    have callable : (callable? (.object ref)).run m = .ok
        (match (m.objectAt ref).kind with
        | .function callable => some callable
        | _ => none) m := by
      rw [callable?, object_bind_run]
      cases (m.objectAt ref).kind <;> rfl
    rw [bind_of_ok callable, Machine.isFunction, pure_run]
    cases (m.objectAt ref).kind <;> rfl
  all_goals rfl

/-! ## Properties of an object itself -/

namespace Object

theorem find?_putProperty (key other : Key) (property : Property)
    (entries : List (Key × Property)) :
    ((putProperty key property entries).find? fun entry => entry.1 == other) =
      if key = other then some (key, property)
      else entries.find? fun entry => entry.1 == other := by
  induction entries with
  | nil =>
      by_cases same : key = other <;> simp [putProperty, same]
  | cons entry rest ih =>
      rw [putProperty]
      by_cases here : entry.1 = key
      · by_cases same : key = other <;> simp [here, same]
      · have passed : (entry.1 == key) = false := by simpa using here
        rw [passed, if_neg (by simp), List.find?_cons, List.find?_cons, ih]
        by_cases same : key = other
        · rw [← same, passed]
        · rw [if_neg same, if_neg same]

/-- What is put under a key is found under it, and everything else as before. -/
theorem property?_put (object : Object) (key other : Key) (property : Property) :
    (object.put key property).property? other =
      if key = other then some property else object.property? other := by
  rw [Object.property?, Object.put, find?_putProperty]
  split <;> rfl

end Object

/-! ## Going through lists -/

section Lists

variable {R : α → β → Prop} {as : List α} {bs : List β}

/-- A list is gone through item by item; the machine stays as it is if no item changes it. The items
are known by what they are related to. -/
theorem mapM_forall₂ {f : β → Run γ} {g : α → γ} (related : List.Forall₂ R as bs)
    (each : ∀ a ∈ as, ∀ b, R a b → (f b).run m = .ok (g a) m) :
    (bs.mapM f).run m = .ok (as.map g) m := by
  induction related with
  | nil => rfl
  | cons here _ ih =>
      rw [List.mapM_cons, bind_of_ok (each _ List.mem_cons_self _ here),
        bind_of_ok (ih fun a member => each a (List.mem_cons_of_mem _ member))]
      rfl

theorem filterMapM_forall₂ {f : β → Run (Option γ)} {g : α → Option γ}
    (related : List.Forall₂ R as bs)
    (each : ∀ a ∈ as, ∀ b, R a b → (f b).run m = .ok (g a) m) :
    (bs.filterMapM f).run m = .ok (as.filterMap g) m := by
  induction related with
  | nil => rfl
  | @cons a _ _ _ here _ ih =>
      rw [List.filterMapM_cons, bind_of_ok (each _ List.mem_cons_self _ here), List.filterMap_cons]
      have later := ih fun a member => each a (List.mem_cons_of_mem _ member)
      cases g a with
      | none => exact later
      | some c =>
          simp only [bind_of_ok later]
          rfl

theorem anyM_forall₂ {f : β → Run Bool} {g : α → Bool} (related : List.Forall₂ R as bs)
    (each : ∀ a ∈ as, ∀ b, R a b → (f b).run m = .ok (g a) m) :
    (bs.anyM f).run m = .ok (as.any g) m := by
  induction related with
  | nil => rfl
  | @cons a _ _ _ here _ ih =>
      rw [List.anyM, bind_of_ok (each _ List.mem_cons_self _ here), List.any_cons]
      cases g a with
      | true => rfl
      | false => exact ih fun a member => each a (List.mem_cons_of_mem _ member)

theorem mapM_run {f : α → Run β} {g : α → β} (each : ∀ a ∈ as, (f a).run m = .ok (g a) m) :
    (as.mapM f).run m = .ok (as.map g) m :=
  mapM_forall₂ (List.forall₂_same.mpr fun _ _ => rfl) fun a member b (same : a = b) =>
    same ▸ each a member

theorem filterMapM_run {f : β → Run (Option γ)} {of : α → β} {g : α → γ}
    (each : ∀ a ∈ as, (f (of a)).run m = .ok (some (g a)) m) :
    ((as.map of).filterMapM f).run m = .ok (as.map g) m := by
  rw [show as.map g = as.filterMap (some ∘ g) by rw [List.filterMap_eq_map]]
  exact filterMapM_forall₂ (R := fun a b => of a = b)
    (List.forall₂_map_right_iff.mpr (List.forall₂_same.mpr fun _ _ => rfl))
    fun a member b same => same ▸ each a member

end Lists

/-! ## Looking for a property -/

/-- The property that an object or one of its ancestors has, up to a number of ancestors. -/
def Machine.found? (m : Machine) (key : Key) : Nat → Ref → Option Property
  | 0, _ => none
  | depth + 1, ref =>
      match (m.objectAt ref).own? key, (m.objectAt ref).ancestor with
      | some property, _ => some property
      | none, some ancestor => m.found? key depth ancestor
      | none, none => none

@[simp]
theorem findProperty_run (depth : Nat) :
    (findProperty key depth ref).run m = .ok (m.found? key depth ref) m := by
  induction depth generalizing ref with
  | zero => rfl
  | succ depth ih =>
      rw [findProperty, object_bind_run, Machine.found?]
      cases (m.objectAt ref).own? key with
      | some property => rfl
      | none =>
          cases (m.objectAt ref).ancestor with
          | some ancestor => exact ih
          | none => rfl

theorem property?_run :
    (property? ref key).run m = .ok (m.found? key (m.objects.size + 1) ref) m :=
  findProperty_run _

/-- Neither an object nor one of its ancestors has a property. -/
def Machine.Lacks (m : Machine) (ref : Ref) (key : Key) : Prop :=
  ∀ depth, m.found? key depth ref = none

theorem Machine.found?_of_own {property : Property} {depth : Nat}
    (own : (m.objectAt ref).own? key = some property) :
    m.found? key (depth + 1) ref = some property := by
  rw [Machine.found?, own]

namespace Machine.Lacks

theorem own (lacks : m.Lacks ref key) : (m.objectAt ref).own? key = none := by
  have first := lacks 1
  rw [Machine.found?] at first
  split at first
  · cases first
  · assumption
  · assumption

theorem ancestor (lacks : m.Lacks ref key) {ancestor : Ref}
    (above : (m.objectAt ref).ancestor = some ancestor) : m.Lacks ancestor key := by
  intro depth
  have next := lacks (depth + 1)
  rwa [Machine.found?, lacks.own, above] at next

theorem of_own (own : (m.objectAt ref).own? key = none)
    (above : ∀ ancestor, (m.objectAt ref).ancestor = some ancestor → m.Lacks ancestor key) :
    m.Lacks ref key := by
  intro depth
  cases depth with
  | zero => rfl
  | succ depth =>
      rw [Machine.found?, own]
      split
      · contradiction
      · exact above _ ‹_› depth
      · rfl

/-- The search for a property sees no more of the objects than their ancestors and this property. -/
theorem congr (lacks : m.Lacks ref key)
    (own : ∀ ref, (m'.objectAt ref).own? key = (m.objectAt ref).own? key)
    (ancestor : ∀ ref, (m'.objectAt ref).ancestor = (m.objectAt ref).ancestor) :
    m'.Lacks ref key := by
  have found : ∀ depth ref, m'.found? key depth ref = m.found? key depth ref := by
    intro depth
    induction depth with
    | zero => intro ref; rfl
    | succ depth ih =>
        intro ref
        simp only [Machine.found?, own, ancestor, ih]
  intro depth
  rw [found]
  exact lacks depth

/-- One more object without the property, and with such ancestors, changes nothing: not even a
reference to nothing, which may now be to this object, leads to the property. -/
theorem push (lacks : m.Lacks ref key) {object : Object}
    (objects : m'.objects = m.objects.push object) (own : object.own? key = none)
    (above : ∀ ancestor, object.ancestor = some ancestor → m.Lacks ancestor key) :
    m'.Lacks ref key := by
  intro depth
  induction depth generalizing ref with
  | zero => rfl
  | succ depth ih =>
      have here : m'.objectAt ref = m.objectAt ref ∨ m'.objectAt ref = object := by
        simp only [Machine.objectAt, objects, Array.getElem?_push]
        split
        · exact .inr rfl
        · exact .inl rfl
      rw [Machine.found?]
      rcases here with old | new
      · rw [old, lacks.own]
        split
        · contradiction
        · exact ih (lacks.ancestor ‹_›)
        · rfl
      · rw [new, own]
        split
        · contradiction
        · exact ih (above _ ‹_›)
        · rfl

end Machine.Lacks

/-! ## Reading and writing -/

variable {inner : Evaluator}

/-- A property that an object has itself is read without calling anything. -/
theorem read_own {isWritable isEnumerable isConfigurable : Bool}
    (own : (m.objectAt ref).own? key =
      some { content := .data value isWritable, isEnumerable, isConfigurable }) :
    (read inner (.object ref) key).run m = .ok value m := by
  change ((property? ref key >>= fun found => propertyValue inner found (.object ref))).run m = _
  rw [bind_of_ok property?_run, Machine.found?_of_own own]
  rfl

/-- What a property of an object itself holds. -/
def Machine.HasValue (m : Machine) (ref : Ref) (key : Key) (value : Value) : Prop :=
  ∃ isWritable isEnumerable isConfigurable, (m.objectAt ref).own? key =
    some { content := .data value isWritable, isEnumerable, isConfigurable }

theorem Machine.HasValue.grows (grows : Grows m m')
    (has : m.HasValue ref key value) : m'.HasValue ref key value := by
  obtain ⟨isWritable, isEnumerable, isConfigurable, own⟩ := has
  refine ⟨isWritable, isEnumerable, isConfigurable, ?_⟩
  rwa [grows.objectAt fun same => by rw [same] at own; cases own]

/-- A property is read of what an object inherits from. -/
theorem read_inherited {ancestor : Ref}
    (own : (m.objectAt ref).own? key = none) (above : (m.objectAt ref).ancestor = some ancestor)
    (has : m.HasValue ancestor key value) :
    (read inner (.object ref) key).run m = .ok value m := by
  obtain ⟨_, _, _, inherited⟩ := has
  have there : 1 ≤ m.objects.size := by
    by_contra none
    rw [Machine.objectAt_dangling (by omega)] at inherited
    cases inherited
  obtain ⟨count, size⟩ := Nat.exists_eq_add_of_le' there
  have found : m.found? key (m.objects.size + 1) ref = m.found? key (count + 1) ancestor := by
    rw [Machine.found?, own, above, size]
  change (property? ref key >>= fun found => propertyValue inner found (.object ref)).run m = _
  rw [bind_of_ok property?_run, found, Machine.found?_of_own inherited]
  rfl

theorem read_lacks (lacks : m.Lacks ref key) :
    (read inner (.object ref) key).run m = .ok .undefined m := by
  change ((property? ref key >>= fun found => propertyValue inner found (.object ref))).run m = _
  rw [bind_of_ok property?_run, lacks]
  rfl

theorem putProperty_ok {property : Property}
    (ended : (putProperty ref key property).run m = .ok () m') :
    m'.objects = m.objects.modify ref.index (·.put key property) ∧ m'.host = m.host := by
  rw [putProperty, object_bind_run] at ended
  obtain ⟨_, m₁, spent, ended⟩ := bind_ok ended
  rw [spend_ok spent] at ended
  cases ended
  exact ⟨rfl, rfl⟩

theorem define_plain {property : Property} (isPlain : (m.objectAt ref).kind = .plain) :
    (define ref key property).run m = (putProperty ref key property).run m := by
  rw [define, object_bind_run, isPlain]

/-- Writing a property that a plain object has itself, or has not even from an ancestor, puts it
into the object. -/
theorem write_plain (isPlain : (m.objectAt ref).kind = .plain)
    (isExtensible : (m.objectAt ref).isExtensible = true)
    (free : (∃ old, (m.objectAt ref).own? key = some (.plain old)) ∨ m.Lacks ref key) :
    (write inner false (.object ref) key value).run m =
      (putProperty ref key (.plain value)).run m := by
  change (writeObject inner false ref key value).run m = _
  rw [writeObject, object_bind_run]
  rcases free with ⟨old, own⟩ | lacks
  · rw [own]
    exact define_plain isPlain
  · rw [lacks.own, bind_of_ok property?_run, lacks]
    rw [writeNew, object_bind_run, isExtensible]
    exact define_plain isPlain

/-! ## Texts as keys -/

theorem toString_of_placeOfText? {text : String} {place : Nat}
    (found : placeOfText? text = some place) : toString place = text := by
  simp only [placeOfText?] at found
  split at found
  · cases found
  · split at found
    · split at found
      next holds =>
        cases found
        simp only [Bool.and_eq_true, beq_iff_eq] at holds
        exact holds.1
      next => cases found
    · cases found

/-- A key has the text of which it was made. -/
theorem text?_ofText (text : Utf16) : (Key.ofText text).text? = some text := by
  cases text with
  | cut units => rfl
  | whole text =>
      rw [Key.ofText]
      split
      next place found => rw [Key.text?, toString_of_placeOfText? found]
      next => rfl

/-- Each text has a key of its own. -/
theorem ofText_injective : Function.Injective Key.ofText := by
  intro a b same
  have texts := text?_ofText a
  rw [same, text?_ofText b] at texts
  exact (Option.some.inj texts).symm

end BotBench.Script
