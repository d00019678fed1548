import BotBench.Proofs.Sandbox.Effects

/-! # Keyboards that the module makes

The module of a bot wraps rows of buttons into a keyboard, with methods that give the keyboard again
so that calls can be chained. However long the chain is, the keyboard holds the rows
(`BotBench.Sandbox.Chaining.holds`). -/

namespace BotBench.Sandbox

open Script Script.Run Text

variable {inner : Evaluator} {m m' m₁ m₂ : Machine} {wrapping ref : Ref}
  {keyboard given result : Value} {arguments : List Value} {depth : Nat}
  {methods : List (String × Ref)} {name : String}

/-! ## Machines that grow around an object -/

/-- A machine has the objects of another, one of them maybe changed, and maybe more. -/
structure GrowsBesides (changed : Ref) (m m' : Machine) : Prop where
  size : m.objects.size ≤ m'.objects.size
  objects : ∀ place < m.objects.size, place ≠ changed.index → m'.objects[place]? = m.objects[place]?

namespace GrowsBesides

theorem of_grows (grows : Grows m m') : GrowsBesides wrapping m m' :=
  ⟨grows.size, fun place inside _ => grows.objects place inside⟩

theorem of_modify {object : Object} {change : Object → Object}
    (objects : m'.objects = (m.objects.push object).modify wrapping.index change) :
    GrowsBesides wrapping m m' := by
  refine ⟨by simp [objects], fun place inside other => ?_⟩
  rw [objects, Array.getElem?_modify, if_neg other.symm, Array.getElem?_push, if_neg inside.ne]

theorem trans (first : GrowsBesides wrapping m m₁) (second : GrowsBesides wrapping m₁ m₂) :
    GrowsBesides wrapping m m₂ :=
  ⟨first.size.trans second.size, fun place inside other =>
    (second.objects place (inside.trans_le first.size) other).trans
      (first.objects place inside other)⟩

/-- If the changed object is a new one, a machine has just grown. -/
theorem grows (besides : GrowsBesides wrapping m₁ m₂) (first : Grows m m₁)
    (new : m.objects.size ≤ wrapping.index) : Grows m m₂ :=
  ⟨first.size.trans besides.size, fun place inside =>
    (besides.objects place (inside.trans_le first.size) (by omega)).trans
      (first.objects place inside)⟩

theorem getElem? {object : Object} (besides : GrowsBesides wrapping m m')
    (other : ref ≠ wrapping) (found : m.objects[ref.index]? = some object) :
    m'.objects[ref.index]? = some object := by
  have inside := (Array.getElem?_eq_some_iff.mp found).1
  have apart : ref.index ≠ wrapping.index := fun same => other (congrArg Ref.mk same)
  rw [besides.objects _ inside apart, found]

theorem objectAt (besides : GrowsBesides wrapping m m') (other : ref ≠ wrapping)
    (there : m.objectAt ref ≠ default) : m'.objectAt ref = m.objectAt ref := by
  have inside : ref.index < m.objects.size := by
    by_contra dangling
    exact there (Machine.objectAt_dangling (by omega))
  exact Machine.objectAt_of_get (besides.getElem? other (by
    rw [Machine.objectAt, Array.getElem?_eq_getElem inside]; rfl))

end GrowsBesides

/-! ## Methods of a keyboard -/

/-- The names of a keyboard with some methods. -/
def namesOf (methods : List (String × Ref)) : List String := "reply_markup" :: methods.map Prod.fst

/-- The fields of a keyboard with some methods. -/
def fieldsOf (keyboard : Value) (methods : List (String × Ref)) : List (String × Value) :=
  ("reply_markup", keyboard) :: methods.map fun (name, ref) => (name, .object ref)

theorem map_fst_fieldsOf : (fieldsOf keyboard methods).map Prod.fst = namesOf methods := by
  simp [fieldsOf, namesOf]

/-- A keyboard with some methods that give it again. -/
structure Chaining (m : Machine) (wrapping : Ref) (keyboard : Value)
    (methods : List (String × Ref)) : Prop where
  object : m.objects[wrapping.index]? = some (recordObject (fieldsOf keyboard methods))
  method : ∀ entry ∈ methods, (m.objectAt entry.2).kind =
    .function (.native (.host (.chained wrapping)))

/-- What all objects inherit has none of the names under which a keyboard is given its methods. -/
def Extensible (m : Machine) : Prop :=
  ∃ object, m.objects[Intrinsic.objectAncestor.ref.index]? = some object ∧
    object.ancestor = none ∧ ∀ name ∈ chainedNames, object.own? (Key.ofText (.whole name)) = none

namespace Extensible

theorem besides (extensible : Extensible m) (besides : GrowsBesides wrapping m m')
    (other : wrapping ≠ Intrinsic.objectAncestor.ref) : Extensible m' := by
  obtain ⟨object, found, free⟩ := extensible
  exact ⟨object, besides.getElem? other.symm found, free⟩

theorem grows (extensible : Extensible m) (grows : Grows m m') : Extensible m' := by
  obtain ⟨object, found, free⟩ := extensible
  exact ⟨object, grows.getElem? found, free⟩

theorem lacks (extensible : Extensible m) (member : name ∈ chainedNames) :
    m.Lacks Intrinsic.objectAncestor.ref (Key.ofText (.whole name)) := by
  obtain ⟨object, found, top, free⟩ := extensible
  have here := Machine.objectAt_of_get found
  refine .of_own (by rw [here]; exact free name member) fun ancestor inherited => ?_
  rw [here, top] at inherited
  cases inherited

end Extensible

namespace Chaining

theorem objectAt (chaining : Chaining m wrapping keyboard methods) :
    m.objectAt wrapping = recordObject (fieldsOf keyboard methods) :=
  Machine.objectAt_of_get chaining.object

/-- A function is no keyboard. -/
theorem ne_wrapping {callable : Callable} (chaining : Chaining m wrapping keyboard methods)
    (function : (m.objectAt ref).kind = .function callable) : ref ≠ wrapping := by
  rintro rfl
  rw [chaining.objectAt] at function
  cases function

theorem congr (chaining : Chaining m wrapping keyboard methods)
    (grows : Grows m m') : Chaining m' wrapping keyboard methods where
  object := grows.getElem? chaining.object
  method entry member := by
    rw [grows.objectAt fun same => ?_, chaining.method entry member]
    have kind := chaining.method entry member
    rw [same] at kind
    cases kind

/-- One more method. -/
theorem put (chaining : Chaining m wrapping keyboard methods) {object : Object}
    (isMethod : object.kind = .function (.native (.host (.chained wrapping))))
    (new : name ∉ namesOf methods)
    (objects : m'.objects = (m.objects.push object).modify wrapping.index
      (·.put (Key.ofText (.whole name)) (.plain (.object ⟨m.objects.size⟩)))) :
    Chaining m' wrapping keyboard (methods ++ [(name, ⟨m.objects.size⟩)]) := by
  have inside := (Array.getElem?_eq_some_iff.mp chaining.object).1
  have besides : GrowsBesides wrapping m m' := .of_modify objects
  constructor
  · rw [objects, Array.getElem?_modify, if_pos rfl, Array.getElem?_push, if_neg inside.ne,
      chaining.object, Option.map_some, put_recordObject (by rwa [map_fst_fieldsOf])]
    simp [fieldsOf]
  · intro entry member
    rcases List.mem_append.mp member with before | last
    · have isMethod := chaining.method entry before
      rwa [besides.objectAt (chaining.ne_wrapping isMethod) fun same => by
        rw [same] at isMethod; cases isMethod]
    · have last : entry.2 = ⟨m.objects.size⟩ := congrArg Prod.snd (List.mem_singleton.mp last)
      have made : m'.objects[entry.2.index]? = some object := by
        rw [last, objects, Array.getElem?_modify, if_neg inside.ne, Array.getElem?_push, if_pos rfl]
      rw [Machine.objectAt_of_get made, isMethod]

/-- A keyboard does not inherit the methods that it is to be given. -/
theorem lacks (chaining : Chaining m wrapping keyboard methods) (extensible : Extensible m)
    (member : name ∈ chainedNames) (new : name ∉ namesOf methods) :
    m.Lacks wrapping (Key.ofText (.whole name)) := by
  refine .of_own ?_ fun ancestor inherited => ?_
  · rw [chaining.objectAt]
    exact own?_recordObject_none (by rwa [map_fst_fieldsOf])
  · rw [chaining.objectAt] at inherited
    cases inherited
    exact extensible.lacks member

/-- A call with a name adds a method. -/
theorem add (chaining : Chaining m wrapping keyboard methods) (extensible : Extensible m)
    (member : name ∈ chainedNames) (new : name ∉ namesOf methods)
    (isAdding : (m.objectAt ref).kind = .function (.native (.host (.addChained wrapping))))
    (ended : ((Evaluator.ofDepth depth).call (.object ref) given
      (.text (.whole name) :: arguments)).run m = .ok result m') :
    ∃ method, Chaining m' wrapping keyboard (methods ++ [(name, method)]) ∧
      GrowsBesides wrapping m m' := by
  obtain ⟨depth, ended⟩ := call_host isAdding ended
  obtain ⟨chained, m₁, made, ended⟩ := bind_ok ended
  obtain ⟨method, object, rfl, isMethod, adds⟩ := Adds.hostFunction made
  have key : (toKey (.ofDepth depth) (.text (.whole name))).run m₁ =
      .ok (Key.ofText (.whole name)) m₁ := rfl
  change (toKey (.ofDepth depth) (.text (.whole name)) >>= _).run _ = _ at ended
  rw [bind_of_ok key] at ended
  obtain ⟨_, last, written, ended⟩ := bind_ok ended
  cases ended
  have grows : Grows m m₁ := (Grows.after 1 m).trans adds.grows
  have here := (chaining.congr grows).objectAt
  have free := (chaining.congr grows).lacks (extensible.grows grows) member new
  rw [write_plain (by rw [here]; rfl) (by rw [here]; rfl) (.inr free)] at written
  have objects := (putProperty_ok written).1
  rw [adds.objects, adds.new] at objects
  exact ⟨_, chaining.put isMethod new objects, .of_modify objects⟩

end Chaining

/-! ## Going through the names -/

variable {list adding : Ref} {values : List Value} {places : List Nat} {todo : List String}
  {length : Nat}

theorem itemAt?_run {place : Nat} {value : Value} (held : ValueList m list values)
    (there : values[place]? = some value) :
    (itemAt? inner ⟨.object list, length⟩ place).run m = .ok (some value) m := by
  obtain ⟨_, _, own⟩ := held.own?_index there
  change (property? list (.index place) >>= _).run m = _
  rw [bind_of_ok property?_run, Machine.found?_of_own own]
  rfl

theorem ValueList.besides (held : ValueList m list values) (besides : GrowsBesides wrapping m m')
    (other : list ≠ wrapping) : ValueList m' list values := by
  obtain ⟨object, found, rest⟩ := held
  exact ⟨object, besides.getElem? other found, rest⟩

/-- Each name adds a method. -/
theorem visitPlaces_ok {left : Unit ⊕ Unit}
    (related : List.Forall₂ (fun place name => values[place]? = some (.text (.whole name)))
      places todo)
    (held : ValueList m list values) (other : list ≠ wrapping)
    (chaining : Chaining m wrapping keyboard methods) (extensible : Extensible m)
    (apart : wrapping ≠ Intrinsic.objectAncestor.ref)
    (isAdding : (m.objectAt adding).kind = .function (.native (.host (.addChained wrapping))))
    (members : ∀ name ∈ todo, name ∈ chainedNames) (distinct : (namesOf methods ++ todo).Nodup)
    (ended : (visitPlaces (.ofDepth depth) ⟨.object list, length⟩ true
      (fun (_ : Unit) place value => do
        let _ ← (Evaluator.ofDepth depth).call (.object adding) given
          [value, .ofNat place, .object list]
        return .inl ()) places ()).run m = .ok left m') :
    ∃ added, Chaining m' wrapping keyboard (methods ++ added) ∧ added.map Prod.fst = todo ∧
      GrowsBesides wrapping m m' := by
  induction related generalizing m methods with
  | nil =>
      cases ended
      exact ⟨[], by rwa [List.append_nil], rfl, .of_grows (.refl _)⟩
  | @cons place name places todo here later ih =>
      rw [visitPlaces] at ended
      obtain ⟨_, m₁, ticked, ended⟩ := bind_ok ended
      rw [spend_ok ticked] at ended
      have grows := Grows.after 1 m
      rw [bind_of_ok (itemAt?_run (ValueList.besides held (.of_grows grows) other) here)] at ended
      obtain ⟨_, m₂, visited, ended⟩ := bind_ok ended
      obtain ⟨_, _, called, visited⟩ := bind_ok visited
      cases visited
      obtain ⟨-, -, disjoint⟩ := List.nodup_append.mp distinct
      have new : name ∉ namesOf methods := fun old => disjoint _ old _ List.mem_cons_self rfl
      have isMethod : ((after 1 m).objectAt adding).kind = _ := isAdding
      obtain ⟨method, chaining', besides⟩ := (chaining.congr grows).add
        (extensible.grows grows) (members name List.mem_cons_self) new
        isMethod called
      replace besides : GrowsBesides wrapping m m₂ := (GrowsBesides.of_grows grows).trans besides
      have still : (m₂.objectAt adding).kind =
          .function (.native (.host (.addChained wrapping))) := by
        rwa [besides.objectAt (chaining.ne_wrapping isAdding) fun same => by
          rw [same] at isAdding; cases isAdding]
      obtain ⟨added, chaining', names, besides'⟩ := ih (ValueList.besides held besides other)
        chaining' (extensible.besides besides apart) still
        (fun name member => members name (List.mem_cons_of_mem _ member))
        (by simpa [namesOf] using distinct) ended
      refine ⟨(name, method) :: added, ?_, by rw [List.map_cons, names], besides.trans besides'⟩
      rwa [List.append_assoc] at chaining'

/-! ## Making a keyboard -/

/-- What the module relies on when it makes a keyboard: keyboards inherit none of their methods, and
lists have the library's way to go through them. -/
structure Offers (m : Machine) : Prop where
  extensible : Extensible m
  forEach : ∃ forEach,
    m.HasValue Intrinsic.arrayAncestor.ref (Key.ofText "forEach") (.object forEach) ∧
    (m.objectAt forEach).kind = .function (.native (.array .forEach))

theorem Offers.grows (offers : Offers m) (grows : Grows m m') : Offers m' := by
  obtain ⟨forEach, has, isForEach⟩ := offers.forEach
  exact ⟨offers.extensible.grows grows, forEach, has.grows grows, grows.kind isForEach⟩

theorem listed_run (held : ValueList m list (chainedNames.map fun name => .text (.whole name))) :
    (listed inner (.object list)).run m = .ok ⟨.object list, 4⟩ m := by
  change (lengthProperty inner (.object list) >>= fun length =>
    pure (⟨.object list, length⟩ : Listed)).run m = _
  rw [bind_of_ok held.lengthProperty_run, seenLength_of_lt (by decide)]
  rfl

theorem functionArgument_run (function : m.isFunction (.object adding) = true) :
    (functionArgument [.object adding] 0).run m = .ok (.object adding) m := by
  change (isCallable (.object adding) >>= _).run m = _
  rw [bind_of_ok isCallable_run, function]
  rfl

/-- The names are gone through by the library's way to go through a list. -/
theorem forEach_ok {forEach : Ref}
    (isForEach : (m.objectAt forEach).kind = .function (.native (.array .forEach)))
    (held : ValueList m list (chainedNames.map fun name => .text (.whole name)))
    (other : list ≠ wrapping) (chaining : Chaining m wrapping keyboard [])
    (extensible : Extensible m) (apart : wrapping ≠ Intrinsic.objectAncestor.ref)
    (isAdding : (m.objectAt adding).kind = .function (.native (.host (.addChained wrapping))))
    (ended : ((Evaluator.ofDepth depth).call (.object forEach) (.object list)
      [.object adding]).run m = .ok result m') :
    ∃ methods, Chaining m' wrapping keyboard methods ∧ methods.map Prod.fst = chainedNames ∧
      GrowsBesides wrapping m m' := by
  obtain ⟨depth, ended⟩ := call_native isForEach ended
  obtain ⟨_, m₁, ticked, ended⟩ := bind_ok ended
  rw [spend_ok ticked] at ended
  have grows := Grows.after 1 m
  obtain ⟨_, _, visited, ended⟩ := bind_ok ended
  cases ended
  obtain ⟨left, visited⟩ := discard_ok visited
  have isMethod : ((after 1 m).objectAt adding).kind = _ := isAdding
  rw [visitWith, bind_of_ok (listed_run (ValueList.besides held (.of_grows grows) other)),
    bind_of_ok (functionArgument_run (isFunction_of_native isMethod))] at visited
  have places : List.Forall₂ (fun place name =>
      (chainedNames.map fun name => Value.text (.whole name))[place]? = some (.text (.whole name)))
      (List.range 4) chainedNames := by
    simp [List.range_succ, chainedNames]
  obtain ⟨methods, chaining, names, besides⟩ := visitPlaces_ok places
    (ValueList.besides held (.of_grows grows) other) other (chaining.congr grows)
    (extensible.grows grows) apart isMethod (fun _ => id) (by decide) visited
  exact ⟨methods, chaining, names, (GrowsBesides.of_grows grows).trans besides⟩

/-- A keyboard that is made has all methods. -/
theorem wrapKeyboard_ok {fields : List (String × Value)} (offers : Offers m)
    (ended : (wrapKeyboard (.ofDepth depth) fields).run m = .ok result m') :
    ∃ wrapping keyboard methods, result = .object wrapping ∧
      m'.objects[keyboard.index]? = some (recordObject fields) ∧
      Chaining m' wrapping (.object keyboard) methods ∧ methods.map Prod.fst = chainedNames ∧
      Grows m m' := by
  obtain ⟨_, m₁, recorded, ended⟩ := bind_ok ended
  obtain ⟨keyboard, rfl, keyboardAdds⟩ := Adds.record recorded
  obtain ⟨wrapping, m₂, wrapped, ended⟩ := bind_ok ended
  have wrappingAdds := Adds.of_allocate wrapped
  obtain ⟨_, m₃, listed, ended⟩ := bind_ok ended
  obtain ⟨list, rfl, listAdds⟩ := Adds.list listed
  obtain ⟨_, m₄, added, ended⟩ := bind_ok ended
  obtain ⟨adding, object, rfl, isAdding, addingAdds⟩ := Adds.hostFunction added
  obtain ⟨_, m₅, called, ended⟩ := bind_ok ended
  cases ended
  obtain ⟨_, called⟩ := discard_ok called
  have before : Grows m m₁ := keyboardAdds.grows
  have grows : Grows m₁ m₄ := (wrappingAdds.grows.trans listAdds.grows).trans addingAdds.grows
  have apart : wrapping ≠ Intrinsic.objectAncestor.ref := by
    obtain ⟨object, found, -⟩ := offers.extensible.grows before
    exact (wrappingAdds.ne found).symm
  have chaining : Chaining m₂ wrapping (.object keyboard) [] :=
    ⟨wrappingAdds.found, fun _ member => nomatch member⟩
  have names : ValueList m₄ list (chainedNames.map fun name => .text (.whole name)) :=
    ⟨_, addingAdds.grows.getElem? listAdds.found, rfl, rfl⟩
  obtain ⟨forEach, has, isForEach⟩ := (offers.grows (before.trans grows)).forEach
  have here := Machine.objectAt_of_get (addingAdds.grows.getElem? listAdds.found)
  rw [invoke, bind_of_ok (read_inherited (by rw [here]; rfl) (by rw [here]; rfl) has), callValue,
    bind_of_ok isCallable_run, if_pos (isFunction_of_native isForEach)] at called
  obtain ⟨methods, chained, all, besides⟩ := forEach_ok isForEach names
    (listAdds.ne wrappingAdds.found).symm
    (chaining.congr (listAdds.grows.trans addingAdds.grows))
    (offers.extensible.grows (before.trans grows)) apart
    (by rw [Machine.objectAt_of_get addingAdds.found, isAdding]) called
  refine ⟨wrapping, keyboard, methods, rfl, ?_, chained, all, ?_⟩
  · exact besides.getElem? (wrappingAdds.ne keyboardAdds.found) (grows.getElem? keyboardAdds.found)
  · exact besides.grows (before.trans grows) (by
      rw [wrappingAdds.new]
      exact before.size)

/-- A chained call gives the keyboard again. -/
theorem Chaining.call_ok (chaining : Chaining m wrapping keyboard methods)
    (member : name ∈ methods.map Prod.fst) (distinct : (namesOf methods).Nodup)
    (ended : (invoke (.ofDepth depth) (.object wrapping) (Key.ofText (.whole name))
      arguments).run m = .ok result m') : result = .object wrapping ∧ Grows m m' := by
  obtain ⟨entry, inside, rfl⟩ := List.mem_map.mp member
  have isMethod := chaining.method entry inside
  have own := own?_recordObject (by rwa [map_fst_fieldsOf])
    (show (entry.1, .object entry.2) ∈ fieldsOf keyboard methods from
      List.mem_cons_of_mem _ (List.mem_map_of_mem inside))
  rw [← chaining.objectAt] at own
  rw [invoke, bind_of_ok (read_own own), callValue, bind_of_ok isCallable_run,
    if_pos (isFunction_of_native isMethod)] at ended
  obtain ⟨depth, ended⟩ := call_host isMethod ended
  cases ended
  exact ⟨rfl, .after 1 m⟩

/-! ## The data of a keyboard -/

/-- A record of values that are some data is the record of the data. -/
theorem holds_recordObject {fields : List (String × Value)} {data : List Datum}
    (found : m.objects[ref.index]? = some (recordObject fields))
    (each : List.Forall₂ (fun field datum => Holds m datum field.2) fields data) :
    Holds m (.record ((fields.zip data).map fun (field, datum) => (.whole field.1, datum)))
      (.object ref) := by
  refine ⟨ref, _, rfl, found, rfl, rfl, ?_⟩
  change HoldsFields m _ (recordProperties fields)
  clear found
  induction each with
  | nil => rfl
  | cons here _ ih => exact ⟨_, _, _, _, _, rfl, here, ih⟩

/-- The names under which a reply is handed a keyboard. -/
def holderNames : List Utf16 := ["reply_markup", "inline_keyboard", "keyboard"]

variable {items : List Datum} {datum : Datum} {value : Value}

/-- Rows under one of two names, and fields that have nothing to do with keyboards. -/
inductive IsKeyboard (items : List Datum) : Datum → Prop
  | inline {more : List (Utf16 × Datum)} : (∀ field ∈ more, field.1 ∉ holderNames) →
      IsKeyboard items (.record (("inline_keyboard", .list items) :: more))
  | plain {more : List (Utf16 × Datum)} : (∀ field ∈ more, field.1 ∉ holderNames) →
      IsKeyboard items (.record (("keyboard", .list items) :: more))

/-- What is handed to a reply has some rows: it has them itself, or under `reply_markup`. -/
inductive Carries (items : List Datum) : Datum → Prop
  | bare {datum : Datum} : IsKeyboard items datum → Carries items datum
  | wrapped {datum : Datum} {more : List (Utf16 × Datum)} : IsKeyboard items datum →
      Carries items (.record (("reply_markup", datum) :: more))

theorem field_of_not_mem {more : List (Utf16 × Datum)} {name : Utf16}
    (absent : ∀ field ∈ more, field.1 ∉ holderNames) (member : name ∈ holderNames) :
    (Datum.record more).field name = .undefined := by
  have none : more.lookup name = none := by
    rw [List.lookup_eq_none_iff]
    exact fun field inside => by
      simpa using fun same : name = field.1 => absent field inside (same ▸ member)
  rw [Datum.field, none]
  rfl

theorem field_cons_ne {name other : Utf16} {fields : List (Utf16 × Datum)} (apart : name ≠ other) :
    (Datum.record ((other, datum) :: fields)).field name = (Datum.record fields).field name := by
  rw [Datum.field, Datum.field, List.lookup_cons, beq_false_of_ne apart]

namespace IsKeyboard

theorem isRecord (isKeyboard : IsKeyboard items datum) : datum.isRecord = true := by
  cases isKeyboard <;> rfl

theorem rows (isKeyboard : IsKeyboard items datum) :
    (if (datum.field "inline_keyboard").isTruthy then datum.field "inline_keyboard"
      else datum.field "keyboard") = .list items := by
  cases isKeyboard with
  | inline absent => rfl
  | plain absent =>
      rw [field_cons_ne (by decide), field_of_not_mem absent (by decide)]
      rfl

end IsKeyboard

/-- A keyboard of the module with some rows: it was made with them, and then any calls were chained.
-/
inductive IsMarkup (items : List Datum) : Machine → Value → Prop
  | made {f : HostFunction} {m m' : Machine} {depth : Nat} {given result : Value}
      {arguments : List Value} : f = .keyboard ∨ f = .inlineKeyboard → Offers m →
      Holds m (.list items) (argument arguments 0) →
      (callNative (.ofDepth depth) (.host f) given arguments).run m = .ok result m' →
      IsMarkup items m' result
  | chained {m m' : Machine} {depth : Nat} {name : String} {value result : Value}
      {arguments : List Value} : IsMarkup items m value → name ∈ chainedNames →
      (invoke (.ofDepth depth) value (Key.ofText (.whole name)) arguments).run m = .ok result m' →
      IsMarkup items m' result
  | grown {m m' : Machine} {value : Value} : IsMarkup items m value → Grows m m' →
      IsMarkup items m' value

/-- Such a keyboard has all methods and holds the rows. -/
theorem IsMarkup.chaining (isMarkup : IsMarkup items m value) :
    ∃ wrapping keyboard methods datum, value = .object wrapping ∧
      Chaining m wrapping keyboard methods ∧ methods.map Prod.fst = chainedNames ∧
      Holds m datum keyboard ∧ IsKeyboard items datum := by
  induction isMarkup with
  | @made _ m m' _ _ _ _ isMaking offers held ended =>
      replace ended := callNative_host ended
      have grows := Grows.after 1 m
      rcases isMaking with rfl | rfl
      · obtain ⟨wrapping, keyboard, methods, rfl, found, chaining, all, grows'⟩ :=
          wrapKeyboard_ok (offers.grows grows) ended
        have resized : Holds m' (.bool true) (.bool true) := rfl
        refine ⟨wrapping, _, methods, _, rfl, chaining, all, holds_recordObject found
          (.cons ((held.grows grows).grows grows') (.cons resized .nil)), .plain ?_⟩
        simp [holderNames]
      · obtain ⟨wrapping, keyboard, methods, rfl, found, chaining, all, grows'⟩ :=
          wrapKeyboard_ok (offers.grows grows) ended
        exact ⟨wrapping, _, methods, _, rfl, chaining, all, holds_recordObject found
          (.cons ((held.grows grows).grows grows') .nil), .inline fun _ member => nomatch member⟩
  | chained _ member ended ih =>
      obtain ⟨wrapping, keyboard, methods, datum, rfl, chaining, all, held, isKeyboard⟩ := ih
      obtain ⟨rfl, grows⟩ := chaining.call_ok (by rwa [all]) (by rw [namesOf, all]; decide) ended
      exact ⟨wrapping, keyboard, methods, datum, rfl, chaining.congr grows, all,
        held.grows grows, isKeyboard⟩
  | grown _ grows ih =>
      obtain ⟨wrapping, keyboard, methods, datum, rfl, chaining, all, held, isKeyboard⟩ := ih
      exact ⟨wrapping, keyboard, methods, datum, rfl, chaining.congr grows, all,
        held.grows grows, isKeyboard⟩

/-- The data of such a keyboard. -/
theorem IsMarkup.holds (isMarkup : IsMarkup items m value) :
    ∃ datum, Holds m datum value ∧ Carries items datum := by
  obtain ⟨wrapping, keyboard, methods, datum, rfl, chaining, all, held, isKeyboard⟩ :=
    isMarkup.chaining
  have functions : List.Forall₂ (fun field datum => Holds m datum field.2)
      (methods.map fun (name, ref) => (name, Value.object ref))
      (methods.map fun _ => Datum.function) := by
    rw [List.forall₂_map_left_iff, List.forall₂_map_right_iff, List.forall₂_same]
    exact fun entry member => isFunction_of_native (chaining.method entry member)
  exact ⟨_, holds_recordObject chaining.object (.cons held functions), .wrapped isKeyboard⟩

end BotBench.Sandbox
