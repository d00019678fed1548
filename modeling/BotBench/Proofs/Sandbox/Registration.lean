import BotBench.Proofs.Script.TextList
import BotBench.Script.Interpreter

/-! # What the calls of a bot's methods do to the heap

An instance of the bot's class keeps its handlers in a table of its own. A constructed instance has
an empty table (`BotBench.Sandbox.construct_ok`), and a registration that ends well changes this one
table and nothing else (`BotBench.Sandbox.register_ok`, `registerFor_ok` and `registerCommands_ok`):
it puts the handler under the key of each text (`BotBench.Sandbox.Enrols`). -/

namespace BotBench.Sandbox

open Script Script.Run Text Number

variable {inner : Evaluator} {m m' : Machine} {bot table : Ref} {handler : Value}
  {texts : List Utf16} {text name : Utf16} {object : Object}

/-! ## Tables -/

/-- An object with a handler put under the key of each of some texts. -/
def enrolled (handler : Value) (texts : List Utf16) (object : Object) : Object :=
  texts.foldl (fun object text => object.put (Key.ofText text) (.plain handler)) object

theorem enrolled_append (first second : List Utf16) :
    enrolled handler (first ++ second) object =
      enrolled handler second (enrolled handler first object) :=
  List.foldl_append

/-- Putting handlers into an object changes only its properties. -/
theorem enrolled_frame :
    (enrolled handler texts object).kind = object.kind ∧
      (enrolled handler texts object).ancestor = object.ancestor ∧
      (enrolled handler texts object).isExtensible = object.isExtensible := by
  induction texts generalizing object with
  | nil => exact ⟨rfl, rfl, rfl⟩
  | cons text texts ih =>
      obtain ⟨kind, ancestor, isExtensible⟩ := @ih (object.put (Key.ofText text) (.plain handler))
      exact ⟨kind, ancestor, isExtensible⟩

theorem property?_enrolled :
    (enrolled handler texts object).property? (Key.ofText text) =
      if text ∈ texts then some (.plain handler) else object.property? (Key.ofText text) := by
  induction texts generalizing object with
  | nil => simp [enrolled]
  | cons first texts ih =>
      change (enrolled handler texts
        (object.put (Key.ofText first) (.plain handler))).property? _ = _
      rw [ih, Object.property?_put]
      by_cases later : text ∈ texts
      · simp [later]
      · by_cases here : first = text
        · simp [here]
        · have other : ¬ Key.ofText first = Key.ofText text := fun same =>
            here (ofText_injective same)
          simp [later, other, Ne.symm here]

/-- The machine has changed in one table only, by a handler under the keys of some texts. -/
structure Enrols (table : Ref) (handler : Value) (texts : List Utf16) (m m' : Machine) : Prop where
  host : m'.host = m.host
  stored : m'.objects[table.index]? = m.objects[table.index]?.map (enrolled handler texts)
  others : ∀ ref, ref ≠ table → m'.objects[ref.index]? = m.objects[ref.index]?

namespace Enrols

theorem alike (alike : Alike m m') : Enrols table handler [] m m' := by
  refine ⟨alike.host, ?_, fun _ _ => by rw [alike.objects]⟩
  rw [alike.objects]
  exact Option.map_id_apply.symm

theorem trans {m₁ m₂ m₃ : Machine} {first second : List Utf16}
    (one : Enrols table handler first m₁ m₂) (two : Enrols table handler second m₂ m₃) :
    Enrols table handler (first ++ second) m₁ m₃ := by
  refine ⟨two.host.trans one.host, ?_, fun ref other =>
    (two.others ref other).trans (one.others ref other)⟩
  rw [two.stored, one.stored, Option.map_map]
  congr 1
  funext object
  exact (enrolled_append first second).symm

theorem put (objects : m'.objects = m.objects.modify table.index
      (·.put (Key.ofText text) (.plain handler))) (host : m'.host = m.host) :
    Enrols table handler [text] m m' := by
  refine ⟨host, ?_, fun ref other => ?_⟩
  · rw [objects, Array.getElem?_modify, if_pos rfl]
    rfl
  · have apart : table.index ≠ ref.index := fun same => other (congrArg Ref.mk same.symm)
    rw [objects, Array.getElem?_modify, if_neg apart]

/-- The object of each reference after a registration. -/
theorem objectAt (enrols : Enrols table handler texts m m')
    (found : m.objects[table.index]? = some object) (ref : Ref) :
    m'.objectAt ref =
      if ref = table then enrolled handler texts object else m.objectAt ref := by
  split
  next same =>
    refine Machine.objectAt_of_get ?_
    rw [same, enrols.stored, found]
    rfl
  next other => rw [Machine.objectAt, enrols.others ref other, Machine.objectAt]

end Enrols

/-! ## Registering a handler -/

/-- Handlers can be put into a table under the keys of some texts: it is a plain object, and has
under each key a handler or not even anything from its ancestors. -/
structure Receptive (m : Machine) (table : Ref) (texts : List Utf16) : Prop where
  object : ∃ object, m.objects[table.index]? = some object ∧ object.kind = .plain ∧
    object.isExtensible = true
  free : ∀ text ∈ texts,
    (∃ old, (m.objectAt table).property? (Key.ofText text) = some (.plain old)) ∨
      m.Lacks table (Key.ofText text)

theorem own?_plain {key : Key} (isPlain : object.kind = .plain) :
    object.own? key = object.property? key := by
  rw [Object.own?, isPlain]

namespace Receptive

theorem mono {others : List Utf16} (receptive : Receptive m table texts)
    (fewer : ∀ text ∈ others, text ∈ texts) : Receptive m table others :=
  ⟨receptive.object, fun text member => receptive.free text (fewer text member)⟩

theorem alike (receptive : Receptive m table texts) (alike : Alike m m') :
    Receptive m' table texts := by
  have same : ∀ ref, m'.objectAt ref = m.objectAt ref := fun ref => by
    rw [Machine.objectAt, alike.objects, Machine.objectAt]
  refine ⟨by rw [alike.objects]; exact receptive.object, fun text member => ?_⟩
  rcases receptive.free text member with held | lacks
  · exact .inl (by rwa [same])
  · exact .inr (lacks.congr (fun ref => by rw [same]) fun ref => by rw [same])

/-- A table that has received handlers can receive more. -/
theorem enrols {first : List Utf16} (receptive : Receptive m table texts)
    (enrols : Enrols table handler first m m') : Receptive m' table texts := by
  obtain ⟨object, found, isPlain, isExtensible⟩ := receptive.object
  obtain ⟨kind, ancestor, extensible⟩ := @enrolled_frame handler first object
  have here : m'.objectAt table = enrolled handler first object := by
    rw [enrols.objectAt found, if_pos rfl]
  refine ⟨⟨enrolled handler first object, by rw [enrols.stored, found]; rfl,
    kind.trans isPlain, extensible.trans isExtensible⟩, fun text member => ?_⟩
  rw [here, property?_enrolled]
  by_cases put : text ∈ first
  · exact .inl ⟨handler, by rw [if_pos put]⟩
  rw [if_neg put]
  have free := receptive.free text member
  rw [Machine.objectAt_of_get found] at free
  refine free.imp_right fun lacks => ?_
  have own : ∀ ref, (m'.objectAt ref).own? (Key.ofText text) =
      (m.objectAt ref).own? (Key.ofText text) := by
    intro ref
    rw [enrols.objectAt found]
    split
    next same =>
      rw [same, Machine.objectAt_of_get found, own?_plain (kind.trans isPlain),
        own?_plain isPlain, property?_enrolled, if_neg put]
    next => rfl
  refine lacks.congr own fun ref => ?_
  rw [enrols.objectAt found]
  split
  next same => rw [same, Machine.objectAt_of_get found, ancestor]
  next => rfl

end Receptive

/-- What a bot has as its table. -/
def Keeps (m : Machine) (bot table : Ref) : Prop :=
  (m.objectAt bot).own? (Key.ofText "handlers") = some (.plain (.object table))

/-- A bot has one table. -/
theorem Keeps.unique {other : Ref} (keeps : Keeps m bot table) (keeps' : Keeps m bot other) :
    table = other := by
  have same := keeps.symm.trans keeps'
  simpa [Property.plain] using same

theorem Keeps.read (keeps : Keeps m bot table) :
    (read inner (.object bot) "handlers").run m = .ok (.object table) m :=
  read_own keeps

theorem Keeps.alike (keeps : Keeps m bot table) (alike : Alike m m') : Keeps m' bot table := by
  rwa [Keeps, Machine.objectAt, alike.objects]

/-- A bot keeps its table when handlers are put into it. -/
theorem Keeps.enrols (keeps : Keeps m bot table) (apart : bot ≠ table)
    (enrols : Enrols table handler texts m m') : Keeps m' bot table := by
  rwa [Keeps, Machine.objectAt, enrols.others bot apart]

theorem write_ok (receptive : Receptive m table [text])
    (ended : (write inner false (.object table) (Key.ofText text) handler).run m = .ok () m') :
    Enrols table handler [text] m m' := by
  obtain ⟨object, found, isPlain, isExtensible⟩ := receptive.object
  have here := Machine.objectAt_of_get found
  have free := receptive.free text (List.mem_singleton_self text)
  rw [write_plain (by rw [here]; exact isPlain) (by rw [here]; exact isExtensible)] at ended
  · obtain ⟨objects, host⟩ := putProperty_ok ended
    exact .put objects host
  · rw [here] at free ⊢
    rwa [own?_plain isPlain]

/-- A registration under a key puts the handler into the table of the bot. -/
theorem register_ok (keeps : Keeps m bot table) (receptive : Receptive m table [text])
    (ended : (register inner (.object bot) (Key.ofText text) handler).run m = .ok () m') :
    Enrols table handler [text] m m' := by
  rw [register, bind_of_ok keeps.read] at ended
  exact write_ok receptive ended

theorem add_texts_ok {first : Utf16} {sum : Value}
    (ended : (add inner (.text first) (.text name)).run m = .ok sum m') :
    sum = .text (first ++ name) ∧ Alike m m' := by
  have plain : ∀ t, (toPlain inner .none (.text t)).run m = .ok (.text t) m := fun _ => rfl
  have named : (textOfPlain (.text name)).run m = .ok name m := rfl
  rw [add, bind_of_ok (plain first), bind_of_ok (plain name)] at ended
  simp only [bind_of_ok named] at ended
  obtain ⟨checked, between, joined, ended⟩ := bind_ok ended
  obtain ⟨rfl, alike⟩ := checkText_ok joined
  cases ended
  exact ⟨rfl, alike⟩

/-- A registration for a mark and a name puts the handler under the key of the two together. -/
theorem registerFor_ok {mark : String} (keeps : Keeps m bot table)
    (receptive : Receptive m table [(mark : Utf16) ++ name])
    (ended : (registerFor inner (.object bot) mark (.text name) handler).run m = .ok () m') :
    Enrols table handler [(mark : Utf16) ++ name] m m' := by
  rw [registerFor, bind_of_ok keeps.read] at ended
  obtain ⟨sum, m₁, added, ended⟩ := bind_ok ended
  obtain ⟨rfl, alike⟩ := add_texts_ok added
  have key : (toKey inner (.text ((mark : Utf16) ++ name))).run m₁ =
      .ok (Key.ofText ((mark : Utf16) ++ name)) m₁ := rfl
  rw [bind_of_ok key] at ended
  exact (Enrols.alike alike).trans (write_ok (receptive.alike alike) ended)

/-! ## Registering a handler for a list of commands -/

/-- A list of names. No list has more than `placeBound` items. -/
structure Lists (m : Machine) (list : Ref) (names : List Utf16) : Prop where
  held : TextList m list names
  bounded : names.length ≤ placeBound

variable {list : Ref} {names : List Utf16}

namespace Lists

theorem lengthProperty_run (lists : Lists m list names) :
    (lengthProperty inner (.object list)).run m = .ok names.length m := by
  have small : names.length < twoTo 53 := lt_of_le_of_lt lists.bounded (by decide)
  rw [lists.held.lengthProperty_run, seenLength_of_lt small]

theorem alike (lists : Lists m list names) (alike : Alike m m') : Lists m' list names :=
  ⟨lists.held.congr (by rw [alike.objects]), lists.bounded⟩

/-- A list is no table, so that registrations leave it as it is. -/
theorem enrols (lists : Lists m list names) (receptive : Receptive m table texts)
    {put : List Utf16} (enrols : Enrols table handler put m m') : Lists m' list names := by
  obtain ⟨object, stored, isPlain, -⟩ := receptive.object
  refine ⟨lists.held.congr (enrols.others list ?_), lists.bounded⟩
  rintro rfl
  have isArray := lists.held.kind
  rw [Machine.objectAt_of_get stored, isPlain] at isArray
  cases isArray

end Lists

/-- The texts under which a handler is registered for commands. -/
def commandTexts (names : List Utf16) : List Utf16 := names.map fun name => ("/" : Utf16) ++ name

/-- One round of going through the names of a list. -/
def registerNext (inner : Evaluator) (bot list handler : Value) (place : Nat) :
    Run (Nat ⊕ Unit) := do
  if (← lengthProperty inner list) ≤ place then return .inr ()
  registerFor inner bot "/" (← read inner list (.index place)) handler
  return .inl (place + 1)

/-- A round either finds no name any more or registers the handler for one. -/
theorem registerNext_ok {place : Nat} {next : Nat ⊕ Unit} (keeps : Keeps m bot table)
    (receptive : Receptive m table (commandTexts names)) (lists : Lists m list names)
    (ended : (registerNext inner (.object bot) (.object list) handler place).run m = .ok next m') :
    (next = .inr () ∧ names.length ≤ place ∧ m' = m) ∨
      ∃ name, names[place]? = some name ∧ next = .inl (place + 1) ∧
        Enrols table handler [("/" : Utf16) ++ name] m m' := by
  rw [registerNext, bind_of_ok lists.lengthProperty_run] at ended
  by_cases beyond : names.length ≤ place
  · rw [if_pos beyond] at ended
    cases ended
    exact .inl ⟨rfl, beyond, rfl⟩
  have there : names[place]? = some names[place] := List.getElem?_eq_getElem (by omega)
  rw [if_neg beyond, bind_of_ok (lists.held.read_run there)] at ended
  obtain ⟨_, between, registered, ended⟩ := bind_ok ended
  cases ended
  have one : Receptive m table [("/" : Utf16) ++ names[place]] :=
    receptive.mono fun text member => by
      rw [List.mem_singleton.mp member]
      exact List.mem_map_of_mem (List.getElem_mem _)
  exact .inr ⟨names[place], there, rfl, registerFor_ok keeps one registered⟩

/-- Going through the names from a place on registers the handler for each of them. The induction is
on the rounds that are left; what is still to be registered is what stands behind the place. -/
theorem registerNames_ok {rounds place : Nat} (keeps : Keeps m bot table) (apart : bot ≠ table)
    (receptive : Receptive m table (commandTexts names)) (lists : Lists m list names)
    (ended : (iterate (fun place => do
      tick
      registerNext inner (.object bot) (.object list) handler place) rounds place).run m =
        .ok () m') :
    Enrols table handler (commandTexts (names.drop place)) m m' := by
  induction rounds generalizing m place with
  | zero => exact absurd ended throw_ne_ok
  | succ rounds ih =>
      obtain ⟨next, m₂, round, ended⟩ := bind_ok ended
      obtain ⟨_, m₁, ticked, round⟩ := bind_ok round
      have alike := Alike.spend ticked
      rcases registerNext_ok (keeps.alike alike) (receptive.alike alike) (lists.alike alike) round
        with ⟨rfl, beyond, rfl⟩ | ⟨name, there, rfl, enrols⟩
      · cases ended
        rw [List.drop_eq_nil_of_le beyond]
        exact .alike alike
      · have first := (Enrols.alike alike).trans enrols
        have rest := ih (keeps.enrols apart first) (receptive.enrols first)
          (lists.enrols receptive first) ended
        obtain ⟨inside, rfl⟩ := List.getElem?_eq_some_iff.mp there
        rw [List.drop_eq_getElem_cons inside]
        exact first.trans rest

/-- A registration for commands puts the handler under the key of the name, or of each name. -/
theorem registerCommands_text_ok (keeps : Keeps m bot table)
    (receptive : Receptive m table [("/" : Utf16) ++ name])
    (ended : (registerCommands inner (.object bot) (.text name) handler).run m = .ok () m') :
    Enrols table handler [("/" : Utf16) ++ name] m m' :=
  registerFor_ok keeps receptive ended

theorem registerCommands_list_ok (keeps : Keeps m bot table) (apart : bot ≠ table)
    (receptive : Receptive m table (commandTexts names)) (lists : Lists m list names)
    (ended : (registerCommands inner (.object bot) (.object list) handler).run m = .ok () m') :
    Enrols table handler (commandTexts names) m m' := by
  rw [registerCommands, bind_of_ok lists.held.isArray_run, if_pos rfl] at ended
  exact registerNames_ok keeps apart receptive lists ended

/-! ## Constructing an instance -/

/-- A new instance: it has a table and nothing else. -/
def newcomer (ancestor table : Ref) : Object :=
  ({ ancestor := some ancestor } : Object).put (Key.ofText "handlers") (.plain (.object table))

/-- An empty table. -/
def emptyTable : Object := { ancestor := some Intrinsic.objectAncestor.ref }

theorem emptyRecord_ok {made : Value} (ended : (record []).run m = .ok made m') :
    made = .object ⟨m.objects.size⟩ ∧ m' = withObject emptyTable m := by
  obtain ⟨ref, between, allocated, ended⟩ := bind_ok ended
  obtain ⟨rfl, rfl⟩ := allocate_ok allocated
  cases ended
  exact ⟨rfl, rfl⟩

theorem modify_push_push {objects : Array Object} (first second : Object)
    (change : Object → Object) :
    ((objects.push first).push second).modify objects.size change =
      (objects.push (change first)).push second := by
  apply Array.ext_getElem?
  intro place
  simp only [Array.getElem?_modify, Array.getElem?_push, Array.size_push]
  grind

/-- A new object that still lacks a table can be given one: nothing from above is in the way. -/
theorem lacks_newcomer {ancestor : Ref} {key : Key} (lacks : m.Lacks ancestor key)
    (above : m.Lacks Intrinsic.objectAncestor.ref key) :
    (withObject emptyTable (withObject { ancestor := some ancestor } m)).Lacks
      ⟨m.objects.size⟩ key := by
  have empty : m.objectAt ⟨m.objects.size⟩ = default := Machine.objectAt_dangling le_rfl
  have bare : m.Lacks ⟨m.objects.size⟩ key :=
    .of_own (by rw [empty]; rfl) fun ancestor inherited => by
      rw [empty] at inherited
      cases inherited
  have first : ∀ {ref}, m.Lacks ref key →
      (withObject { ancestor := some ancestor } m).Lacks ref key := fun lacking =>
    lacking.push rfl rfl fun other inherited => by
      cases inherited
      exact lacks
  refine (first bare).push rfl rfl fun other inherited => ?_
  cases inherited
  exact first above

/-- One machine has one instance more than another, with an empty table, and its host knows it. -/
structure Constructs (ancestor : Ref) (m m' : Machine) : Prop where
  host : m'.host = { m.host with bot := some ⟨m.objects.size⟩ }
  objects : m'.objects =
    (m.objects.push (newcomer ancestor ⟨m.objects.size + 1⟩)).push emptyTable

namespace Constructs

variable {ancestor : Ref}

theorem getElem?_bot (constructs : Constructs ancestor m m') :
    m'.objects[m.objects.size]? = some (newcomer ancestor ⟨m.objects.size + 1⟩) := by
  rw [constructs.objects, Array.getElem?_push, if_neg (by simp), Array.getElem?_push, if_pos rfl]

theorem getElem?_table (constructs : Constructs ancestor m m') :
    m'.objects[m.objects.size + 1]? = some emptyTable := by
  rw [constructs.objects, Array.getElem?_push, if_pos (by simp)]

/-- The objects that were there before are still the same. -/
theorem getElem?_old (constructs : Constructs ancestor m m') {ref : Ref}
    (inside : ref.index < m.objects.size) :
    m'.objects[ref.index]? = m.objects[ref.index]? := by
  rw [constructs.objects, Array.getElem?_push, if_neg (by simp; omega), Array.getElem?_push,
    if_neg (by omega)]

end Constructs

/-- Constructing makes an instance and an empty table, and tells the host of the instance. -/
theorem construct_ok {ancestor : Ref} {given : List Value} {newTarget made : Value}
    (inherits : (ancestorFor inner newTarget .objectAncestor).run m = .ok ancestor m)
    (lacks : m.Lacks ancestor (Key.ofText "handlers"))
    (above : m.Lacks Intrinsic.objectAncestor.ref (Key.ofText "handlers"))
    (ended : (constructNative inner (.host .construct) given newTarget).run m = .ok made m') :
    made = .object ⟨m.objects.size⟩ ∧ Constructs ancestor m m' := by
  change (ancestorFor inner newTarget .objectAncestor >>= fun ancestor =>
    allocate { ancestor := some ancestor } >>= fun ref =>
    callHost inner .construct (.object ref) given >>= fun result =>
    pure (if result.isObject then result else .object ref)).run m = _ at ended
  rw [bind_of_ok inherits] at ended
  obtain ⟨bot, m₁, allocated, ended⟩ := bind_ok ended
  obtain ⟨rfl, rfl⟩ := allocate_ok allocated
  obtain ⟨result, m₄, called, ended⟩ := bind_ok ended
  change (record [] >>= fun table =>
    write inner false (.object ⟨m.objects.size⟩) "handlers" table >>= fun _ =>
    modifyHost (fun host => { host with bot := some ⟨m.objects.size⟩ }) >>= fun _ =>
    pure Value.undefined).run _ = _ at called
  obtain ⟨table, m₂, recorded, called⟩ := bind_ok called
  obtain ⟨rfl, rfl⟩ := emptyRecord_ok recorded
  obtain ⟨_, m₃, written, called⟩ := bind_ok called
  have object : (withObject emptyTable (withObject { ancestor := some ancestor } m)).objectAt
      ⟨m.objects.size⟩ = { ancestor := some ancestor } := by
    refine Machine.objectAt_of_get ?_
    change ((m.objects.push _).push _)[m.objects.size]? = _
    rw [Array.getElem?_push, if_neg (by simp), Array.getElem?_push, if_pos rfl]
  rw [write_plain (by rw [object]) (by rw [object]) (.inr (lacks_newcomer lacks above))] at written
  obtain ⟨objects, host⟩ := putProperty_ok written
  cases called
  cases ended
  refine ⟨rfl, ⟨?_, ?_⟩⟩
  · change { m₃.host with bot := some ⟨m.objects.size⟩ } = _
    rw [host]
    rfl
  · change m₃.objects = _
    rw [objects]
    refine (modify_push_push _ _ _).trans ?_
    change (m.objects.push (newcomer ancestor ⟨(m.objects.push _).size⟩)).push emptyTable = _
    rw [Array.size_push]

end BotBench.Sandbox
