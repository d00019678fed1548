import BotBench.Proofs.Sandbox.Markup
import BotBench.Proofs.Sandbox.Pristine
import BotBench.Proofs.Sandbox.Resolution

/-! # Testing a machine

Whether a machine holds some data, and whether the harness and its module can rely on what objects
and lists inherit, can be tested (`BotBench.Sandbox.holds_of_holds?`,
`BotBench.Sandbox.settled_of_isSettled` and `BotBench.Sandbox.offers_of_canOffer`). The tests are
made of the machines in which a script and its handlers end. -/

namespace BotBench.Sandbox

open Script Script.Run Text Number

/-! ## Data -/

mutual

/-- Whether a value of a machine is some data without numbers. -/
def holds? (m : Machine) : Datum → Value → Bool
  | .undefined, .undefined | .null, .null => true
  | .bool b, .bool other => b == other
  | .text t, .text other => t == other
  | .function, value => m.isFunction value
  | .list items, .object ref =>
      match m.objects[ref.index]? with
      | some ⟨.array, some ancestor, [], values, _⟩ =>
          ancestor == Intrinsic.arrayAncestor.ref && values.size ≤ placeBound &&
            holdsItems? m items values.toList
      | _ => false
  | .record fields, .object ref =>
      match m.objects[ref.index]? with
      | some ⟨.plain, some ancestor, properties, _, _⟩ =>
          ancestor == Intrinsic.objectAncestor.ref && holdsFields? m fields properties
      | _ => false
  | _, _ => false

/-- Whether the items of a list are some data. -/
def holdsItems? (m : Machine) : List Datum → List (Option Value) → Bool
  | [], [] => true
  | datum :: data, item :: items =>
      holds? m datum (item.getD .undefined) && holdsItems? m data items
  | _, _ => false

/-- Whether the properties of an object are some fields. -/
def holdsFields? (m : Machine) : List (Utf16 × Datum) → List (Key × Property) → Bool
  | [], [] => true
  | (name, datum) :: fields, (key, ⟨.data value _, _, _⟩) :: properties =>
      key == Key.ofText name && holds? m datum value && holdsFields? m fields properties
  | _, _ => false

end

variable {m : Machine}

mutual

/-- What passes the test is the data. -/
theorem holds_of_holds? : ∀ {datum : Datum} {value : Value}, holds? m datum value = true →
    Holds m datum value
  | .undefined, value, passes | .null, value, passes => by
      cases value <;> first | rfl | cases passes
  | .bool b, value, passes | .text t, value, passes => by
      cases value <;> first | cases passes | rw [Holds, beq_iff_eq.mp passes]
  | .number x, value, passes => by cases value <;> cases passes
  | .function, value, passes => passes
  | .list items, value, passes => by
      cases value
      case object ref =>
        rw [holds?] at passes
        split at passes
        next ancestor values isExtensible found =>
          simp only [Bool.and_eq_true, beq_iff_eq, decide_eq_true_eq] at passes
          obtain ⟨⟨rfl, bounded⟩, items⟩ := passes
          exact ⟨ref, _, rfl, found, rfl, rfl, rfl, bounded, holdsItems_of_holdsItems? items⟩
        next => cases passes
      all_goals cases passes
  | .record fields, value, passes => by
      cases value
      case object ref =>
        rw [holds?] at passes
        split at passes
        next ancestor properties items isExtensible found =>
          simp only [Bool.and_eq_true, beq_iff_eq] at passes
          obtain ⟨rfl, fields⟩ := passes
          exact ⟨ref, _, rfl, found, rfl, rfl, holdsFields_of_holdsFields? fields⟩
        next => cases passes
      all_goals cases passes

theorem holdsItems_of_holdsItems? : ∀ {data : List Datum} {items : List (Option Value)},
    holdsItems? m data items = true → HoldsItems m data items
  | [], [], _ => rfl
  | [], _ :: _, passes | _ :: _, [], passes => nomatch passes
  | _ :: _, item :: items, passes => by
      rw [holdsItems?, Bool.and_eq_true] at passes
      exact ⟨item, items, rfl, holds_of_holds? passes.1, holdsItems_of_holdsItems? passes.2⟩

theorem holdsFields_of_holdsFields? : ∀ {fields : List (Utf16 × Datum)}
    {properties : List (Key × Property)}, holdsFields? m fields properties = true →
      HoldsFields m fields properties
  | [], [], _ => rfl
  | [], _ :: _, passes | _ :: _, [], passes
  | _ :: _, (_, ⟨.accessor _ _, _, _⟩) :: _, passes => nomatch passes
  | (name, _) :: _, (key, ⟨.data value isWritable, isEnumerable, isConfigurable⟩) :: properties,
      passes => by
      simp only [holdsFields?, Bool.and_eq_true, beq_iff_eq] at passes
      obtain ⟨⟨rfl, here⟩, later⟩ := passes
      exact ⟨value, isWritable, isEnumerable, isConfigurable, properties, rfl,
        holds_of_holds? here, holdsFields_of_holdsFields? later⟩

end

/-! ## What objects and lists inherit -/

variable {names : List String} {name : String} {key : Key} {object : Object}

/-- Whether a key is neither a place nor one of some names. -/
def isSpare (names : List String) : Key → Bool
  | .index _ => false
  | .name (.whole name) => !names.contains name
  | _ => true

/-- Whether what all objects and all lists inherit is spare. -/
def isBare (names : List String) (m : Machine) : Bool :=
  match m.objectAt Intrinsic.objectAncestor.ref, m.objectAt Intrinsic.arrayAncestor.ref with
  | ⟨.plain, none, properties, _, _⟩, ⟨.array, some ancestor, others, items, _⟩ =>
      ancestor == Intrinsic.objectAncestor.ref && items.isEmpty &&
        properties.all (isSpare names ·.1) && others.all (isSpare names ·.1)
  | _, _ => false

/-- A place, or one of some names. -/
def IsAsked (names : List String) (key : Key) : Prop :=
  (∃ place, key = .index place) ∨ ∃ name ∈ names, key = Key.ofText (.whole name)

theorem property?_none (spare : object.properties.all (isSpare names ·.1) = true)
    (asked : IsAsked names key) :
    object.property? key = none := by
  rw [Object.property?, Option.map_eq_none_iff, List.find?_eq_none]
  intro entry member same
  have passes := List.all_eq_true.mp spare entry member
  rw [beq_iff_eq.mp same] at passes
  rcases asked with ⟨place, rfl⟩ | ⟨name, asked, rfl⟩
  · cases passes
  · rw [Key.ofText] at passes
    split at passes
    · cases passes
    · simp [isSpare, asked] at passes

theorem listProperty?_empty {isOpen : Bool} (other : key ≠ Key.ofText "length") :
    listProperty? #[] isOpen key = none := by
  cases key with
  | index place => rfl
  | name word | symbol s => rw [listProperty?, if_neg other]; simp

theorem IsAsked.ne_length (asked : IsAsked names key) (notLength : "length" ∉ names) :
    key ≠ Key.ofText "length" := by
  rcases asked with ⟨place, rfl⟩ | ⟨name, asked, rfl⟩
  · exact fun same => nomatch (show Key.index place = .name "length" from same)
  · exact fun same => notLength (Utf16.whole.inj (ofText_injective same) ▸ asked)

/-- What passes the test has none of the names. -/
theorem bare_of_isBare (notLength : "length" ∉ names) (passes : isBare names m = true) :
    Bare names m := by
  rw [isBare] at passes
  split at passes
  next properties _ _ ancestor others items _ objects lists =>
    simp only [Bool.and_eq_true, beq_iff_eq] at passes
    obtain ⟨⟨⟨rfl, empty⟩, spare⟩, spare'⟩ := passes
    obtain rfl := Array.isEmpty_iff.mp empty
    have top : ∀ key, IsAsked names key → m.Lacks Intrinsic.objectAncestor.ref key := by
      refine fun key asked => .of_own ?_ fun ancestor inherited => ?_
      · rw [objects]
        exact property?_none spare asked
      · rw [objects] at inherited
        cases inherited
    have below : ∀ key, IsAsked names key → m.Lacks Intrinsic.arrayAncestor.ref key := by
      refine fun key asked => .of_own ?_ fun ancestor inherited => ?_
      · rw [lists, Object.own?]
        simp only [listProperty?_empty (asked.ne_length notLength)]
        exact property?_none spare' asked
      · rw [lists] at inherited
        cases inherited
        exact top key asked
    exact ⟨fun name member => top _ (.inr ⟨name, member, rfl⟩),
      fun name member => below _ (.inr ⟨name, member, rfl⟩),
      fun place => below _ (.inl ⟨place, rfl⟩)⟩
  next => cases passes

/-! ## What the harness and its module rely on -/

variable {ref value : Ref}

/-- The object that a property of an object itself holds. -/
def valueAt? (m : Machine) (ref : Ref) (key : Key) : Option Ref :=
  match (m.objectAt ref).own? key with
  | some ⟨.data (.object value) _, _, _⟩ => some value
  | _ => none

/-- Whether an object is a function that is there from the start. -/
def isNative (m : Machine) (ref : Ref) (f : Native) : Bool :=
  match (m.objectAt ref).kind with
  | .function (.native g) => g == f
  | _ => false

theorem hasValue_of_valueAt? (found : valueAt? m ref key = some value) :
    m.HasValue ref key (.object value) := by
  rw [valueAt?] at found
  split at found
  next held isWritable isEnumerable isConfigurable own =>
    cases found
    exact ⟨isWritable, isEnumerable, isConfigurable, own⟩
  next => cases found

theorem kind_of_isNative {f : Native} (passes : isNative m ref f = true) :
    (m.objectAt ref).kind = .function (.native f) := by
  rw [isNative] at passes
  split at passes
  next isKind => rw [isKind, beq_iff_eq.mp passes]
  next => cases passes

/-- Whether promises can be made, and nothing is mistaken for a keyboard. -/
def isSettled (m : Machine) : Bool :=
  isBare keyboardNames m &&
    match valueAt? m Intrinsic.global.ref (Key.ofText "Promise") with
    | some promise =>
        match valueAt? m promise (Key.ofText "resolve") with
        | some resolve => isNative m resolve (.other .promiseResolve)
        | none => false
    | none => false

theorem settled_of_isSettled (passes : isSettled m = true) : Settled m := by
  rw [isSettled, Bool.and_eq_true] at passes
  refine ⟨bare_of_isBare (by decide) passes.1, ?_⟩
  have promise := passes.2
  split at promise
  next promise named =>
    split at promise
    next resolve method =>
      exact ⟨_, resolve, hasValue_of_valueAt? named, hasValue_of_valueAt? method,
        kind_of_isNative promise⟩
    next => cases promise
  next => cases promise

variable {m' : Machine}

/-- A call of the console with plain data, or a reply with some arguments that are data. -/
inductive Act
  | print (line : List Datum)
  | reply (text extra : Datum) (arguments : List Value)

/-- What a call makes the host keep. -/
def Act.event : Act → Event
  | .print line => .printed (.join " " (line.map Datum.shown))
  | .reply text extra _ => .replied text extra

instance : DecidablePred IsWorded := fun _ => inferInstanceAs (Decidable (_ ∧ _))

instance : DecidablePred AreWorded := fun _ => List.decidableBAll _ _

/-- The machine behind a call, if it is one and returns. -/
def Act.run? (m : Machine) : Act → Option Machine
  | .print line =>
      match (callNative .exhausted (.host .print) .undefined (line.map Datum.plainValue)).run m with
      | .ok _ m' => if line.all Datum.isPlain then some m' else none
      | _ => none
  | .reply text extra arguments =>
      match (callNative (.ofDepth 1) (.host .reply) .undefined arguments).run m with
      | .ok _ m' =>
          if isSettled m && text.isPlain && decide (AreWorded (keyboardOf extra).items) &&
            holds? m text (argument arguments 0) && holds? m extra (argument arguments 1)
          then some m' else none
      | _ => none

theorem mapM_describedText_run {inner : Evaluator} {line : List Datum}
    (plain : line.all Datum.isPlain = true) :
    ((line.map Datum.plainValue).mapM (describedText inner)).run m =
      .ok (line.map Datum.shown) m := by
  have related : List.Forall₂ (fun datum value => datum.plainValue = value) line
      (line.map Datum.plainValue) :=
    List.forall₂_map_right_iff.mpr (List.forall₂_same.mpr fun _ _ => rfl)
  refine mapM_forall₂ related fun datum member value same => ?_
  have isPlain := List.all_eq_true.mp plain datum member
  have held : Holds m datum value := by
    subst same
    cases datum <;> first | rfl | cases isPlain
  exact held.describedText_run isPlain

theorem Act.performs {act : Act} (ran : act.run? m = some m') : Performs m [act.event] m' := by
  cases act with
  | print line =>
      rw [Act.run?] at ran
      split at ran
      next value last printed =>
        split at ran
        next plain =>
          cases ran
          exact .print .begin (mapM_describedText_run plain) ⟨rfl, rfl⟩ printed
        next => cases ran
      next => cases ran
  | reply text extra arguments =>
      rw [Act.run?] at ran
      split at ran
      next value last replied =>
        split at ran
        next passes =>
          cases ran
          simp only [Bool.and_eq_true, decide_eq_true_eq] at passes
          obtain ⟨⟨⟨⟨settled, plain⟩, worded⟩, holdsText⟩, holdsExtra⟩ := passes
          exact .reply .begin ⟨settled_of_isSettled settled, plain, worded,
            holds_of_holds? holdsText, holds_of_holds? holdsExtra⟩ replied
        next => cases ran
      next => cases ran

/-- Whether two hosts have the same lines and replies. -/
def isAside (m m' : Machine) : Bool :=
  m'.host.lines == m.host.lines && m'.host.reply == m.host.reply

/-- What some chained calls on a keyboard give, and the machine behind them. -/
def chain : List String → Value → Machine → Option (Value × Machine)
  | [], keyboard, m => some (keyboard, m)
  | name :: names, keyboard, m =>
      match (invoke (.ofDepth 1) keyboard (Key.ofText (.whole name)) []).run m with
      | .ok keyboard m' => if name ∈ chainedNames then chain names keyboard m' else none
      | _ => none

/-- Whether the handler of a bot for a command returns, in a machine that passes a test with the one
in which it was called. -/
def answers (command : String) (test : Machine → Machine → Bool) (m₁ : Machine) : Bool :=
  match m₁.host.bot with
  | none => false
  | some bot =>
      match (findHandler .standard (.object bot) command).run m₁ with
      | .ok (key, handler) m₂ =>
          key == command && isAside m₁ m₂ && m₂.isFunction handler &&
            match (makeContext command).run m₂ with
            | .ok context m₃ =>
                match (Evaluator.standard.call handler .undefined [context]).run m₃ with
                | .ok _ m => test m₃ m
                | _ => false
            | _ => false
      | _ => false

end BotBench.Sandbox
