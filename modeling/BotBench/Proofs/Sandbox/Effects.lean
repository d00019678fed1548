import BotBench.Proofs.Sandbox.Drafting
import BotBench.Proofs.Sandbox.Gifts
import BotBench.Proofs.Sandbox.Keyboard
import BotBench.Proofs.Script.Calling

/-! # What a script makes the host keep

A script writes lines to the console and replies, and between these calls it does what it likes. The
host keeps every line, in the order of the calls, and of the replies the first one alone
(`BotBench.Sandbox.Performs.host`). -/

namespace BotBench.Script

open Text Run

variable {m m' : Machine} {given result : Value} {arguments : List Value}

namespace KeepsHost

theorem promiseOf (value : Value) : KeepsHost (Script.promiseOf value) := by
  have promise : KeepsHost (isPromise value) := by
    cases value
    case object ref =>
      refine .bind (.object ref) fun object => ?_
      split
      · exact .pure _
      · exact .pure _
    all_goals exact .pure _
  exact .bind promise fun _ => .ite (.pure _) (.bind (.allocate _) fun _ => .pure _)

/-- A call of the way to make promises is no business of the host. -/
theorem call_resolve {depth : Nat} {resolve : Ref}
    (isResolve : (m.objectAt resolve).kind = .function (.native (.other .promiseResolve)))
    (ended : ((Evaluator.ofDepth depth).call (.object resolve) given arguments).run m =
      .ok result m') : m'.host = m.host := by
  obtain ⟨depth, ended⟩ := call_native isResolve ended
  obtain ⟨_, between, ticked, ended⟩ := bind_ok ended
  exact ((promiseOf _).host_eq ended).trans (Alike.spend ticked).host

end KeepsHost

end BotBench.Script

namespace BotBench.Sandbox

open Script Script.Run Text

/-! ## Events -/

/-- A line that is written to the console, or a reply with a text and with what is handed to it
besides. -/
inductive Event
  | printed (line : Utf16)
  | replied (text extra : Datum)

/-- The text of a reply: nothing, if none is given. -/
def replyText (text : Datum) : Utf16 := if text.isUndefined then "" else text.shown

/-- The draft of a reply with a text and what is handed to it besides. -/
def draftOf (text extra : Datum) : Draft := { text := replyText text, rows := extraRows extra }

/-- A host that has kept an event: a line behind the lines before it, a reply if it is the first. -/
def Host.note (host : Host) : Event → Host
  | .printed line => { host with lines := host.lines.push line }
  | .replied text extra => { host with reply := host.reply.or (some (draftOf text extra)) }

/-- The lines that are written, in order. -/
def printedLines (events : List Event) : List Utf16 :=
  events.filterMap fun
    | .printed line => some line
    | .replied .. => none

/-- The reply that is made first. -/
def firstDraft? (events : List Event) : Option Draft :=
  events.findSome? fun
    | .printed _ => none
    | .replied text extra => some (draftOf text extra)

variable {inner : Evaluator} {m m' m₀ m₁ m₂ : Machine} {event : Event} {events later : List Event}
  {given result value : Value} {arguments : List Value} {text extra : Datum} {depth : Nat}

theorem printedLines_append :
    printedLines (events ++ later) = printedLines events ++ printedLines later :=
  List.filterMap_append

theorem firstDraft?_append :
    firstDraft? (events ++ later) = (firstDraft? events).or (firstDraft? later) :=
  List.findSome?_append

/-! ## Writing a line -/

/-- A line is kept when its arguments have become texts. -/
theorem print_ok {texts : List Utf16} {between : Machine}
    (shown : (arguments.mapM (describedText inner)).run (after 1 m) = .ok texts between)
    (ended : (callNative inner (.host .print) given arguments).run m = .ok result m') :
    m'.host = between.host.note (.printed (.join " " texts)) := by
  obtain ⟨_, printed, line, ended⟩ := bind_ok (callNative_host ended)
  cases ended
  rw [print, bind_of_ok shown] at line
  obtain ⟨text, checked, fits, line⟩ := bind_ok line
  obtain ⟨rfl, alike⟩ := checkText_ok fits
  cases line
  rw [← alike.host]
  rfl

/-! ## Replying -/

/-- The global object has the library's way to make promises. -/
def HasPromise (m : Machine) : Prop :=
  ∃ promise resolve : Ref,
    m.HasValue Intrinsic.global.ref (Key.ofText "Promise") (.object promise) ∧
    m.HasValue promise (Key.ofText "resolve") (.object resolve) ∧
    (m.objectAt resolve).kind = .function (.native (.other .promiseResolve))

/-- A name of the global object stands for its value. -/
theorem globalValue_run {name : String}
    (has : m.HasValue Intrinsic.global.ref (Key.ofText (.whole name)) value) :
    (globalValue inner name).run m = .ok value m := by
  obtain ⟨_, _, _, own⟩ := has
  have named : (valueOfName? inner {} name).run m = .ok (some value) m := by
    change (property? Intrinsic.global.ref (Key.ofText (.whole name)) >>= _).run m = _
    rw [bind_of_ok property?_run, Machine.found?_of_own own]
    rfl
  rw [globalValue, valueOfName, bind_of_ok named]
  rfl

/-- What a reply gives: a promise of its text. -/
def replyPromise (inner : Evaluator) (text : Value) : Run Value := do
  let promise ← globalValue inner "Promise"
  invoke inner promise "resolve" [← record [("text", text)]]

/-- Making the promise is no business of the host. -/
theorem replyPromise_ok (has : HasPromise m)
    (ended : (replyPromise (.ofDepth depth) value).run m = .ok result m') :
    m'.host = m.host := by
  obtain ⟨promise, resolve, named, method, isResolve⟩ := has
  rw [replyPromise, bind_of_ok (globalValue_run named)] at ended
  obtain ⟨_, between, recorded, ended⟩ := bind_ok ended
  obtain ⟨text, rfl, adds⟩ := Adds.record recorded
  obtain ⟨_, _, _, method⟩ := method.grows adds.grows
  have isResolve := adds.grows.kind isResolve
  rw [invoke, bind_of_ok (read_own method), callValue, bind_of_ok isCallable_run,
    if_pos (isFunction_of_native isResolve)] at ended
  rw [KeepsHost.call_resolve isResolve ended, adds.host]

/-- What the harness relies on when a reply is made: what objects and lists inherit has none of the
names that are looked for, and promises can be made. -/
structure Settled (m : Machine) : Prop where
  bare : Bare keyboardNames m
  promise : HasPromise m

/-- The text of a reply is plain, and so are the texts and the payloads of the keyboard that is
handed to it. -/
structure CanReply (m : Machine) (text extra : Datum) (arguments : List Value) : Prop where
  settled : Settled m
  isPlain : text.isPlain = true
  worded : AreWorded (keyboardOf extra).items
  holdsText : Holds m text (argument arguments 0)
  holdsExtra : Holds m extra (argument arguments 1)

theorem CanReply.after (canReply : CanReply m text extra arguments) (count : Nat) :
    CanReply (Run.after count m) text extra arguments := by
  have grows := Grows.after count m
  exact ⟨⟨canReply.settled.bare.of_eq rfl, canReply.settled.promise⟩, canReply.isPlain,
    canReply.worded, canReply.holdsText.grows grows, canReply.holdsExtra.grows grows⟩

/-- The first reply is kept. -/
theorem reply_first (canReply : CanReply m text extra arguments) (first : m.host.reply = none) :
    (reply inner (argument arguments 0) (argument arguments 1)).run m =
      (replyPromise inner (argument arguments 0)).run
        { m with host := m.host.note (.replied text extra) } := by
  have rows := @rowsOf_run inner _ _ _ canReply.holdsExtra canReply.settled.bare canReply.worded
  rw [reply, get_bind_run, first]
  simp only [Option.isNone_none, if_true, canReply.holdsText.isUndefined]
  rw [Host.note, first, draftOf, replyText]
  cases text.isUndefined
  · simp only [Bool.false_eq_true, if_false,
      bind_of_ok (canReply.holdsText.describedText_run canReply.isPlain), bind_of_ok rows]
    rfl
  · simp only [if_true, pure_bind, bind_of_ok rows]
    rfl

/-- A reply is kept if it is the first. -/
theorem reply_ok (canReply : CanReply m text extra arguments)
    (ended : (callNative (.ofDepth depth) (.host .reply) given arguments).run m = .ok result m') :
    m'.host = m.host.note (.replied text extra) := by
  have promise := canReply.settled.promise
  replace canReply := canReply.after 1
  replace ended := callNative_host ended
  change (reply (.ofDepth depth) (argument arguments 0) (argument arguments 1)).run (after 1 m) =
    _ at ended
  cases first : m.host.reply with
  | none =>
      rw [reply_first canReply first] at ended
      exact replyPromise_ok (by exact promise) ended
  | some draft =>
      have later : (replyPromise (.ofDepth depth) (argument arguments 0)).run (after 1 m) =
          .ok result m' := by
        rw [reply, get_bind_run, show (after 1 m).host.reply = some draft from first] at ended
        exact ended
      rw [replyPromise_ok (by exact promise) later, Host.note, first]
      change m.host = _
      rw [Option.some_or, ← first]

/-! ## The rows of a reply -/

theorem exists_keyboard (held : Holds m extra value) :
    ∃ found, Holds m (keyboardOf extra) found := by
  have holder : ∃ found, Holds m (holderOf extra) found := by
    rw [holderOf]
    split
    · exact held.exists_field _
    · exact ⟨value, held⟩
  obtain ⟨found, held⟩ := holder
  rw [keyboardOf]
  split
  · exact held.exists_field _
  · exact held.exists_field _

/-- The rows of a reply are no longer than the lists of which they are made. -/
theorem fits_draftOf (held : Holds m extra value) : (draftOf text extra).Fits := by
  obtain ⟨keyboard, held⟩ := exists_keyboard held
  have length : (keyboardOf extra).items.length ≤ placeBound := held.items_le
  have single : 1 ≤ placeBound := by decide
  have row : ∀ item ∈ (keyboardOf extra).items, (rowOf item).length ≤ placeBound := by
    intro item member
    refine (List.length_filterMap_le _ _).trans ?_
    split
    · exact held.items_items_le item member
    · exact single
  constructor <;> simp only [draftOf, extraRows, rowsOfItems]
  · split
    · split
      · rwa [List.length_map]
      · exact single
    · exact Nat.zero_le _
  · intro buttons member
    split at member
    · split at member
      · obtain ⟨item, inside, rfl⟩ := List.mem_map.mp member
        exact row item inside
      · rw [List.mem_singleton.mp member]
        exact (List.length_filterMap_le _ _).trans length
    · cases member

/-! ## Going on -/

/-- What is done besides writes no line and makes no reply. -/
structure Aside (m m' : Machine) : Prop where
  lines : m'.host.lines = m.host.lines
  reply : m'.host.reply = m.host.reply

/-- A script gets from one machine to another by some calls of the console and some replies, and by
what it does besides. What is written or handed to a reply may be made by anything the script does
before the call. -/
inductive Performs (m₀ : Machine) : List Event → Machine → Prop
  | begin : Performs m₀ [] m₀
  | aside {events : List Event} {m m' : Machine} : Performs m₀ events m → Aside m m' →
      Performs m₀ events m'
  | print {events : List Event} {m m' between : Machine} {inner : Evaluator}
      {given result : Value} {arguments : List Value} {texts : List Utf16} :
      Performs m₀ events m →
      (arguments.mapM (describedText inner)).run (after 1 m) = .ok texts between →
      Aside m between → (callNative inner (.host .print) given arguments).run m = .ok result m' →
      Performs m₀ (events ++ [.printed (.join " " texts)]) m'
  | reply {events : List Event} {m m' : Machine} {depth : Nat} {given result : Value}
      {arguments : List Value} {text extra : Datum} :
      Performs m₀ events m → CanReply m text extra arguments →
      (callNative (.ofDepth depth) (.host .reply) given arguments).run m = .ok result m' →
      Performs m₀ (events ++ [.replied text extra]) m'

namespace Performs

theorem trans (first : Performs m₀ events m₁) (second : Performs m₁ later m₂) :
    Performs m₀ (events ++ later) m₂ := by
  induction second with
  | begin => rwa [List.append_nil]
  | aside _ aside ih => exact ih.aside aside
  | print _ shown aside ended ih =>
      rw [← List.append_assoc]
      exact ih.print shown aside ended
  | reply _ canReply ended ih =>
      rw [← List.append_assoc]
      exact ih.reply canReply ended

/-- The host keeps every line, in the order of the calls, and the first reply. -/
theorem host (performs : Performs m₀ events m) :
    m.host.lines = m₀.host.lines ++ (printedLines events).toArray ∧
      m.host.reply = m₀.host.reply.or (firstDraft? events) := by
  induction performs with
  | begin => simp [printedLines, firstDraft?]
  | aside _ aside ih => rwa [aside.lines, aside.reply]
  | print _ shown aside ended ih =>
      rw [print_ok shown ended, printedLines_append, firstDraft?_append]
      simp only [Host.note, aside.lines, aside.reply, ih.1, ih.2]
      simp [printedLines, firstDraft?]
  | reply _ canReply ended ih =>
      rw [reply_ok canReply ended, printedLines_append, firstDraft?_append]
      simp only [Host.note, ih.1, ih.2]
      simp [printedLines, firstDraft?]

/-- A reply is no longer than lists may be. -/
theorem fits_of_mem (performs : Performs m₀ events m) :
    ∀ text extra, .replied text extra ∈ events → (draftOf text extra).Fits := by
  induction performs with
  | begin => exact fun _ _ member => nomatch member
  | aside _ _ ih => exact ih
  | print _ _ _ _ ih =>
      intro text extra member
      rcases List.mem_append.mp member with before | last
      · exact ih text extra before
      · cases List.mem_singleton.mp last
  | reply _ canReply _ ih =>
      intro text extra member
      rcases List.mem_append.mp member with before | last
      · exact ih text extra before
      · cases List.mem_singleton.mp last
        exact fits_draftOf canReply.holdsExtra

theorem fits (performs : Performs m₀ events m) {draft : Draft}
    (first : firstDraft? events = some draft) : draft.Fits := by
  obtain ⟨event, member, isDraft⟩ := List.exists_of_findSome?_eq_some first
  cases event with
  | printed line => cases isDraft
  | replied text extra =>
      cases isDraft
      exact performs.fits_of_mem text extra member

end Performs

end BotBench.Sandbox
