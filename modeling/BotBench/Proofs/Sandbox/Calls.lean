import BotBench.Proofs.Sandbox.Registration

/-! # The calls that a script makes of its bots

A script constructs instances and calls their methods. Between these calls it does whatever it
likes, except to the instances and their tables (`BotBench.Sandbox.Apart`). What the calls say, read
from the last one back (`BotBench.Sandbox.latest?`), is what the heap then holds: each instance has
a table of its own with the latest handler under each key, and the host knows the instance that was
constructed last (`BotBench.Sandbox.Makes.ledger`). -/

namespace BotBench.Sandbox

open Script Script.Run Text

/-- A call that constructs an instance, or a call of a method of an instance. A list of commands is
given by its reference and the names that it holds. -/
inductive HarnessCall
  | construct (bot : Ref) (given : List Value) (newTarget : Value)
  | start (bot : Ref) (handler : Value)
  | command (bot : Ref) (name : Utf16) (handler : Value)
  | commands (bot list : Ref) (names : List Utf16) (handler : Value)
  | on (bot : Ref) (event : Utf16) (handler : Value)
  | launch (bot : Ref)
  | stop (bot : Ref)

/-- A handler that is registered with an instance, and the texts under which it is. -/
structure Registration where
  bot : Ref
  texts : List Utf16
  handler : Value

namespace HarnessCall

/-- The run of a call. -/
def run (inner : Evaluator) : HarnessCall → Run Value
  | .construct _ given newTarget => constructNative inner (.host .construct) given newTarget
  | .start bot handler => callNative inner (.host .start) (.object bot) [handler]
  | .command bot name handler =>
      callNative inner (.host .command) (.object bot) [.text name, handler]
  | .commands bot list _ handler =>
      callNative inner (.host .command) (.object bot) [.object list, handler]
  | .on bot event handler => callNative inner (.host .on) (.object bot) [.text event, handler]
  | .launch bot => callNative inner (.host .launch) (.object bot) []
  | .stop bot => callNative inner (.host .stop) (.object bot) []

/-- What a call gives. -/
def result : HarnessCall → Value
  | .construct bot _ _ => .object bot
  | _ => .undefined

/-- The instance that a call constructs. -/
def constructed? : HarnessCall → Option Ref
  | .construct bot _ _ => some bot
  | _ => none

/-- What a call registers. A handler for the start is one for the command of that name. -/
def registration? : HarnessCall → Option Registration
  | .start bot handler => some ⟨bot, commandTexts ["start"], handler⟩
  | .command bot name handler => some ⟨bot, commandTexts [name], handler⟩
  | .commands bot _ names handler => some ⟨bot, commandTexts names, handler⟩
  | .on bot event handler => some ⟨bot, [("on_" : Utf16) ++ event], handler⟩
  | _ => none

end HarnessCall

/-- The instances that have been constructed. -/
def instances (calls : List HarnessCall) : List Ref := calls.filterMap HarnessCall.constructed?

/-- The handler that a call registers with an instance under a text. -/
def HarnessCall.handler? (call : HarnessCall) (bot : Ref) (text : Utf16) : Option Value :=
  match call.registration? with
  | some entry => if entry.bot = bot ∧ text ∈ entry.texts then some entry.handler else none
  | none => none

/-- The handler that has been registered last with an instance under a text. -/
def latest? (calls : List HarnessCall) (bot : Ref) (text : Utf16) : Option Value :=
  calls.reverse.findSome? fun call => call.handler? bot text

/-- The texts of which the harness makes keys. -/
def IsHarnessText (text : Utf16) : Prop :=
  text = "handlers" ∨ text = "toJSON" ∨
    ∃ name : Utf16, text = ("/" : Utf16) ++ name ∨ text = ("on_" : Utf16) ++ name

/-- Objects and lists inherit nothing under the keys of the harness. -/
structure Pristine (m : Machine) : Prop where
  objects : ∀ text, IsHarnessText text → m.Lacks Intrinsic.objectAncestor.ref (Key.ofText text)
  lists : m.Lacks Intrinsic.arrayAncestor.ref (Key.ofText "toJSON")

/-- A method is called of an instance that has been constructed; a class whose instances inherit no
table is constructed. -/
def HarnessCall.Fits (inner : Evaluator) (calls : List HarnessCall) (m : Machine) :
    HarnessCall → Prop
  | .construct _ _ newTarget => ∃ ancestor,
      (ancestorFor inner newTarget .objectAncestor).run m = .ok ancestor m ∧
        m.Lacks ancestor (Key.ofText "handlers")
  | .commands bot list names _ => bot ∈ instances calls ∧ Lists m list names
  | .start bot _ | .command bot _ _ | .on bot _ _ | .launch bot | .stop bot =>
      bot ∈ instances calls

/-- What is done between the calls touches neither the instances nor their tables, and constructs no
instance. -/
structure Apart (calls : List HarnessCall) (m m' : Machine) : Prop where
  host : m'.host.bot = m.host.bot
  instances : ∀ bot ∈ instances calls, m'.objects[bot.index]? = m.objects[bot.index]?
  tables : ∀ bot ∈ Sandbox.instances calls, ∀ table, Keeps m bot table →
    m'.objects[table.index]? = m.objects[table.index]?

/-- A script gets from one machine to another by some calls and by what it does between them. Where
a call is made, objects and lists inherit nothing under the keys of the harness. -/
inductive Makes (m₀ : Machine) : List HarnessCall → Machine → Prop
  | begin : Makes m₀ [] m₀
  | apart {calls m m'} : Makes m₀ calls m → Apart calls m m' → Makes m₀ calls m'
  | call {calls m m'} (inner : Evaluator) (call : HarnessCall) : Makes m₀ calls m → Pristine m →
      call.Fits inner calls m → (call.run inner).run m = .ok call.result m' →
      Makes m₀ (calls ++ [call]) m'

variable {inner : Evaluator} {m m' : Machine} {bot table : Ref} {calls : List HarnessCall}
  {call : HarnessCall} {text : Utf16}

theorem instances_append :
    instances (calls ++ [call]) = instances calls ++ call.constructed?.toList := by
  rw [instances, List.filterMap_append]
  cases call <;> rfl

theorem latest?_append :
    latest? (calls ++ [call]) bot text = (call.handler? bot text).or (latest? calls bot text) := by
  rw [latest?, List.reverse_append, List.reverse_singleton, List.singleton_append,
    List.findSome?_cons]
  cases call.handler? bot text <;> rfl

/-! ## What the heap holds -/

/-- An instance with its table, which has the given handlers and nothing else. -/
structure Instance (m : Machine) (bot table : Ref) (handler? : Utf16 → Option Value) : Prop where
  bot : ∃ object, m.objects[bot.index]? = some object ∧
    object.own? (Key.ofText "handlers") = some (.plain (.object table))
  table : ∃ object, m.objects[table.index]? = some object ∧ object.kind = .plain ∧
    object.isExtensible = true ∧ object.ancestor = some Intrinsic.objectAncestor.ref ∧
    ∀ text, object.property? (Key.ofText text) = (handler? text).map .plain

variable {handler? : Utf16 → Option Value}

namespace Instance

theorem keeps (held : Instance m bot table handler?) : Keeps m bot table := by
  obtain ⟨object, found, own⟩ := held.bot
  rwa [Keeps, Machine.objectAt_of_get found]

/-- An instance is known by its object and its table. -/
theorem congr (held : Instance m bot table handler?)
    (bots : m'.objects[bot.index]? = m.objects[bot.index]?)
    (tables : m'.objects[table.index]? = m.objects[table.index]?) :
    Instance m' bot table handler? :=
  ⟨by rw [bots]; exact held.bot, by rw [tables]; exact held.table⟩

theorem receptive (held : Instance m bot table handler?) (pristine : Pristine m)
    {texts : List Utf16} (harness : ∀ text ∈ texts, IsHarnessText text) :
    Receptive m table texts := by
  obtain ⟨object, found, isPlain, isExtensible, above, handlers⟩ := held.table
  refine ⟨⟨object, found, isPlain, isExtensible⟩, fun text member => ?_⟩
  have here := Machine.objectAt_of_get found
  rw [here, handlers]
  cases registered : handler? text with
  | some old => exact .inl ⟨old, rfl⟩
  | none =>
      refine .inr (.of_own ?_ fun ancestor inherited => ?_)
      · rw [here, own?_plain isPlain, handlers, registered]
        rfl
      · rw [here, above] at inherited
        cases inherited
        exact pristine.objects text (harness text member)

/-- A registration makes the handler the latest one under its texts. -/
theorem enrols (held : Instance m bot table handler?) (apart : table ≠ bot) {handler : Value}
    {texts : List Utf16} (enrols : Enrols table handler texts m m') :
    Instance m' bot table
      fun text => if text ∈ texts then some handler else handler? text := by
  obtain ⟨object, found, isPlain, isExtensible, above, handlers⟩ := held.table
  obtain ⟨kind, ancestor, extensible⟩ := @enrolled_frame handler texts object
  refine ⟨by rw [enrols.others bot apart.symm]; exact held.bot,
    ⟨enrolled handler texts object, by rw [enrols.stored, found]; rfl, kind.trans isPlain,
      extensible.trans isExtensible, ancestor.trans above, fun text => ?_⟩⟩
  rw [property?_enrolled]
  split
  · rfl
  · exact handlers text

end Instance

/-! ## What one call does -/

/-- A method that registers something does so after a step, for the instance of which it is
called. -/
theorem method_ok {f : HostFunction} {made : Value} {arguments : List Value}
    {registers : Value → Run Unit}
    (body : callHost inner f (.object bot) arguments =
      receiverOf false (.object bot) >>= fun receiver =>
        registers receiver >>= fun _ => pure .undefined)
    (ended : (callNative inner (.host f) (.object bot) arguments).run m = .ok made m') :
    ∃ between, Alike m between ∧ (registers (.object bot)).run between = .ok () m' := by
  obtain ⟨_, between, ticked, ended⟩ := bind_ok ended
  change (callHost inner f (.object bot) arguments).run between = _ at ended
  have receiver : (receiverOf false (.object bot)).run between = .ok (.object bot) between := rfl
  rw [body, bind_of_ok receiver] at ended
  obtain ⟨_, last, registered, ended⟩ := bind_ok ended
  cases ended
  exact ⟨between, .spend ticked, registered⟩

theorem startText : commandTexts ["start"] = [.whole "/start"] := by decide

namespace HarnessCall

variable {entry : Registration}

/-- Handlers are registered under texts of the harness. -/
theorem isHarnessText (registers : call.registration? = some entry) :
    ∀ text ∈ entry.texts, IsHarnessText text := by
  have command : ∀ names, ∀ text ∈ commandTexts names, IsHarnessText text := by
    intro names text member
    obtain ⟨name, -, rfl⟩ := List.mem_map.mp member
    exact .inr (.inr ⟨name, .inl rfl⟩)
  cases call with
  | construct | launch | stop => cases registers
  | start | command | commands =>
      cases registers
      exact command _
  | on bot event handler =>
      cases registers
      exact fun text member => .inr (.inr ⟨event, .inr (List.mem_singleton.mp member)⟩)

/-- A call that registers a handler puts it into the table of its instance. -/
theorem enrols (registers : call.registration? = some entry)
    (held : Instance m entry.bot table handler?) (apart : table ≠ entry.bot)
    (pristine : Pristine m) (fits : call.Fits inner calls m)
    (ended : (call.run inner).run m = .ok call.result m') :
    Enrols table entry.handler entry.texts m m' := by
  have receptive := held.receptive pristine (isHarnessText registers)
  cases call with
  | construct | launch | stop => cases registers
  | start bot handler =>
      cases registers
      obtain ⟨between, alike, registered⟩ := method_ok rfl ended
      rw [startText] at receptive ⊢
      exact (Enrols.alike alike).trans
        (register_ok (held.keeps.alike alike) (receptive.alike alike) registered)
  | command bot name handler =>
      cases registers
      obtain ⟨between, alike, registered⟩ := method_ok rfl ended
      exact (Enrols.alike alike).trans
        (registerCommands_text_ok (held.keeps.alike alike) (receptive.alike alike) registered)
  | commands bot list names handler =>
      cases registers
      obtain ⟨between, alike, registered⟩ := method_ok rfl ended
      exact (Enrols.alike alike).trans (registerCommands_list_ok (held.keeps.alike alike)
        apart.symm (receptive.alike alike) (fits.2.alike alike) registered)
  | on bot event handler =>
      cases registers
      obtain ⟨between, alike, registered⟩ := method_ok rfl ended
      exact (Enrols.alike alike).trans
        (registerFor_ok (held.keeps.alike alike) (receptive.alike alike) registered)

/-- The instance of a registration has been constructed. -/
theorem mem_instances (registers : call.registration? = some entry)
    (fits : call.Fits inner calls m) : entry.bot ∈ instances calls := by
  cases call with
  | construct | launch | stop => cases registers
  | start | command | on =>
      cases registers
      exact fits
  | commands =>
      cases registers
      exact fits.1

/-- A call that neither constructs nor registers takes a step. -/
theorem alike (registers : call.registration? = none) (constructs : call.constructed? = none)
    (ended : (call.run inner).run m = .ok call.result m') : Alike m m' := by
  cases call with
  | construct => cases constructs
  | start | command | commands | on => cases registers
  | launch bot | stop bot =>
      obtain ⟨_, between, ticked, ended⟩ := bind_ok ended
      cases ended
      exact .spend ticked

theorem constructed?_of_registers (registers : call.registration? = some entry) :
    call.constructed? = none := by
  cases call <;> first | rfl | cases registers

end HarnessCall

/-! ## What the heap holds after some calls -/

/-- The host knows the instance that was constructed last. Each instance has a table, no two share
one, and no instance is a table; a table has the latest handlers, and nothing has been registered
with what is no instance. -/
structure Ledger (calls : List HarnessCall) (m : Machine) : Prop where
  host : m.host.bot = (instances calls).getLast?
  held : ∀ bot ∈ instances calls, ∃ table, Instance m bot table (latest? calls bot)
  distinct : ∀ first ∈ instances calls, ∀ second ∈ instances calls, ∀ table,
    Keeps m first table → Keeps m second table → first = second
  apart : ∀ first ∈ instances calls, ∀ second ∈ instances calls, ∀ table,
    Keeps m first table → table ≠ second
  strangers : ∀ bot, bot ∉ instances calls → latest? calls bot = fun _ => none

namespace Ledger

theorem begin (noBot : m.host.bot = none) : Ledger [] m :=
  ⟨noBot, by simp [instances], by simp [instances], by simp [instances], fun _ _ => rfl⟩

/-- If each instance keeps its table, then the tables stay distinct. -/
theorem of_keeps {calls' : List HarnessCall} (ledger : Ledger calls m)
    (same : instances calls' = instances calls) (host : m'.host.bot = m.host.bot)
    (keeps : ∀ bot ∈ instances calls, m'.objectAt bot = m.objectAt bot)
    (held : ∀ bot ∈ instances calls, ∃ table, Instance m' bot table (latest? calls' bot))
    (strangers : ∀ bot, bot ∉ instances calls → latest? calls' bot = fun _ => none) :
    Ledger calls' m' := by
  have before : ∀ bot ∈ instances calls, ∀ table, Keeps m' bot table → Keeps m bot table :=
    fun bot member table kept => by rwa [Keeps, keeps bot member] at kept
  refine ⟨by rw [host, same]; exact ledger.host, by rw [same]; exact held, ?_, ?_,
    by rw [same]; exact strangers⟩
  · rw [same]
    exact fun first one second two table kept other =>
      ledger.distinct first one second two table (before first one table kept)
        (before second two table other)
  · rw [same]
    exact fun first one second two table kept =>
      ledger.apart first one second two table (before first one table kept)

theorem objectAt_congr (same : m'.objects[bot.index]? = m.objects[bot.index]?) :
    m'.objectAt bot = m.objectAt bot := by
  rw [Machine.objectAt, same, Machine.objectAt]

theorem between (ledger : Ledger calls m) (apart : Apart calls m m') : Ledger calls m' := by
  refine ledger.of_keeps rfl apart.host
    (fun bot member => objectAt_congr (apart.instances bot member)) (fun bot member => ?_)
    ledger.strangers
  obtain ⟨table, held⟩ := ledger.held bot member
  exact ⟨table, held.congr (apart.instances bot member) (apart.tables bot member table held.keeps)⟩

theorem latest?_of_idle (calls : List HarnessCall) (registers : call.registration? = none) :
    latest? (calls ++ [call]) = latest? calls := by
  funext bot text
  rw [latest?_append, HarnessCall.handler?, registers]
  rfl

/-- A call that only takes time leaves everything as it is. -/
theorem idle (ledger : Ledger calls m) (registers : call.registration? = none)
    (constructs : call.constructed? = none) (alike : Alike m m') : Ledger (calls ++ [call]) m' := by
  have same : ∀ bot : Ref, m'.objects[bot.index]? = m.objects[bot.index]? := fun bot => by
    rw [alike.objects]
  have latest := latest?_of_idle calls registers
  refine ledger.of_keeps (by rw [instances_append, constructs]; exact List.append_nil _)
    (by rw [alike.host]) (fun bot _ => objectAt_congr (same bot)) (fun bot member => ?_) ?_
  · obtain ⟨table, held⟩ := ledger.held bot member
    rw [latest]
    exact ⟨table, held.congr (same bot) (same table)⟩
  · rw [latest]
    exact ledger.strangers

/-- A registration changes the table of its instance and no other. -/
theorem register (ledger : Ledger calls m) {entry : Registration}
    (registers : call.registration? = some entry) (member : entry.bot ∈ instances calls)
    (held : Instance m entry.bot table (latest? calls entry.bot))
    (enrols : Enrols table entry.handler entry.texts m m') : Ledger (calls ++ [call]) m' := by
  have apart : ∀ bot ∈ instances calls, table ≠ bot := fun bot other =>
    ledger.apart entry.bot member bot other table held.keeps
  have constructs := HarnessCall.constructed?_of_registers registers
  have latest : ∀ bot text, latest? (calls ++ [call]) bot text =
      if entry.bot = bot ∧ text ∈ entry.texts then some entry.handler
      else latest? calls bot text := by
    intro bot text
    rw [latest?_append, HarnessCall.handler?, registers]
    simp only
    split <;> rfl
  have others : ∀ bot, entry.bot ≠ bot → latest? (calls ++ [call]) bot = latest? calls bot := by
    intro bot other
    funext text
    simp [latest, other]
  refine ledger.of_keeps (by rw [instances_append, constructs]; exact List.append_nil _)
    (by rw [enrols.host])
    (fun bot other => objectAt_congr (enrols.others bot (apart bot other).symm))
    (fun bot other => ?_) fun bot stranger => ?_
  · by_cases same : entry.bot = bot
    · subst same
      have handlers : latest? (calls ++ [call]) entry.bot = fun text =>
          if text ∈ entry.texts then some entry.handler else latest? calls entry.bot text := by
        funext text
        simp [latest]
      rw [handlers]
      exact ⟨table, held.enrols (apart entry.bot member) enrols⟩
    · obtain ⟨own, held'⟩ := ledger.held bot other
      rw [others bot same]
      refine ⟨own, held'.congr (enrols.others bot (apart bot other).symm) (enrols.others own ?_)⟩
      rintro rfl
      exact same (ledger.distinct entry.bot member bot other own held.keeps held'.keeps)
  · rw [others bot fun same => stranger (same ▸ member)]
    exact ledger.strangers bot stranger

theorem mem_lt (ledger : Ledger calls m) (member : bot ∈ instances calls) :
    bot.index < m.objects.size := by
  obtain ⟨table, held⟩ := ledger.held bot member
  obtain ⟨object, found, -⟩ := held.bot
  exact (Array.getElem?_eq_some_iff.mp found).1

theorem table_lt (ledger : Ledger calls m) (member : bot ∈ instances calls)
    (keeps : Keeps m bot table) : table.index < m.objects.size := by
  obtain ⟨own, held⟩ := ledger.held bot member
  obtain rfl := held.keeps.unique keeps
  obtain ⟨object, found, -⟩ := held.table
  exact (Array.getElem?_eq_some_iff.mp found).1

section Construct

variable {ancestor : Ref}

theorem held_constructed (constructs : Constructs ancestor m m') :
    Instance m' ⟨m.objects.size⟩ ⟨m.objects.size + 1⟩ fun _ => none :=
  ⟨⟨_, constructs.getElem?_bot, rfl⟩, ⟨_, constructs.getElem?_table, rfl, rfl, rfl, fun _ => rfl⟩⟩

/-- After a construction an instance is an old one with its old table, or the new one with the new
table. -/
theorem keeps_cases (ledger : Ledger calls m) (constructs : Constructs ancestor m m')
    (member : bot ∈ instances calls ++ [⟨m.objects.size⟩]) (keeps : Keeps m' bot table) :
    (bot ∈ instances calls ∧ Keeps m bot table ∧ table.index < m.objects.size) ∨
      (bot = ⟨m.objects.size⟩ ∧ table = ⟨m.objects.size + 1⟩) := by
  rcases List.mem_append.mp member with before | new
  · rw [Keeps, objectAt_congr (constructs.getElem?_old (ledger.mem_lt before))] at keeps
    exact .inl ⟨before, keeps, ledger.table_lt before keeps⟩
  · obtain rfl := List.mem_singleton.mp new
    exact .inr ⟨rfl, keeps.unique (held_constructed constructs).keeps⟩

theorem distinct_constructed (ledger : Ledger calls m) (constructs : Constructs ancestor m m') :
    ∀ first ∈ instances calls ++ [⟨m.objects.size⟩],
      ∀ second ∈ instances calls ++ [⟨m.objects.size⟩], ∀ table,
        Keeps m' first table → Keeps m' second table → first = second := by
  intro first one second two table keeps keeps'
  rcases ledger.keeps_cases constructs one keeps with ⟨before, old, inside⟩ | ⟨rfl, rfl⟩ <;>
    rcases ledger.keeps_cases constructs two keeps' with ⟨before', old', inside'⟩ | ⟨rfl, same⟩
  · exact ledger.distinct first before second before' table old old'
  · rw [same] at inside
    dsimp only at inside
    omega
  · dsimp only at inside'
    omega
  · rfl

theorem apart_constructed (ledger : Ledger calls m) (constructs : Constructs ancestor m m') :
    ∀ first ∈ instances calls ++ [⟨m.objects.size⟩],
      ∀ second ∈ instances calls ++ [⟨m.objects.size⟩], ∀ table,
        Keeps m' first table → table ≠ second := by
  intro first one second two table keeps
  rcases ledger.keeps_cases constructs one keeps with ⟨before, old, inside⟩ | ⟨rfl, rfl⟩ <;>
    rcases List.mem_append.mp two with before' | new
  · exact ledger.apart first before second before' table old
  · obtain rfl := List.mem_singleton.mp new
    rintro rfl
    exact inside.false
  · rintro rfl
    have inside := ledger.mem_lt before'
    dsimp only at inside
    omega
  · obtain rfl := List.mem_singleton.mp new
    simp

/-- A new instance and its table are objects that were not there before. -/
theorem construct (ledger : Ledger calls m) (constructs : Constructs ancestor m m')
    {given : List Value} {newTarget : Value} :
    Ledger (calls ++ [.construct ⟨m.objects.size⟩ given newTarget]) m' := by
  have same : instances (calls ++ [.construct ⟨m.objects.size⟩ given newTarget]) =
      instances calls ++ [⟨m.objects.size⟩] := instances_append
  have registers :
      (HarnessCall.construct ⟨m.objects.size⟩ given newTarget).registration? = none := rfl
  have latest := latest?_of_idle calls registers
  refine ⟨by rw [constructs.host, same, List.getLast?_concat], ?_,
    by rw [same]; exact ledger.distinct_constructed constructs,
    by rw [same]; exact ledger.apart_constructed constructs, ?_⟩
  · intro bot member
    rw [latest]
    rcases List.mem_append.mp (same ▸ member) with before | new
    · obtain ⟨table, held⟩ := ledger.held bot before
      exact ⟨table, held.congr (constructs.getElem?_old (ledger.mem_lt before))
        (constructs.getElem?_old (ledger.table_lt before held.keeps))⟩
    · obtain rfl := List.mem_singleton.mp new
      have unknown : latest? calls ⟨m.objects.size⟩ = fun _ => none :=
        ledger.strangers _ fun member => (ledger.mem_lt member).false
      rw [unknown]
      exact ⟨_, held_constructed constructs⟩
  · intro bot stranger
    rw [latest]
    exact ledger.strangers bot fun member =>
      stranger (same ▸ List.mem_append_left _ member)

end Construct

/-- Each call leaves the heap with what the calls up to it say. -/
theorem step (ledger : Ledger calls m) (pristine : Pristine m) (fits : call.Fits inner calls m)
    (ended : (call.run inner).run m = .ok call.result m') : Ledger (calls ++ [call]) m' := by
  cases registers : call.registration? with
  | some entry =>
      have member := HarnessCall.mem_instances registers fits
      obtain ⟨table, held⟩ := ledger.held entry.bot member
      have apart := ledger.apart _ member _ member table held.keeps
      exact ledger.register registers member held
        (HarnessCall.enrols registers held apart pristine fits ended)
  | none =>
      cases call with
      | construct bot given newTarget =>
          obtain ⟨ancestor, inherits, lacks⟩ := fits
          obtain ⟨made, constructs⟩ := construct_ok inherits lacks
            (pristine.objects _ (.inl rfl)) ended
          cases made
          exact ledger.construct constructs
      | launch bot | stop bot =>
          exact ledger.idle registers rfl (HarnessCall.alike registers rfl ended)
      | start | command | commands | on => cases registers

end Ledger

/-- What the calls say is what the heap holds, whatever a script does between them. -/
theorem Makes.ledger {m₀ : Machine} (makes : Makes m₀ calls m) (noBot : m₀.host.bot = none) :
    Ledger calls m := by
  induction makes with
  | begin => exact .begin noBot
  | apart _ apart ih => exact ih.between apart
  | call inner call _ pristine fits ended ih => exact ih.step pristine fits ended

end BotBench.Sandbox
