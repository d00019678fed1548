import BotBench.Proofs.Bench.Shutdown
import Mathlib.Data.List.Nodup

/-! # The roster

The registry gives out the numbers 1, 2, 3, … one after the other, and no change of a record moves
its slot. At every point of every run the bots on the list are therefore those that were launched
and not deleted, in the order of their numbers, and no number is given out twice, not even when the
newest bot is deleted (`BotBench.Bench.roster_well_formed`). What is kept from move to move is the
account of the numbers that were given out and taken away (`BotBench.Registry.Accounts`). -/

namespace BotBench

namespace Registry

variable {registry registry' : Registry}

/-- The numbers of the bots, in the order of their slots. -/
def numbers (registry : Registry) : List Int := registry.slots.map (·.1)

@[simp] theorem numbers_put (registry : Registry) (id : Int) (record : Record) :
    (registry.put id record).numbers = registry.numbers := by
  unfold numbers put
  rw [List.map_map]
  apply List.map_congr_left
  intro slot _
  by_cases same : slot.1 = id
  · simp [same]
  · simp [same]

theorem numbers_create (registry : Registry) (time : Int) (code token : String)
    (language : Language) :
    (registry.create time code token language).2.numbers =
      registry.numbers ++ [registry.nextId] :=
  List.map_append

theorem numbers_erase (registry : Registry) (id : Int) :
    ({ registry with slots := eraseEntry registry.slots id } : Registry).numbers =
      registry.numbers.filter (· != id) := by
  unfold numbers eraseEntry
  rw [List.filter_map]
  rfl

/-- A bot is found when its number is on the list. -/
theorem find?_isSome_iff {id : Int} : (registry.find? id).isSome = true ↔ id ∈ registry.numbers := by
  rw [find?_eq_entry, entry?_isSome_iff_any, List.any_eq_true]
  simp [numbers]

/-- When no number stands twice, the record of a slot is the one that is found. -/
theorem find?_of_mem (distinct : registry.numbers.Nodup) {id : Int} {record : Record}
    (member : (id, record) ∈ registry.slots) : registry.find? id = some record := by
  obtain ⟨found, there⟩ := Option.isSome_iff_exists.mp
    (find?_isSome_iff.mpr (List.mem_map_of_mem (f := Prod.fst) member))
  obtain ⟨slot, present, same⟩ := Option.map_eq_some_iff.mp there
  have key : slot.1 = id := by simpa using List.find?_some present
  have equal : slot = (id, record) :=
    List.inj_on_of_nodup_map distinct (List.mem_of_find?_eq_some present) member key
  rw [there, ← same, equal]

/-- The registry `registry'` is what the registry `registry` becomes when a number may be given out
and a bot may be taken away. -/
structure Becomes (registry : Registry) (issued deleted : Option Int) (registry' : Registry) :
    Prop where
  numbers : registry'.numbers = (registry.numbers ++ issued.toList).filter (· ∉ deleted.toList)
  nextId : registry'.nextId = registry.nextId + issued.toList.length
  issued : ∀ id, issued = some id → id = registry.nextId
  deleted : ∀ id, deleted = some id → id ∈ registry.numbers

theorem Becomes.same (numbers : registry'.numbers = registry.numbers)
    (nextId : registry'.nextId = registry.nextId) : registry.Becomes none none registry' where
  numbers := by
    rw [numbers]
    simp
  nextId := by simpa using nextId
  issued _ := by simp
  deleted _ := by simp

/-- The numbers that were given out are those below the next one, in increasing order, and the bots
are those whose numbers were given out and not taken away. -/
structure Accounts (registry : Registry) (issued deleted : List Int) : Prop where
  increasing : issued.Pairwise (· < ·)
  mem_issued : ∀ id, id ∈ issued ↔ 1 ≤ id ∧ id < registry.nextId
  deleted_lt : ∀ id ∈ deleted, id < registry.nextId
  positive : 1 ≤ registry.nextId
  numbers : registry.numbers = issued.filter (· ∉ deleted)

namespace Accounts

variable {issued deleted : List Int} (accounts : registry.Accounts issued deleted)

include accounts

theorem mem_numbers {id : Int} : id ∈ registry.numbers ↔ id ∈ issued ∧ id ∉ deleted := by
  rw [accounts.numbers, List.mem_filter, decide_eq_true_iff]

/-- The next number belongs to no bot yet. -/
theorem fresh : registry.find? registry.nextId = none := by
  cases found : registry.find? registry.nextId with
  | none => rfl
  | some record =>
      have listed := find?_isSome_iff.mp (Option.isSome_iff_exists.mpr ⟨record, found⟩)
      have below := (accounts.mem_issued _).mp (accounts.mem_numbers.mp listed).1
      exact absurd below.2 (Int.lt_irrefl _)

/-- The account is carried on when a number is given out or a bot is taken away. -/
theorem carry {issued? deleted? : Option Int}
    (becomes : registry.Becomes issued? deleted? registry') :
    registry'.Accounts (issued ++ issued?.toList) (deleted ++ deleted?.toList) := by
  have grows : registry.nextId ≤ registry'.nextId := by
    rw [becomes.nextId]
    omega
  have gone (id : Int) (member : id ∈ deleted?.toList) : id ∈ registry.numbers :=
    becomes.deleted id (Option.mem_toList.mp member)
  have below {id : Int} (member : id ∈ registry.numbers) : id < registry.nextId :=
    ((accounts.mem_issued id).mp (accounts.mem_numbers.mp member).1).2
  refine ⟨?_, ?_, ?_, Int.le_trans accounts.positive grows, ?_⟩
  · cases given : issued? with
    | none => simpa using accounts.increasing
    | some next =>
        have number := becomes.issued next given
        rw [Option.toList_some, List.pairwise_append]
        refine ⟨accounts.increasing, List.pairwise_singleton .., ?_⟩
        intro id member other last
        rw [List.mem_singleton.mp last, number]
        exact ((accounts.mem_issued id).mp member).2
  · intro id
    rw [List.mem_append, accounts.mem_issued, becomes.nextId]
    cases given : issued? with
    | none => simp
    | some next =>
        have number := becomes.issued next given
        have positive := accounts.positive
        simp only [Option.toList_some, List.mem_singleton, List.length_singleton, number]
        omega
  · intro id member
    rcases List.mem_append.mp member with member | member
    · exact Int.lt_of_lt_of_le (accounts.deleted_lt id member) grows
    · exact Int.lt_of_lt_of_le (below (gone id member)) grows
  · rw [becomes.numbers, accounts.numbers]
    -- the number that is given out has not been taken away before
    have kept : issued?.toList.filter (· ∉ deleted) = issued?.toList := by
      rw [List.filter_eq_self]
      intro id member
      rw [decide_eq_true_iff]
      intro earlier
      have number := becomes.issued id (Option.mem_toList.mp member)
      have before := accounts.deleted_lt id earlier
      omega
    rw [← kept, ← List.filter_append, List.filter_filter, kept]
    apply List.filter_congr
    intro id _
    simp only [List.mem_append, not_or, Bool.decide_and, Bool.and_comm]

end Accounts

end Registry

namespace Bench

open Registry (Becomes)

variable {config : Config} {b b' : Bench}

/-- The number that an operation gives out, if it is a launch and is accepted. -/
def gives? (config : Config) (b : Bench) : Operation → Option Int
  | .launch code token language => (b.launch config code token language).toOption.map (·.1.id)
  | _ => none

/-- The bot that an operation takes away, if it is a deletion and is accepted. -/
def takes? (b : Bench) : Operation → Option Int
  | .delete bot => (b.delete bot).toOption.map fun _ => bot
  | _ => none

/-- The number that a move gives out. -/
def issued? (config : Config) (b : Bench) (move : Move) : Option Int :=
  (b.operation? move).bind ((b.taken move).gives? config)

/-- The bot that a move deletes. -/
def deleted? (b : Bench) (move : Move) : Option Int :=
  (b.operation? move).bind (b.taken move).takes?

/-- The numbers that a run gives out, in this order. -/
def issued (config : Config) (b : Bench) (moves : List Move) : List Int :=
  chronicle config (issued? config) b moves

/-- The bots that a run deletes, in this order. -/
def deleted (config : Config) (b : Bench) (moves : List Move) : List Int :=
  chronicle config deleted? b moves

/-! ## What a move does to the roster -/

/-- What is done for a bot keeps a property of the registry that putting records into the slot of
the bot keeps. -/
theorem registry_law (bot : Int) {motive : Registry → Prop}
    (put : ∀ registry record, motive registry → motive (registry.put bot record)) :
    UpkeepLaw bot fun b => motive b.registry where
  frame holds registry _ _ _ _ _ _ := by
    rw [registry]
    exact holds
  store record holds := put _ record holds
  schedule _ holds := holds
  startTicker holds := by
    rw [registry_startTicker]
    exact holds
  stopSequencer holds := by
    rw [registry_stopSequencer]
    exact holds
  stopTicker holds := by
    rw [registry_stopTicker]
    exact holds
  leaveTicker _ holds := by
    rw [registry_leaveTicker]
    exact holds

/-- What is done for a bot moves no slot. -/
theorem roster_law (bot : Int) (numbers : List Int) (nextId : Int) :
    UpkeepLaw bot fun b => b.registry.numbers = numbers ∧ b.registry.nextId = nextId := by
  apply registry_law bot (motive := fun registry =>
    registry.numbers = numbers ∧ registry.nextId = nextId)
  rintro registry record ⟨same, next⟩
  exact ⟨(Registry.numbers_put ..).trans same, next⟩

/-- The record that a launch answers with has the number that was next. -/
theorem launch_becomes (fresh : b.registry.find? b.registry.nextId = none) {code token : String}
    {language : Json} {answer : Record}
    (done : b.launch config code token language = .ok (answer, b')) :
    answer.id = b.registry.nextId ∧
      b.registry.Becomes (some b.registry.nextId) none b'.registry := by
  obtain ⟨named, -, face, -⟩ := launch_ok fresh done
  have numbered : answer.id = b.registry.nextId := (congrArg Record.id face :)
  obtain ⟨numbers, nextId⟩ := (roster_law b.registry.nextId
    (b.registry.numbers ++ [b.registry.nextId]) (b.registry.nextId + 1)).launch rfl fresh
      (fun _ => ⟨Registry.numbers_create .., rfl⟩) done
  refine ⟨numbered, ?_, nextId, ?_, ?_⟩
  · simpa using numbers
  · intro id same
    exact (Option.some.inj same).symm
  · intro id gone
    contradiction

theorem delete_becomes {bot : Int} (done : b.delete bot = .ok b') :
    b.registry.Becomes none (some bot) b'.registry := by
  have found : bot ∈ b.registry.numbers := by
    obtain ⟨record, seen, -⟩ := delete_ok done
    exact Registry.find?_isSome_iff.mp (Option.isSome_iff_exists.mpr ⟨record, seen⟩)
  obtain ⟨numbers, nextId⟩ := (roster_law bot b.registry.numbers b.registry.nextId).delete
    (fun b' => b'.registry.numbers = b.registry.numbers.filter (· != bot) ∧
      b'.registry.nextId = b.registry.nextId) ⟨rfl, rfl⟩ done fun log kept => by
        rw [Registry.numbers_erase, kept.1]
        exact ⟨rfl, kept.2⟩
  refine ⟨?_, ?_, ?_, ?_⟩
  · rw [numbers]
    simp [bne, beq_eq_decide]
  · simpa using nextId
  · intro id given
    contradiction
  · intro id same
    exact Option.some.inj same ▸ found

theorem operate_becomes (config : Config) (fresh : b.registry.find? b.registry.nextId = none)
    (operation : Operation) :
    b.registry.Becomes (b.gives? config operation) (b.takes? operation)
      (b.operate config operation).registry := by
  have settled {bot : Int} (made : operation.client? b.registry.nextId = some bot)
      (launched : ∀ code token language, operation ≠ .launch code token language)
      (deleted : operation ≠ .delete bot) :
      b.registry.Becomes none none (b.operate config operation).registry := by
    have kept : (b.operate config operation).registry.numbers = b.registry.numbers ∧
        (b.operate config operation).registry.nextId = b.registry.nextId :=
      (roster_law bot b.registry.numbers b.registry.nextId).operate made
        (fun _ _ _ _ same _ => absurd same (launched _ _ _))
        (fun _ same _ => absurd same deleted) ⟨rfl, rfl⟩
    exact .same kept.1 kept.2
  cases operation with
  | launch code token language =>
      unfold operate gives?
      dsimp only
      cases done : b.launch config code token language with
      | error refusal => exact .same rfl rfl
      | ok result =>
          obtain ⟨numbered, becomes⟩ := launch_becomes fresh done
          change b.registry.Becomes (some result.1.id) none result.2.registry
          rw [numbered]
          exact becomes
  | delete bot =>
      unfold operate takes?
      dsimp only
      cases done : b.delete bot with
      | error refusal => exact .same rfl rfl
      | ok b' => exact delete_becomes done
  | shutdown => exact .same (by rw [operate, registry_shutdown]) (by rw [operate, registry_shutdown])
  | update | restart | stop | send | press => exact settled rfl (by simp) (by simp)

/-- Every move lets the account go on: a launch gives out the next number, a deletion takes a number
away, and nothing else touches the roster. -/
theorem step_becomes (config : Config) (fresh : b.registry.find? b.registry.nextId = none)
    (move : Move) :
    b.registry.Becomes (b.issued? config move) (b.deleted? move) (b.step config move).registry := by
  have done := registry_step config b move
  unfold issued? deleted?
  rw [← registry_taken b move] at fresh ⊢
  cases carried : b.operation? move with
  | some operation =>
      rw [carried] at done
      rw [done]
      exact operate_becomes config fresh operation
  | none =>
      cases resumed : b.resumed? move with
      | none =>
          rw [carried, resumed] at done
          rw [done]
          exact .same (by rw [registry_taken]) (by rw [registry_taken])
      | some pair =>
          obtain ⟨task, routine⟩ := pair
          rw [carried, resumed] at done
          rw [done]
          dsimp only
          have settled {bot : Int}
              (made : routine.client? (b.taken move).registry.nextId = some bot)
              (apart : ∀ call, routine ≠ .serve call) :
              (b.taken move).registry.Becomes none none
                ((b.taken move).perform config task routine).1.registry := by
            have kept : ((b.taken move).perform config task routine).1.registry.numbers =
                (b.taken move).registry.numbers ∧
                  ((b.taken move).perform config task routine).1.registry.nextId =
                    (b.taken move).registry.nextId :=
              (roster_law bot _ _).perform made (fun call same => absurd same (apart call))
                ⟨rfl, rfl⟩
            exact .same kept.1 kept.2
          cases routine with
          | serve call =>
              rw [perform_unasked config carried resumed]
              exact .same rfl rfl
          | connect | redeploy | ticker | awaitIdle | report => exact settled rfl (by simp)

/-! ## Labels -/

/-- Every record carries the number under which it is found, and the name that goes with it. -/
def Labelled (records : Int → Option Record) : Prop :=
  ∀ id record, records id = some record → record.id = id ∧ record.name = s!"Bot #{id}"

/-- A record may be put in the place of another one that has the same number and name. -/
theorem Labelled.put {records records' : Int → Option Record} (labelled : Labelled records)
    {id : Int} {old record : Record} (found : records id = some old)
    (after : ∀ other, records' other = if other = id then some record else records other)
    (number : record.id = old.id) (name : record.name = old.name) : Labelled records' := by
  intro other record' found'
  rw [after] at found'
  split at found'
  · rename_i same
    subst same
    rw [Option.some.injEq] at found'
    subst found'
    rw [number, name]
    exact labelled other old found
  · exact labelled other record' found'

/-- Every transition keeps the labels. -/
theorem Labelled.transition {v v' : View} {least : Int} {event : Option Event}
    {passage : Option Passage} (labelled : Labelled v.record)
    (moved : v.Transition least event passage v') : Labelled v'.record := by
  have pending {id : Int} {old record : Record} (found : v.record id = some old)
      (number : record.id = old.id) (name : record.name = old.name) :
      Labelled ((v.interrupt id).write id record).record := by
    refine labelled.put found ?_ number name
    intro other
    rw [View.record_write, View.record_interrupt]
  cases moved with
  | launch name face =>
      intro id record found
      change (v.enter _).record id = some record at found
      rw [View.record_enter] at found
      split at found
      · rename_i same
        rw [Option.some.injEq] at found
        subst same found
        exact ⟨rfl, rfl⟩
      · exact labelled id record found
  | update found name face => exact pending found rfl rfl
  | restart found face => exact pending found rfl rfl
  | stop found face => exact pending found rfl rfl
  | @delete id record found =>
      intro other record' found'
      rw [View.record_erase, View.record_interrupt] at found'
      split at found'
      · contradiction
      · exact labelled other record' found'
  | turn found running turn =>
      obtain ⟨record, messages, found', rfl⟩ := turn
      exact labelled.put found' (fun _ => View.record_write ..) rfl rfl
  | leg acts belongs found goes =>
      exact labelled.put found (fun _ => View.record_goLeg ..) rfl rfl
  | begin acts => exact labelled
  | tick acts found running => exact labelled.put found (fun _ => View.record_write ..) rfl rfl
  | @halt task id record acts found running =>
      have written (other : Int) :
          ((v.dropTicker id).write id { record with status := .error }).record other =
            if other = id then some { record with status := .error } else v.record other := by
        rw [View.record_write, View.record_dropTicker]
      exact labelled.put found written rfl rfl
  | idle counts => exact labelled

theorem labelled_run (config : Config) (draws : Draws) (moves : List Move) :
    Labelled ((opening draws).run config moves).view.record := by
  have start : Labelled (opening draws).view.record := by
    intro id record found
    simp [view, opening, Registry.find?] at found
  exact remembered_views_keep (motive := fun v _ _ => Labelled v.record)
    (fun _ labelled moved => labelled.transition moved) (fun _ labelled => labelled) start moves

/-! ## Runs -/

theorem accounts_opening (draws : Draws) : (opening draws).registry.Accounts [] [] where
  increasing := List.Pairwise.nil
  mem_issued id := by
    change id ∈ [] ↔ 1 ≤ id ∧ id < 1
    simp only [List.not_mem_nil, false_iff]
    omega
  deleted_lt := by simp
  positive := Int.le_refl 1
  numbers := rfl

/-- The account of the numbers is kept along every run. -/
theorem accounts_run {issued deleted : List Int} (accounts : b.registry.Accounts issued deleted)
    (config : Config) (moves : List Move) :
    (b.run config moves).registry.Accounts (issued ++ b.issued config moves)
      (deleted ++ b.deleted config moves) := by
  induction moves generalizing b issued deleted with
  | nil => simpa [Bench.issued, Bench.deleted, chronicle] using accounts
  | cons move moves ih =>
      have rest := ih (accounts.carry (step_becomes config accounts.fresh move))
      rw [List.append_assoc, List.append_assoc] at rest
      exact rest

theorem numbers_increasing (config : Config) (draws : Draws) (moves : List Move) :
    ((opening draws).run config moves).registry.numbers.Pairwise (· < ·) := by
  have accounts := accounts_run (accounts_opening draws) config moves
  rw [accounts.numbers]
  exact accounts.increasing.filter _

/-- At every point of every run, the record of a slot carries the label of the slot. -/
theorem slots_labelled (config : Config) (draws : Draws) (moves : List Move) {id : Int}
    {record : Record} (member : (id, record) ∈ ((opening draws).run config moves).registry.slots) :
    record.id = id ∧ record.name = s!"Bot #{id}" :=
  labelled_run config draws moves id record.unlogged (view_of_find?
    (Registry.find?_of_mem ((numbers_increasing config draws moves).imp Int.ne_of_lt) member))

/-- **The roster is well-formed.** At every point of every run, each record carries the number of
its slot and the name that goes with it, and the number lies between 1 and the next one to be given
out; the bots are listed in the strictly increasing order of their numbers; those that are listed
and those that are found are the ones whose numbers were given out and that were not deleted; and no
number has been given out twice. -/
theorem roster_well_formed (config : Config) (draws : Draws) (moves : List Move) :
    let b := (opening draws).run config moves
    let issued := (opening draws).issued config moves
    let deleted := (opening draws).deleted config moves
    (∀ id record, (id, record) ∈ b.registry.slots →
        record.id = id ∧ record.name = s!"Bot #{id}" ∧ 1 ≤ id ∧ id < b.registry.nextId) ∧
      (b.registry.records.map (·.id)).Pairwise (· < ·) ∧
      b.registry.records.map (·.id) = issued.filter (· ∉ deleted) ∧
      (∀ id, (b.registry.find? id).isSome = true ↔ id ∈ issued ∧ id ∉ deleted) ∧
      issued.Nodup := by
  intro b issued deleted
  have accounts : b.registry.Accounts issued deleted :=
    accounts_run (accounts_opening draws) config moves
  have labels {id : Int} {record : Record} (member : (id, record) ∈ b.registry.slots) :
      record.id = id ∧ record.name = s!"Bot #{id}" := slots_labelled config draws moves member
  have listed : b.registry.records.map (·.id) = b.registry.numbers := by
    unfold Registry.records Registry.numbers
    rw [List.map_map]
    apply List.map_congr_left
    rintro ⟨id, record⟩ member
    exact (labels member).1
  refine ⟨?_, ?_, ?_, ?_, accounts.increasing.imp Int.ne_of_lt⟩
  · intro id record member
    have present : id ∈ b.registry.numbers := List.mem_map_of_mem (f := Prod.fst) member
    have given := (accounts.mem_issued id).mp (accounts.mem_numbers.mp present).1
    exact ⟨(labels member).1, (labels member).2, given.1, given.2⟩
  · rw [listed]
    exact numbers_increasing config draws moves
  · rw [listed]
    exact accounts.numbers
  · intro id
    rw [Registry.find?_isSome_iff]
    exact accounts.mem_numbers

/-- When the newest of two bots is deleted, its number is not given out again: three launches are
accepted under the numbers 1, 2 and 3, and the bots that are left are the first and the third. -/
theorem roster_well_formed_relaunched :
    let launch : Move := .operate (.launch "print()" "123456:token" (.str "python"))
    let moves := [launch, launch, .operate (.delete 2), launch]
    let b := (opening (.ofLists [] [])).run .silent moves
    (opening (.ofLists [] [])).issued .silent moves = [1, 2, 3] ∧
      (opening (.ofLists [] [])).deleted .silent moves = [2] ∧
      b.registry.nextId = 4 ∧
      b.registry.records.map (·.id) = [1, 3] ∧
      b.registry.records.map (·.name) = ["Bot #1", "Bot #3"] := by
  intro launch moves b
  have issued : (opening (.ofLists [] [])).issued .silent moves = [1, 2, 3] := by decide +kernel
  have deleted : (opening (.ofLists [] [])).deleted .silent moves = [2] := by decide +kernel
  obtain ⟨-, -, listed, -⟩ := roster_well_formed .silent (.ofLists [] []) moves
  rw [issued, deleted] at listed
  exact ⟨issued, deleted, by decide +kernel, listed.trans (by decide), by decide +kernel⟩

end Bench

end BotBench
