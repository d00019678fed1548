import BotBench.Proofs.Bench.Share

/-! # Bots do not interfere

Every move but a shutdown is made for one bot at most, its client: an operation for the bot that it
is about, and a resumption, a wake-up or the unwinding of a cancelled task for the bot that the task
is about. In every reachable bench it leaves the shares of all other bots and their order as they
are (`BotBench.Bench.bots_do_not_interfere`). -/

namespace BotBench

namespace Bench

variable {config : Config} {b b' : Bench} {bot other : Int} {id : Nat} {whom : Option Int}

/-! ## Tasks go on for their owners -/

/-- A sequence that sleeps goes on as a sequence of the same generation, and a ticker as a ticker of
the same bot. -/
theorem goesOn_of_sleep {routine next : Routine} {span : Span}
    (sleeps : (b.perform config id routine).2 = .sleep span next) :
    next.owner? = routine.owner? ∧ next.sequence? = routine.sequence? := by
  have of_connect {b : Bench} {bot generation : Int} {stage : Stage}
      (sleeps : (b.connect config bot generation stage).2.verdict = .sleep span next) :
      next.owner? = some bot ∧ next.sequence? = some (bot, generation) := by
    unfold connect at sleeps
    split at sleeps
    · unfold connectStep at sleeps
      cases stage with
      | attempt | validate | establish =>
          cases sleeps
          exact ⟨rfl, rfl⟩
      | check =>
          dsimp only at sleeps
          split at sleeps
          · contradiction
          · split at sleeps
            · cases sleeps
              exact ⟨rfl, rfl⟩
            · contradiction
      | finish =>
          dsimp only at sleeps
          split at sleeps <;> contradiction
    · contradiction
  cases routine with
  | connect bot generation stage => exact of_connect sleeps
  | redeploy bot generation line slept =>
      change (b.redeploy config bot generation line slept).2.verdict = _ at sleeps
      unfold redeploy at sleeps
      split at sleeps
      · cases sleeps
        exact ⟨rfl, rfl⟩
      · split at sleeps
        · exact of_connect sleeps
        · contradiction
  | ticker bot slept =>
      cases slept with
      | false =>
          cases sleeps
          exact ⟨rfl, rfl⟩
      | true =>
          rw [perform_ticker] at sleeps
          split at sleeps
          · cases sleeps
            exact ⟨rfl, rfl⟩
          · contradiction
  | awaitIdle bot waited =>
      unfold perform at sleeps
      dsimp only at sleeps
      split at sleeps <;> contradiction
  | serve call =>
      have aside := (serve_operates config b call).2
      change (b.serve config call).2 = _ at sleeps
      rw [sleeps] at aside
      contradiction
  | report status bot => contradiction

/-! ## What a task leaves behind -/

/-- Whoever is not the client of a task does not own it. -/
theorem foreign_of_client {task : Task} {next : Int} (present : b.tasks[id]? = some task)
    (client : task.routine.client? next ≠ some other) : b.owns other id = false := by
  rw [owns_of_present present, beq_eq_false_iff_ne]
  intro own
  apply client
  cases routine : task.routine with
  | connect | redeploy | ticker =>
      rw [routine] at own
      exact own
  | awaitIdle | serve | report =>
      rw [routine] at own
      contradiction

theorem not_owns_of_missing (missing : b.tasks[id]? = none) : b.owns other id = false := by
  unfold owns task?
  rw [missing]
  rfl

/-- A task that is resumed keeps its routine until its verdict is obeyed. -/
theorem routine_after_perform {task : Task} (present : b.tasks[id]? = some task)
    (config : Config) (other : Nat) (routine : Routine) :
    ∃ task', (b.perform config other routine).1.tasks[id]? = some task' ∧
      task'.routine = task.routine :=
  (task_law id (motive := fun found => found.routine = task.routine) (fun _ same => same)
    fun _ same => same).perform routine ⟨task, present, rfl⟩

section Foreign

variable (owned : b.Owned) (foreign : ∀ other, whom ≠ some other → b.owns other id = false)

include owned foreign

theorem Owned.finish (answer : Option Answer) : OnlyFor whom b (b.finish id answer) := by
  refine .of_tasks ?_ (registry_finish ..) fun other apart => share_finish (foreign other apart) _
  unfold Bench.finish
  split
  · exact owned
  · have ended : (b.setTask id fun task => { task with state := .finished, answer }).Owned :=
      owned.setTask _ fun _ _ => rfl
    exact ended.of_same rfl rfl rfl

theorem Owned.sleep {task : Task} {routine : Routine} (present : b.tasks[id]? = some task)
    (same : routine.owner? = task.routine.owner?) (config : Config) (span : Span) :
    OnlyFor whom b (b.sleep config id span routine) := by
  have kept (state : TaskState) :
      (b.setTask id fun task => { task with routine, state }).Owned := by
    apply owned.setTask
    intro found there
    rw [present, Option.some.injEq] at there
    rw [← there]
    exact same
  refine .of_tasks ?_ (registry_obey config b id (.sleep span routine)) ?_
  · unfold Bench.sleep
    cases span with
    | finite seconds =>
        dsimp only
        split
        · exact (kept .queued).of_same rfl rfl rfl
        · exact (kept .asleep).of_same rfl rfl rfl
    | endless => exact (kept .asleep).of_same rfl rfl rfl
  · intro other apart
    refine share_sleep (foreign other apart) ?_ span
    rw [same]
    exact owner?_ne_of_foreign (foreign other apart) present

theorem Owned.wait {task : Task} {routine : Routine} {target : Nat}
    (present : b.tasks[id]? = some task) (same : routine.owner? = task.routine.owner?)
    (awaited : ∀ other, whom ≠ some other → b.owns other target = false) :
    OnlyFor whom b (b.wait id target routine) := by
  have paused : (b.setTask id fun task => { task with routine, state := .waiting }).Owned := by
    apply owned.setTask
    intro found there
    rw [present, Option.some.injEq] at there
    rw [← there]
    exact same
  refine .of_tasks ?_ ?_ ?_
  · unfold Bench.wait
    dsimp only
    split
    · exact paused.of_same rfl rfl rfl
    · exact paused.setTask _ fun _ _ => rfl
  · unfold Bench.wait
    dsimp only
    split <;> rfl
  · intro other apart
    refine share_wait (foreign other apart) (awaited other apart) ?_
    rw [same]
    exact owner?_ne_of_foreign (foreign other apart) present

theorem Owned.unwind (routine : Routine)
    (client : ∀ bot, routine.owner? = some bot → whom = some bot) :
    OnlyFor whom b (b.unwind id routine) := by
  unfold Bench.unwind
  dsimp only
  split
  · rename_i bot
    obtain rfl := client bot rfl
    have left := owned.leaveTicker bot id
    refine left.trans (left.owned.finish ?_ none)
    intro other apart
    rw [owns_of_share (left.share other apart)]
    exact foreign other apart
  · exact owned.finish foreign none

theorem Owned.notify : OnlyFor whom b (b.notify id) := by
  refine .of_tasks ?_ ?_ fun other apart => share_notify (foreign other apart)
  · unfold Bench.notify
    split
    · exact owned
    · split
      · have told : (b.setTask id fun task => { task with state := .queued }).Owned :=
          owned.setTask _ fun _ _ => rfl
        exact told.of_same rfl rfl rfl
      · exact owned
  · unfold Bench.notify
    split
    · rfl
    · split <;> rfl

theorem Owned.wake : OnlyFor whom b (b.wake id) := by
  refine .of_tasks ?_ ?_ fun other apart => share_wake (foreign other apart)
  · unfold Bench.wake
    split
    · split
      · have roused : (b.setTask id fun task => { task with state := .queued }).Owned :=
          owned.setTask _ fun _ _ => rfl
        exact roused.of_same rfl rfl rfl
      · exact owned
    · exact owned
  · unfold Bench.wake
    split
    · split <;> rfl
    · rfl

end Foreign

theorem Owned.spawned (owned : b.Owned) (routine : Routine) (free : routine.owner? = none)
    (client? : Option Int) : OnlyFor client? b (b.spawn routine).2 :=
  .of_tasks (owned.spawn routine) rfl fun _ _ => share_spawn (by simp [free])

/-! ## Operations and steps of tasks -/

/-- A launch adds the slot of its bot at the end. -/
theorem Owned.create (owned : b.Owned) (time : Int) (code token : String) (language : Language) :
    OnlyFor (some b.registry.nextId) b
      { b with registry := (b.registry.create time code token language).2 } where
  owned := owned.of_same rfl rfl rfl
  slots := by
    change (b.registry.slots ++ [(b.registry.nextId, _)]).filter _ = _
    simp
  share other client := by
    refine share_eq ?_ rfl rfl rfl rfl rfl
    change (b.registry.create time code token language).2.find? other = _
    rw [Registry.find?_create, if_neg (ne_of_client client), Option.or_none]

/-- A deletion takes away the slot of its bot. -/
theorem Owned.erase (owned : b.Owned) (bot : Int) (log : List LogEntry) :
    OnlyFor (some bot) b
      { b with
        registry := { b.registry with slots := eraseEntry b.registry.slots bot }
        log } where
  owned := owned.of_same rfl rfl rfl
  slots := by
    change (eraseEntry b.registry.slots bot).filter _ = _
    unfold eraseEntry
    rw [List.filter_filter]
    apply List.filter_congr
    intro slot _
    simp [bne]
  share other client := by
    refine share_eq ?_ rfl rfl rfl rfl rfl
    change entry? (eraseEntry b.registry.slots bot) other = _
    rw [entry?_eraseEntry, if_neg (ne_of_client client)]
    rfl

theorem Owned.operate (owned : b.Owned) (config : Config)
    (fresh : b.registry.find? b.registry.nextId = none) {operation : Operation}
    (made : operation.client? b.registry.nextId = some bot) :
    OnlyFor (some bot) b (b.operate config operation) := by
  have law := onlyFor_law bot b
  refine law.operate made ?_ ?_ (.refl owned _)
  · rintro code token language result rfl done
    obtain rfl := Option.some.inj made
    exact law.launch rfl fresh (fun named => owned.create ..) done
  · rintro b' rfl done
    exact law.delete (OnlyFor (some bot) b) (.refl owned _) done fun log only =>
      only.trans (only.owned.erase bot log)

theorem Owned.perform (owned : b.Owned) (config : Config)
    (fresh : b.registry.find? b.registry.nextId = none) (routine : Routine) :
    OnlyFor (routine.client? b.registry.nextId) b (b.perform config id routine).1 := by
  cases made : routine.client? b.registry.nextId with
  | none =>
      cases routine with
      | serve call =>
          have idle : call.operation? = none := by
            cases call with
            | list => rfl
            | _ => contradiction
          have operated := (serve_operates config b call).1
          rw [idle] at operated
          change OnlyFor none b (b.serve config call).1
          rw [operated]
          exact .refl owned none
      | _ => contradiction
  | some bot =>
      refine (onlyFor_law bot b).perform made ?_ (.refl owned _)
      rintro call rfl
      rw [(serve_operates config b call).1]
      cases carried : call.operation? with
      | none => exact .refl owned _
      | some operation =>
          exact owned.operate config fresh ((Call.client?_of_operation? carried _).trans made)

/-- A task is resumed for its client alone, cancelled or not. -/
theorem Owned.resume (owned : b.Owned) (config : Config)
    (fresh : b.registry.find? b.registry.nextId = none) {task : Task}
    (present : b.tasks[id]? = some task) :
    OnlyFor (task.routine.client? b.registry.nextId) b (b.resume config id) := by
  have foreign (other : Int) (apart : task.routine.client? b.registry.nextId ≠ some other) :
      b.owns other id = false := foreign_of_client present apart
  unfold Bench.resume
  rw [present]
  dsimp only
  split
  · exact .refl owned _
  · split
    · refine owned.unwind foreign task.routine ?_
      intro bot own
      cases routine : task.routine with
      | connect | redeploy | ticker =>
          rw [routine] at own
          exact own
      | awaitIdle | serve | report =>
          rw [routine] at own
          contradiction
    · have performed : OnlyFor (task.routine.client? b.registry.nextId) b
          (b.perform config id task.routine).1 := owned.perform config fresh task.routine
      obtain ⟨task', present', routine⟩ := routine_after_perform present config id task.routine
      refine performed.trans ?_
      have still (other : Int) (apart : task.routine.client? b.registry.nextId ≠ some other) :
          (b.perform config id task.routine).1.owns other id = false := by
        rw [owns_of_share (performed.share other apart)]
        exact foreign other apart
      cases verdict : (b.perform config id task.routine).2 with
      | sleep span next =>
          exact performed.owned.sleep still present'
            ((goesOn_of_sleep verdict).1.trans (congrArg Routine.owner? routine.symm)) config span
      | wait target next =>
          obtain ⟨bot, entry, free, idle, client⟩ := awaited_of_wait verdict
          refine performed.owned.wait still present' ?_ ?_
          · rw [free, routine, idle]
          · intro other apart
            rw [client fresh] at apart
            exact owns_foreign (performed.owned.sequencer entry) (ne_of_client apart)
      | finish answer => exact performed.owned.finish still answer

/-! ## Moves -/

/-- The bot that a move is made for. A call or a wait that has just arrived has done nothing yet, and
a shutdown is for no bot in particular. -/
def client? (b : Bench) : Move → Option Int
  | .operate operation => operation.client? b.registry.nextId
  | .callback place =>
      (b.ready[place]?).bind fun callback =>
        (b.tasks[callback.task]?).bind fun task => task.routine.client? b.registry.nextId
  | .wake id => (b.tasks[id]?).bind fun task => task.routine.client? b.registry.nextId
  | .call _ | .awaitIdle _ | .clock _ => none

/-- Every move but a shutdown is made for its client alone. -/
theorem Owned.onlyFor_client (owned : b.Owned) (config : Config)
    (fresh : b.registry.find? b.registry.nextId = none) {move : Move}
    (goesOn : move ≠ .operate .shutdown) : OnlyFor (b.client? move) b (b.step config move) := by
  cases move with
  | operate operation =>
      change OnlyFor (operation.client? b.registry.nextId) b (b.operate config operation)
      cases made : operation.client? b.registry.nextId with
      | none =>
          have final : operation = .shutdown := by
            cases operation with
            | shutdown => rfl
            | _ => contradiction
          exact absurd (congrArg Move.operate final) goesOn
      | some bot => exact owned.operate config fresh made
  | call call => exact owned.spawned (.serve call) rfl none
  | awaitIdle bot => exact owned.spawned (.awaitIdle bot false) rfl none
  | callback place =>
      change OnlyFor _ b (b.runAt config place)
      unfold runAt client?
      dsimp only
      cases queue : b.ready[place]? with
      | none => exact .refl owned _
      | some callback =>
          let taken : Bench := { b with ready := b.ready.eraseIdx place }
          have kept : taken.Owned := owned.of_same rfl rfl rfl
          rw [Option.bind_some]
          generalize made : ((b.tasks[callback.task]?).bind fun task =>
            task.routine.client? b.registry.nextId) = whom
          have foreign (other : Int) (apart : whom ≠ some other) :
              b.owns other callback.task = false := by
            cases present : b.tasks[callback.task]? with
            | none => exact not_owns_of_missing present
            | some task =>
                rw [← made, present] at apart
                exact foreign_of_client present apart
          have first : OnlyFor whom b taken := by
            refine .of_tasks kept rfl fun other apart => share_taken queue ?_
            cases callback with
            | resume id => exact foreign other apart
            | notify id => rfl
          refine first.trans ?_
          cases callback with
          | notify id => exact kept.notify foreign
          | resume id =>
              change OnlyFor whom taken (taken.resume config id)
              change ((b.tasks[id]?).bind _) = whom at made
              cases present : b.tasks[id]? with
              | none =>
                  have missing : taken.tasks[id]? = none := present
                  unfold Bench.resume
                  rw [missing]
                  exact .refl kept whom
              | some task =>
                  rw [present] at made
                  rw [← made]
                  exact kept.resume config fresh present
  | wake id =>
      change OnlyFor _ b (b.wake id)
      unfold client?
      dsimp only
      cases present : b.tasks[id]? with
      | none =>
          unfold Bench.wake
          rw [present]
          exact .refl owned _
      | some task => exact owned.wake fun other apart => foreign_of_client present apart
  | clock time => exact .of_tasks (owned.of_same rfl rfl rfl) rfl fun other _ =>
      share_of_same rfl rfl rfl rfl rfl rfl other

/-- A shutdown keeps the tables owned. -/
theorem Owned.shutdown (owned : b.Owned) : b.shutdown.Owned := by
  have cancelled : ((b.sequencers.map (·.2)).foldl Bench.cancel b).Owned :=
    List.foldlRecOn _ _ owned fun _ kept id _ => kept.cancel id
  have emptied : ({ (b.sequencers.map (·.2)).foldl Bench.cancel b with
      sequencers := [] } : Bench).Owned := by
    refine cancelled.of_tables (fun own => own) ?_ .inl
    intro bot id entry
    contradiction
  exact List.foldlRecOn _ _ emptied fun _ kept bot _ => (kept.stopTicker bot).owned

theorem Owned.step (owned : b.Owned) (config : Config)
    (fresh : b.registry.find? b.registry.nextId = none) (move : Move) :
    (b.step config move).Owned := by
  by_cases final : move = .operate .shutdown
  · subst final
    exact owned.shutdown
  · exact (owned.onlyFor_client config fresh final).owned

/-- At every point of every run, what stands under a bot in a table belongs to the bot. -/
theorem owned_run (config : Config) (draws : Draws) (moves : List Move) :
    ((opening draws).run config moves).Owned := by
  have both : ((opening draws).run config moves).view.Sound config.settings.minTokenPrefix ∧
      ((opening draws).run config moves).Owned := by
    refine run_keeps (motive := fun b => b.view.Sound config.settings.minTokenPrefix ∧ b.Owned)
      ?_ ⟨.opening draws, owned_opening draws⟩
    rintro b move - ⟨sound, owned⟩
    exact ⟨sound_step sound move,
      owned.step config (view_eq_none_iff.mp sound.record_nextId) move⟩
  exact both.2

/-- In a reachable bench the records of the other bots are those of their slots. -/
theorem other_records (config : Config) (draws : Draws) (moves : List Move) (bot : Int) :
    (((opening draws).run config moves).registry.records.filter fun record => record.id != bot) =
      (((opening draws).run config moves).registry.slots.filter fun slot =>
        some slot.1 != some bot).map (·.2) := by
  unfold Registry.records
  rw [List.filter_map]
  congr 1
  apply List.filter_congr
  rintro ⟨id, record⟩ member
  have label : record.id = id := (slots_labelled config draws moves member).1
  simp [label, bne, beq_eq_decide]

/-- A bot ticks or not by what the bench holds for it. -/
theorem isTicking_of_share (owned : b.Owned) (same : b'.share bot = b.share bot) :
    b'.isTicking bot = b.isTicking bot := by
  have entry : entry? b'.tickers bot = entry? b.tickers bot := congrArg Share.ticker same
  unfold isTicking
  rw [entry]
  cases stands : entry? b.tickers bot with
  | none => rfl
  | some task =>
      have task := tasks_of_share same (owned.ticker stands)
      dsimp only
      unfold isFinished
      rw [task]

/-- **Bots do not interfere.** In every reachable bench, a move that is made for one bot leaves for
every other bot the whole share as it is: its record, its entries in both tables, its sequences and
tickers with their timers and their resumptions, and so the tasks that stand under it in the tables
and whether it ticks. The other bots keep their order on the list. -/
theorem bots_do_not_interfere (config : Config) (draws : Draws) (moves : List Move) (move : Move)
    (bot : Int) (made : ((opening draws).run config moves).client? move = some bot) :
    let b := (opening draws).run config moves
    let b' := b.step config move
    (∀ other, other ≠ bot →
        b'.share other = b.share other ∧ b'.isTicking other = b.isTicking other ∧
          ∀ task, entry? b.sequencers other = some task ∨ entry? b.tickers other = some task →
            b'.tasks[task]? = b.tasks[task]?) ∧
      (b'.registry.records.filter fun record => record.id != bot) =
        b.registry.records.filter fun record => record.id != bot := by
  intro b b'
  have owned : b.Owned := owned_run config draws moves
  have sound : b.view.Sound config.settings.minTokenPrefix := sound_run config draws moves
  have goesOn : move ≠ .operate .shutdown := by
    rintro rfl
    contradiction
  have only : OnlyFor (some bot) b b' :=
    made ▸ owned.onlyFor_client config (view_eq_none_iff.mp sound.record_nextId) goesOn
  refine ⟨?_, ?_⟩
  · intro other apart
    have same : b'.share other = b.share other :=
      only.share other fun equal => apart (Option.some.inj equal).symm
    refine ⟨same, isTicking_of_share owned same, ?_⟩
    rintro task (entry | entry)
    · exact tasks_of_share same (owned.sequencer entry)
    · exact tasks_of_share same (owned.ticker entry)
  · have after : (opening draws).run config (moves ++ [move]) = b' := by
      rw [run_append]
      rfl
    have before := other_records config draws moves bot
    have later := other_records config draws (moves ++ [move]) bot
    rw [after, only.slots] at later
    rw [later, before]

/-- While one bot runs, another one is launched, and restarting it leaves the first one ticking. -/
theorem bots_do_not_interfere_restarted :
    let launch : Move := .operate (.launch "print()" "123456:token" (.str "python"))
    let b := (opening (.ofLists [] [])).run .silent (Move.firstLaunch ++ [launch])
    let b' := b.step .silent (.operate (.restart 2))
    b.client? (.operate (.restart 2)) = some 2 ∧ b.isTicking 1 = true ∧
      b'.share 1 = b.share 1 ∧ b'.isTicking 1 = true := by
  intro launch b b'
  have ticks : b.isTicking 1 = true := by decide +kernel
  obtain ⟨others, -⟩ := bots_do_not_interfere .silent (.ofLists [] [])
    (Move.firstLaunch ++ [launch]) (.operate (.restart 2)) 2 rfl
  obtain ⟨same, still, -⟩ := others 1 (by decide)
  exact ⟨rfl, ticks, same, still.trans ticks⟩

end Bench

end BotBench
