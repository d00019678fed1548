import BotBench.Proofs.Bench.Transition

/-! # Stale sequences

A generation of a bot is stale once a later generation is the current one or the bot is gone. The
generations of a bot never decrease and the number of a bot is never given out again, so that what
is stale stays stale; and a sequence of a stale generation, wherever it goes on, does nothing
(`BotBench.Bench.stale_sequence_idle`). Nothing is assumed here about the tasks of the bench, which
may hold sequences of any generation. -/

namespace BotBench

namespace View

/-- Every bot has a number that has been given out. -/
def Listed (v : View) : Prop := ∀ id record, v.record id = some record → id < v.nextId

/-- From one view to another, generations have not decreased and new bots have new numbers. -/
structure Precedes (before after : View) : Prop where
  numbers : before.nextId ≤ after.nextId
  generations : ∀ {id record record'}, before.record id = some record →
    after.record id = some record' → record.generation ≤ record'.generation
  issued : ∀ {id record'}, before.record id = none → after.record id = some record' →
    before.nextId ≤ id ∧ id < after.nextId

variable {v v' v'' : View}

theorem Precedes.of_same (records : v'.record = v.record) (numbers : v'.nextId = v.nextId) :
    Precedes v v' := by
  refine ⟨Int.le_of_eq numbers.symm, ?_, ?_⟩
  · intro id record record' found found'
    rw [records, found, Option.some.injEq] at found'
    exact Int.le_of_eq (congrArg Record.generation found')
  · intro id record' missing found
    rw [records, missing] at found
    contradiction

theorem Precedes.write {id : Int} {old record : Record} (found : v.record id = some old)
    (older : old.generation ≤ record.generation) : Precedes v (v.write id record) := by
  refine ⟨Int.le_refl _, ?_, ?_⟩
  · intro other record' record'' before after
    rw [record_write] at after
    split at after
    · rename_i same
      subst same
      rw [found, Option.some.injEq] at before
      rw [Option.some.injEq] at after
      rw [← before, ← after]
      exact older
    · rw [before, Option.some.injEq] at after
      exact Int.le_of_eq (congrArg Record.generation after)
  · intro other record' missing after
    rw [record_write] at after
    split at after
    · rename_i same
      subst same
      rw [found] at missing
      contradiction
    · rw [missing] at after
      contradiction

theorem Precedes.erase (v : View) (id : Int) : Precedes v (v.erase id) := by
  refine ⟨Int.le_refl _, ?_, ?_⟩
  · intro other record record' before after
    rw [record_erase] at after
    split at after
    · contradiction
    · rw [before, Option.some.injEq] at after
      exact Int.le_of_eq (congrArg Record.generation after)
  · intro other record' missing after
    rw [record_erase] at after
    split at after
    · contradiction
    · rw [missing] at after
      contradiction

theorem Precedes.enter (listed : v.Listed) (record : Record) : Precedes v (v.enter record) := by
  refine ⟨Int.le_of_lt (Int.lt_succ v.nextId), ?_, ?_⟩
  · intro other record' record'' before after
    have apart : other ≠ v.nextId := Int.ne_of_lt (listed _ _ before)
    rw [record_enter, if_neg apart, before, Option.some.injEq] at after
    exact Int.le_of_eq (congrArg Record.generation after)
  · intro other record' missing after
    rw [record_enter] at after
    split at after
    · rename_i same
      subst same
      exact ⟨Int.le_refl _, Int.lt_succ _⟩
    · rw [missing] at after
      contradiction

/-- What precedes is followed by bots that have their numbers, too. -/
theorem Precedes.listed (passed : Precedes v v') (listed : v.Listed) : v'.Listed := by
  intro id record found
  cases before : v.record id with
  | none => exact (passed.issued before found).2
  | some old => exact Int.lt_of_lt_of_le (listed _ _ before) passed.numbers

theorem Precedes.trans (listed : v.Listed) (first : Precedes v v') (second : Precedes v' v'') :
    Precedes v v'' := by
  refine ⟨Int.le_trans first.numbers second.numbers, ?_, ?_⟩
  · intro id record record'' before after
    cases middle : v'.record id with
    | none =>
        have issued := second.issued middle after
        have lists := listed _ _ before
        have numbers := first.numbers
        omega
    | some record' =>
        exact Int.le_trans (first.generations before middle) (second.generations middle after)
  · intro id record'' missing after
    cases middle : v'.record id with
    | none =>
        have issued := second.issued middle after
        exact ⟨Int.le_trans first.numbers issued.1, issued.2⟩
    | some record' =>
        have issued := first.issued missing middle
        exact ⟨issued.1, Int.lt_of_lt_of_le issued.2 second.numbers⟩

/-- Views that differ in what acts and in the tables only are followed by the same views. -/
theorem Precedes.of_records {w : View} (passed : Precedes v w) (records : v'.record = w.record)
    (numbers : v'.nextId = w.nextId) : Precedes v v' := by
  refine ⟨?_, ?_, ?_⟩
  · rw [numbers]
    exact passed.numbers
  · rw [records]
    exact passed.generations
  · rw [records, numbers]
    exact passed.issued

/-- The pending tasks of a bot end before its record changes. -/
theorem Precedes.rest {id : Int} {old record : Record} (found : v.record id = some old)
    (older : old.generation ≤ record.generation) :
    Precedes v ((v.interrupt id).write id record) := by
  refine (Precedes.write found older).of_records ?_ (nextId_interrupt v id)
  funext other
  rw [record_write, record_write, record_interrupt]

theorem Precedes.remove (v : View) (id : Int) : Precedes v ((v.interrupt id).erase id) := by
  refine (Precedes.erase v id).of_records ?_ (nextId_interrupt v id)
  funext other
  rw [record_erase, record_erase, record_interrupt]

/-- Every transition leads on. -/
theorem Transition.precedes {least : Int} (listed : v.Listed) {event : Option Event}
    {passage : Option Passage} (moved : Transition least v event passage v') : Precedes v v' := by
  cases moved with
  | launch name face => exact (Precedes.enter listed _).of_records rfl rfl
  | @update id record code token language named answer found name face =>
      have older : record.generation ≤ (record.reconfigured code token named).generation :=
        Int.le_of_lt (Int.lt_succ _)
      exact (Precedes.rest found older).of_records rfl rfl
  | @restart id record answer found face =>
      have older : record.generation ≤ record.renewed.generation := Int.le_of_lt (Int.lt_succ _)
      exact (Precedes.rest found older).of_records rfl rfl
  | @stop id record answer found face =>
      have older : record.generation ≤ record.halted.generation := Int.le_of_lt (Int.lt_succ _)
      exact Precedes.rest found older
  | delete found => exact Precedes.remove v _
  | turn found running turn =>
      obtain ⟨record, messages, found', rfl⟩ := turn
      exact Precedes.write found' (Int.le_refl _)
  | @leg task routine id generation record leg acts belongs found goes =>
      have older : record.generation ≤ (record.marked leg.outcome).generation := Int.le_refl _
      refine (Precedes.write found older).of_records ?_ (nextId_goLeg ..)
      funext other
      rw [record_goLeg, record_write]
  | begin acts => exact .of_same rfl rfl
  | @tick task id record cpuUsage ramUsage acts found running =>
      have older : record.generation ≤ { record with cpuUsage, ramUsage : Record }.generation :=
        Int.le_refl _
      exact (Precedes.write found older).of_records rfl rfl
  | @halt task id record acts found running =>
      have older : record.generation ≤ { record with status := .error : Record }.generation :=
        Int.le_refl _
      refine (Precedes.write found older).of_records ?_ (nextId_dropTicker v id)
      funext other
      rw [record_write, record_write, record_dropTicker]
  | idle counts => exact .of_same rfl rfl

end View

namespace Bench

open View (Precedes)

variable {config : Config} {b b' : Bench}

/-! ## What a move does to the registry -/

@[simp] theorem registry_leaveTicker (b : Bench) (id : Int) (task : Nat) :
    (b.leaveTicker id task).registry = b.registry := by
  unfold leaveTicker
  split <;> rfl

@[simp] theorem registry_finish (b : Bench) (task : Nat) (answer : Option Answer) :
    (b.finish task answer).registry = b.registry := by
  unfold finish
  split <;> rfl

/-- A callback that resumes no task to let it go on leaves the records as they are. -/
theorem registry_unresumed {place : Nat} (still : b.resumed? (.callback place) = none) :
    (b.step config (.callback place)).registry = b.registry := by
  change (b.runAt config place).registry = _
  unfold resumed? at still
  dsimp only at still
  unfold runAt
  cases queue : b.ready[place]? with
  | none => rfl
  | some callback =>
      cases callback with
      | notify task =>
          change (Bench.notify _ task).registry = _
          unfold notify
          split
          · rfl
          · split <;> rfl
      | resume task =>
          rw [queue] at still
          dsimp only at still
          change (Bench.resume _ _ task).registry = _
          unfold resume
          dsimp only
          cases present : b.tasks[task]? with
          | none => rfl
          | some found =>
              rw [present] at still
              dsimp only at still ⊢
              split
              · rfl
              · rename_i state
                have queued : found.state = .queued := by simpa using state
                have ended : found.cancelled = true := by simpa [queued] using still
                rw [if_pos ended]
                unfold unwind
                dsimp only
                rw [registry_finish]
                split
                · exact registry_leaveTicker ..
                · rfl

@[simp] theorem registry_taken (b : Bench) (move : Move) :
    (b.taken move).registry = b.registry := by
  cases move <;> rfl

/-- A move does to the registry what its operation does, or else what the task that it resumes does
before its verdict is obeyed. -/
theorem registry_step (config : Config) (b : Bench) (move : Move) :
    (b.step config move).registry =
      match b.operation? move, b.resumed? move with
      | some operation, _ => ((b.taken move).operate config operation).registry
      | none, some (task, routine) => ((b.taken move).perform config task routine).1.registry
      | none, none => b.registry := by
  cases move with
  | operate operation => rfl
  | call call => rfl
  | awaitIdle bot => rfl
  | callback place =>
      unfold operation?
      dsimp only
      cases resumed : b.resumed? (.callback place) with
      | none => exact registry_unresumed resumed
      | some pair =>
          obtain ⟨task, found, queue, present, queued, kept, rfl⟩ := of_resumed? resumed
          have stepped : (b.step config (.callback place)).registry =
              ((b.taken (.callback place)).perform config task found.routine).1.registry := by
            rw [step_of_queue queue,
              resume_of_queued (b := b.taken (.callback place)) config present queued kept,
              registry_obey]
          rw [stepped]
          cases routine : found.routine with
          | serve call =>
              obtain ⟨operated, -⟩ := serve_operates config (b.taken (.callback place)) call
              dsimp only
              cases carried : call.operation? with
              | none => rfl
              | some operation =>
                  rw [carried] at operated
                  exact congrArg Bench.registry operated
          | _ => rfl
  | wake task =>
      change (b.wake task).registry = _
      unfold wake
      split
      · split <;> rfl
      · rfl
  | clock time => rfl

/-- A move that resumes a call and carries out no operation leaves the bench to the call alone. -/
theorem perform_unasked (config : Config) {move : Move} {task : Nat} {call : Call}
    (unasked : b.operation? move = none) (resumed : b.resumed? move = some (task, .serve call))
    (b' : Bench) : (b'.perform config task (.serve call)).1 = b' := by
  have idle : call.operation? = none := by
    cases move with
    | callback place =>
        unfold operation? at unasked
        rw [resumed] at unasked
        exact unasked
    | _ => contradiction
  have operated := (serve_operates config b' call).1
  rw [idle] at operated
  exact operated

/-! ## The generations of a run -/

/-- Benches with the same registry follow the same benches. -/
theorem precedes_of_registry {v : View} (passed : Precedes v b.view)
    (same : b'.registry = b.registry) : Precedes v b'.view := by
  refine passed.of_records ?_ ?_
  · change (fun id => (b'.registry.find? id).map Record.unlogged) = _
    rw [same]
    rfl
  · change b'.registry.nextId = _
    rw [same]
    rfl

/-- A sequence of a generation that is not the current one does nothing. -/
theorem perform_of_not_current (config : Config) {routine : Routine} {id generation : Int}
    (belongs : routine.sequence? = some (id, generation))
    (stale : b.isCurrent id generation = false) (task : Nat) :
    (b.perform config task routine).1 = b := by
  cases routine with
  | connect bot number stage =>
      simp only [Routine.sequence?, Option.some.injEq, Prod.mk.injEq] at belongs
      obtain ⟨rfl, rfl⟩ := belongs
      change (b.connect config bot number stage).1 = b
      unfold connect
      rw [stale]
      rfl
  | redeploy bot number line slept =>
      simp only [Routine.sequence?, Option.some.injEq, Prod.mk.injEq] at belongs
      obtain ⟨rfl, rfl⟩ := belongs
      change (b.redeploy config bot number line slept).1 = b
      unfold redeploy
      cases slept with
      | false => rfl
      | true =>
          rw [stale]
          rfl
  | _ => contradiction

theorem operate_precedes (config : Config) (listed : b.view.Listed) (operation : Operation) :
    Precedes b.view (b.operate config operation).view := by
  by_cases final : operation = .shutdown
  · subst final
    obtain ⟨acting, same, -⟩ := view_shutdown b
    change Precedes b.view b.shutdown.view
    rw [same]
    exact .of_same rfl rfl
  · have fresh : b.view.record b.view.nextId = none := by
      cases found : b.view.record b.view.nextId with
      | none => rfl
      | some record => exact absurd (listed _ _ found) (Int.lt_irrefl _)
    have moved : b.view.Transition 0 _ none _ := operate_transition config fresh final
    exact moved.precedes listed

/-- Whatever a task does when it is resumed, generations do not decrease. -/
theorem perform_precedes (config : Config) (listed : b.view.Listed) (task : Nat)
    (routine : Routine) : Precedes b.view (b.perform config task routine).1.view := by
  have sequence {id generation : Int} (belongs : routine.sequence? = some (id, generation)) :
      Precedes b.view (b.perform config task routine).1.view := by
    cases current : b.isCurrent id generation with
    | false =>
        rw [perform_of_not_current config belongs current]
        exact .of_same rfl rfl
    | true =>
        obtain ⟨record, found, same⟩ := isCurrent_eq_true_iff.mp current
        obtain ⟨done, wrote, performed⟩ := perform_sequence config belongs found same task
        have passed : Precedes b.view done.view := by
          rw [wrote.view]
          exact Precedes.write (view_of_find? found) (Int.le_refl _)
        rw [performed]
        dsimp only
        split
        · exact precedes_of_registry passed (registry_startTicker done id)
        · exact passed
  cases routine with
  | connect bot generation stage => exact sequence rfl
  | redeploy bot generation line slept => exact sequence rfl
  | ticker bot slept =>
      cases slept with
      | false => exact .of_same rfl rfl
      | true =>
          have ticked : Precedes b.view (b.tick config bot).2.view := by
            rcases tick_cases config b bot with
              ⟨record, cpuUsage, ramUsage, found, -, -, after⟩ | ⟨record, found, -, -, after⟩ |
              ⟨-, -, after⟩
            · rw [after]
              exact Precedes.write found (Int.le_refl _)
            · rw [after]
              exact Precedes.write found (Int.le_refl _)
            · rw [after]
              exact .of_same rfl rfl
          rw [perform_ticker]
          split
          · exact precedes_of_registry ticked rfl
          · exact precedes_of_registry ticked (registry_leaveTicker ..)
  | awaitIdle bot waited =>
      unfold perform
      dsimp only
      split <;> exact .of_same rfl rfl
  | serve call =>
      obtain ⟨operated, -⟩ := serve_operates config b call
      change Precedes b.view (b.serve config call).1.view
      rw [operated]
      split
      · exact operate_precedes config listed _
      · exact .of_same rfl rfl
  | report status bot => exact .of_same rfl rfl

/-- Every move leads on, whatever the tasks of the bench are. -/
theorem step_precedes (config : Config) (listed : b.view.Listed) (move : Move) :
    Precedes b.view (b.step config move).view := by
  have idle : Precedes b.view (b.taken move).view :=
    precedes_of_registry (b := b) (.of_same rfl rfl) (registry_taken b move)
  have taken := idle.listed listed
  have done := registry_step config b move
  cases carried : b.operation? move with
  | some operation =>
      rw [carried] at done
      exact precedes_of_registry (idle.trans listed (operate_precedes config taken operation)) done
  | none =>
      cases resumed : b.resumed? move with
      | none =>
          rw [carried, resumed] at done
          exact precedes_of_registry (b := b) (.of_same rfl rfl) done
      | some pair =>
          rw [carried, resumed] at done
          exact precedes_of_registry (idle.trans listed (perform_precedes config taken _ _)) done

/-- Every run leads on, whatever the tasks of the bench are. -/
theorem run_precedes (config : Config) (listed : b.view.Listed) (moves : List Move) :
    Precedes b.view (b.run config moves).view := by
  -- that every bot is listed is all that is asked of the bench, and `Precedes` carries it along
  apply run_keeps (motive := fun b' => Precedes b.view b'.view)
  · intro b' move _ passed
    exact passed.trans listed (step_precedes config (passed.listed listed) move)
  · exact .of_same rfl rfl

theorem listed_run (config : Config) (draws : Draws) (moves : List Move) :
    ((opening draws).run config moves).view.Listed := by
  refine (run_precedes config ?_ moves).listed ?_ <;>
    · intro id record found
      simp [view, opening, Registry.find?] at found

/-! ## Staleness -/

/-- A generation of a bot is stale: a later generation is the current one, or the bot is gone and
its number lies below the next one to be given out. -/
def Stale (b : Bench) (id generation : Int) : Prop :=
  match b.registry.find? id with
  | some record => generation < record.generation
  | none => id < b.registry.nextId

instance (b : Bench) (id generation : Int) : Decidable (b.Stale id generation) :=
  match found : b.registry.find? id with
  | some record => decidable_of_iff (generation < record.generation) (by rw [Stale, found])
  | none => decidable_of_iff (id < b.registry.nextId) (by rw [Stale, found])

theorem Stale.not_current {id generation : Int} (stale : b.Stale id generation) :
    b.isCurrent id generation = false := by
  unfold Stale at stale
  unfold isCurrent
  cases found : b.registry.find? id with
  | none => rfl
  | some record =>
      rw [found] at stale
      simp only [beq_eq_false_iff_ne, ne_eq]
      exact Int.ne_of_gt stale

/-- What is stale stays stale. -/
theorem Stale.precedes {id generation : Int} (stale : b.Stale id generation)
    (listed : b.view.Listed) (passed : Precedes b.view b'.view) : b'.Stale id generation := by
  have numbers : b.registry.nextId ≤ b'.registry.nextId := passed.numbers
  unfold Stale at stale ⊢
  cases found : b.registry.find? id with
  | none =>
      rw [found] at stale
      cases found' : b'.registry.find? id with
      | none => exact Int.lt_of_lt_of_le stale numbers
      | some record' =>
          have issued := passed.issued (view_eq_none_iff.mpr found) (view_of_find? found')
          exact absurd stale (Int.not_lt.mpr issued.1)
  | some record =>
      rw [found] at stale
      cases found' : b'.registry.find? id with
      | none => exact Int.lt_of_lt_of_le (listed _ _ (view_of_find? found)) numbers
      | some record' =>
          have later : record.unlogged.generation ≤ record'.unlogged.generation :=
            passed.generations (view_of_find? found) (view_of_find? found')
          exact Int.lt_of_lt_of_le stale later

/-- Between two benches the records, both tables, the bench's own log and the number of tasks are
the same. -/
structure Untouched (b b' : Bench) : Prop where
  registry : b'.registry = b.registry
  sequencers : b'.sequencers = b.sequencers
  tickers : b'.tickers = b.tickers
  log : b'.log = b.log
  tasks : b'.tasks.length = b.tasks.length

theorem Untouched.finish (b : Bench) (task : Nat) (answer : Option Answer) :
    Untouched b (b.finish task answer) := by
  unfold Bench.finish
  split
  · exact ⟨rfl, rfl, rfl, rfl, rfl⟩
  · exact ⟨rfl, rfl, rfl, rfl, List.length_modify ..⟩

theorem Untouched.sleep (config : Config) (b : Bench) (task : Nat) (span : Span)
    (routine : Routine) : Untouched b (b.sleep config task span routine) := by
  unfold Bench.sleep
  cases span with
  | finite seconds =>
      dsimp only
      split
      · exact ⟨rfl, rfl, rfl, rfl, List.length_modify ..⟩
      · exact ⟨rfl, rfl, rfl, rfl, List.length_modify ..⟩
  | endless => exact ⟨rfl, rfl, rfl, rfl, List.length_modify ..⟩

/-- A sequence sleeps or is over, and never waits. -/
theorem Untouched.obey_pace (config : Config) (b : Bench) (task : Nat) (pace : Pace) :
    Untouched b (b.obey config task pace.verdict) := by
  cases pace with
  | sleep delay routine => exact .sleep ..
  | done => exact .finish ..

/-- Resuming a sequence of a stale generation, cancelled or not, touches nothing. -/
theorem Stale.untouched {id generation : Int} (stale : b.Stale id generation) (config : Config)
    {task place : Nat} {found : Task} (queue : b.ready[place]? = some (.resume task))
    (present : b.tasks[task]? = some found)
    (belongs : found.routine.sequence? = some (id, generation)) :
    Untouched b (b.step config (.callback place)) := by
  have taken : Untouched b (b.taken (.callback place)) := ⟨rfl, rfl, rfl, rfl, rfl⟩
  have taken_of {b' : Bench} (same : Untouched (b.taken (.callback place)) b') : Untouched b b' :=
    ⟨same.registry, same.sequencers, same.tickers, same.log, same.tasks⟩
  rw [step_of_queue queue]
  unfold resume
  split
  · exact taken
  · rename_i found' present'
    have same : found' = found := by
      change b.tasks[task]? = some found' at present'
      rw [present, Option.some.injEq] at present'
      exact present'.symm
    subst same
    split
    · exact taken
    · split
      · have unwound : (b.taken (.callback place)).unwind task found'.routine =
            (b.taken (.callback place)).finish task none := by
          unfold unwind
          cases routine : found'.routine with
          | ticker bot slept =>
              rw [routine] at belongs
              contradiction
          | _ => rfl
        rw [unwound]
        exact taken_of (.finish ..)
      · have idle := perform_of_not_current (b := b.taken (.callback place)) config belongs
          stale.not_current task
        obtain ⟨pace, verdict⟩ : ∃ pace : Pace, ((b.taken (.callback place)).perform config task
            found'.routine).2 = pace.verdict := by
          cases routine : found'.routine with
          | connect bot number stage => exact ⟨_, rfl⟩
          | redeploy bot number line slept => exact ⟨_, rfl⟩
          | _ =>
              rw [routine] at belongs
              contradiction
        change Untouched b (((b.taken (.callback place)).perform config task
          found'.routine).1.obey config task
            ((b.taken (.callback place)).perform config task found'.routine).2)
        rw [idle, verdict]
        exact taken_of (.obey_pace ..)

/-- **Stale sequences do nothing.** Take a bench whose registry some run has produced, with any
tasks whatever, and a generation that is stale there. In every continuation the generation stays
stale, and a sequence of it changes nothing when it is resumed, wherever it goes on and whether or
not it is cancelled. The generations of a bot do not decrease, and a bot that is gone does not come
back. -/
theorem stale_sequence_idle (config : Config) (draws : Draws) (before : List Move) (b : Bench)
    (records : b.registry = ((opening draws).run config before).registry) (id generation : Int)
    (stale : b.Stale id generation) (more : List Move) :
    let b' := b.run config more
    b'.Stale id generation ∧
      (∀ task routine, routine.sequence? = some (id, generation) →
        (b'.perform config task routine).1 = b') ∧
      (∀ place task found, b'.ready[place]? = some (.resume task) →
        b'.tasks[task]? = some found → found.routine.sequence? = some (id, generation) →
        Untouched b' (b'.step config (.callback place))) ∧
      (∀ other record record', b.registry.find? other = some record →
        b'.registry.find? other = some record' → record.generation ≤ record'.generation) ∧
      ∀ other < b.registry.nextId, b.registry.find? other = none →
        b'.registry.find? other = none := by
  intro b'
  have listed : b.view.Listed := by
    have passed : Precedes ((opening draws).run config before).view b.view :=
      precedes_of_registry (.of_same rfl rfl) records
    exact passed.listed (listed_run config draws before)
  have passed : Precedes b.view b'.view := run_precedes config listed more
  have still : b'.Stale id generation := stale.precedes listed passed
  refine ⟨still, ?_, ?_, ?_, ?_⟩
  · intro task routine belongs
    exact perform_of_not_current config belongs still.not_current task
  · intro place task found queue present belongs
    exact still.untouched config queue present belongs
  · intro other record record' found found'
    have later : record.unlogged.generation ≤ record'.unlogged.generation :=
      passed.generations (view_of_find? found) (view_of_find? found')
    exact later
  · intro other given missing
    cases found : b'.registry.find? other with
    | none => rfl
    | some record =>
        have issued := passed.issued (view_eq_none_iff.mpr missing) (view_of_find? found)
        exact absurd given (Int.not_lt.mpr issued.1)

/-- After the first launch and a restart, the last step of the launch would do nothing, had it been
left behind. -/
theorem stale_sequence_idle_restarted :
    let b := ((opening (.ofLists [] [])).run .silent
      (Move.firstLaunch ++ [.operate (.restart 1)])).spawn (.connect 1 0 .finish) |>.2
    b.Stale 1 0 ∧ (b.perform .silent 2 (.connect 1 0 .finish)).1 = b := by
  intro b
  have stale : b.Stale 1 0 := by
    unfold b
    decide +kernel
  obtain ⟨-, idle, -⟩ := stale_sequence_idle .silent (.ofLists [] [])
    (Move.firstLaunch ++ [.operate (.restart 1)]) b rfl 1 0 stale []
  exact ⟨stale, idle 2 (.connect 1 0 .finish) rfl⟩

end Bench

end BotBench
