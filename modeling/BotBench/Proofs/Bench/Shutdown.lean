import BotBench.Proofs.Bench.Schedule
import BotBench.Proofs.Bench.Staleness
import BotBench.Proofs.Bench.Ticking

/-! # Shutdown

A shutdown raises no generation, so that no step is stale after it. It silences the bench all the
same: in a sound view every live sequence and every live ticker stands in one of the two tables, and
what stands there is cancelled. The bench then stands still (`BotBench.Bench.Still`) until an
operation of a user is carried out (`BotBench.Bench.shutdown_final`), whichever callbacks run,
whichever tasks wake and however much time passes. -/

namespace BotBench

namespace Bench

variable {config : Config} {b b' : Bench}

/-- The operations that the moves of a run carry out, those of the calls that are begun among them.
-/
def operations (config : Config) (b : Bench) (moves : List Move) : List Operation :=
  chronicle config operation? b moves

/-- The bench `b'` has the bots and the log of the bench `b`, both tables are empty, and no task
acts on a bot. -/
structure Still (b b' : Bench) : Prop where
  registry : b'.registry = b.registry
  log : b'.log = b.log
  sequencers : b'.sequencers = []
  tickers : b'.tickers = []
  idle : ∀ task, b'.acting? task = none

/-! ## What a shutdown leaves -/

theorem eq_nil_of_entry? {α : Type} {table : List (Int × α)}
    (empty : ∀ key, entry? table key = none) : table = [] := by
  cases table with
  | nil => rfl
  | cons head rest =>
      have missing := empty head.1
      rw [entry?_cons, if_pos rfl] at missing
      contradiction

/-- What cancelling a task and ending a ticker keep, a shutdown keeps. -/
theorem shutdown_keeps {motive : Bench → Prop} (b : Bench)
    (cancel : ∀ b id, motive b → motive (b.cancel id))
    (tables : ∀ b sequencers tickers, motive b →
      motive { b with sequencers := sequencers, tickers := tickers })
    (holds : motive b) : motive b.shutdown := by
  have cancelled : motive ((b.sequencers.map (·.2)).foldl Bench.cancel b) :=
    List.foldlRecOn _ _ holds fun b holds id _ => cancel b id holds
  refine List.foldlRecOn _ _ (tables _ [] _ cancelled) ?_
  intro b holds id _
  unfold stopTicker
  split
  · exact cancel _ _ (tables b b.sequencers _ holds)
  · exact holds

@[simp] theorem log_cancel (b : Bench) (id : Nat) : (b.cancel id).log = b.log := by
  unfold cancel
  split
  · rfl
  · split <;> rfl

@[simp] theorem registry_shutdown (b : Bench) : b.shutdown.registry = b.registry := by
  apply shutdown_keeps (motive := fun b' => b'.registry = b.registry)
  · intro b' id kept
    rw [registry_cancel]
    exact kept
  · intro b' _ _ kept
    exact kept
  · rfl

@[simp] theorem log_shutdown (b : Bench) : b.shutdown.log = b.log := by
  apply shutdown_keeps (motive := fun b' => b'.log = b.log)
  · intro b' id kept
    rw [log_cancel]
    exact kept
  · intro b' _ _ kept
    exact kept
  · rfl

/-- In a sound view a shutdown cancels whatever acts on a bot. -/
theorem still_shutdown {least : Int} (sound : b.view.Sound least) : Still b b.shutdown := by
  obtain ⟨acting, same, spared⟩ := view_shutdown b
  refine ⟨registry_shutdown b, log_shutdown b, ?_, ?_, ?_⟩
  · exact eq_nil_of_entry? fun id => congrFun (congrArg View.sequencer same) id
  · exact eq_nil_of_entry? fun id => congrFun (congrArg View.ticker same) id
  · intro task
    have left : b.shutdown.acting? task = acting task := congrFun (congrArg View.acting same) task
    rw [left]
    cases still : acting task with
    | none => rfl
    | some routine =>
        obtain ⟨acts, absent⟩ := spared task routine still
        obtain ⟨-, -, -, -, kind, -⟩ := acting?_eq_some_iff.mp acts
        cases routine with
        | connect id generation stage =>
            exact absurd (sound.sequence acts rfl).1 (absent id).1
        | redeploy id generation line slept =>
            exact absurd (sound.sequence acts rfl).1 (absent id).1
        | ticker id slept => exact absurd (sound.watcher acts) (absent id).2
        | _ => contradiction

/-! ## Moves of a bench that stands still -/

theorem Still.finish (still : Still b b') (task : Nat) (answer : Option Answer) :
    Still b (b'.finish task answer) := by
  have untouched := Untouched.finish b' task answer
  refine ⟨untouched.registry.trans still.registry, untouched.log.trans still.log,
    untouched.sequencers.trans still.sequencers, untouched.tickers.trans still.tickers, ?_⟩
  intro other
  change (b'.finish task answer).view.acting other = none
  rw [view_finish, View.acting_proceed]
  split
  · rfl
  · exact still.idle other

theorem Still.of_view {b'' : Bench} (still : Still b b') (registry : b''.registry = b'.registry)
    (log : b''.log = b'.log) (sequencers : b''.sequencers = b'.sequencers)
    (tickers : b''.tickers = b'.tickers) (acting : b''.view.acting = b'.view.acting) :
    Still b b'' := by
  refine ⟨registry.trans still.registry, log.trans still.log, sequencers.trans still.sequencers,
    tickers.trans still.tickers, ?_⟩
  intro task
  exact (congrFun acting task).trans (still.idle task)

theorem Still.spawn (still : Still b b') {routine : Routine} (aside : routine.acts = false) :
    Still b (b'.spawn routine).2 :=
  still.of_view rfl rfl rfl rfl (by rw [view_spawn_of_not_acts b' aside])

/-- A bench that stands still is shut down already. -/
theorem Still.shutdown (still : Still b b') : b'.shutdown = b' := by
  have empty : ({ b' with sequencers := [] } : Bench) = b' := by
    rw [← still.sequencers]
  unfold Bench.shutdown stopAllTickers
  rw [still.sequencers, List.map_nil, List.foldl_nil, empty]
  dsimp only
  rw [still.tickers, List.map_nil, List.foldl_nil]

/-- What does not act only ends when it is unwound. -/
theorem Still.unwind (still : Still b b') (id : Nat) (routine : Routine) :
    b'.unwind id routine = b'.finish id none := by
  unfold Bench.unwind
  split
  · unfold leaveTicker
    rw [still.tickers]
    rfl
  · rfl

/-- A queued task that has not been cancelled does not act. -/
theorem Still.aside (still : Still b b') {id : Nat} {task : Task}
    (present : b'.tasks[id]? = some task) (queued : task.state = .queued)
    (kept : task.cancelled = false) : task.routine.acts = false := by
  have idle := still.idle id
  rw [acting?, present] at idle
  simpa [Task.acting?, queued, kept] using idle

/-- A call that carries out no operation is answered at once. -/
theorem serve_of_unasked (config : Config) (b : Bench) {id : Nat} {call : Call}
    (unasked : call.operation? = none) :
    ∃ answer, (b.serve config call).1.obey config id (b.serve config call).2 =
      b.finish id answer := by
  have unchanged := (serve_operates config b call).1
  rw [unasked] at unchanged
  rw [unchanged]
  cases call with
  | list => exact ⟨_, rfl⟩
  | «show» bot =>
      unfold Bench.serve
      dsimp only
      split <;> exact ⟨_, rfl⟩
  | send bot text =>
      have blank : Text.isAllBlank text = true := by
        simpa [Call.operation?] using unasked
      unfold Bench.serve
      simp only [blank]
      exact ⟨_, rfl⟩
  | _ => contradiction

/-- A task that is resumed while the bench stands still comes to its end, unless it begins a call
that carries out an operation. -/
theorem Still.resume (still : Still b b') (config : Config) {id : Nat}
    (unbidden : ∀ task call, b'.tasks[id]? = some task → task.state = .queued →
      task.cancelled = false → task.routine = .serve call → call.operation? = none) :
    b'.resume config id = b' ∨ ∃ answer, b'.resume config id = b'.finish id answer := by
  cases present : b'.tasks[id]? with
  | none =>
      left
      unfold Bench.resume
      rw [present]
  | some task =>
      by_cases queued : task.state = .queued
      · right
        cases kept : task.cancelled with
        | true =>
            have unwound : b'.resume config id = b'.unwind id task.routine := by
              unfold Bench.resume
              rw [present]
              simp [queued, kept]
            exact ⟨none, unwound.trans (still.unwind id task.routine)⟩
        | false =>
            have resting := still.aside present queued kept
            rw [resume_of_queued config present queued kept]
            cases routine : task.routine with
            | awaitIdle bot waited =>
                refine ⟨none, ?_⟩
                unfold perform
                rw [still.sequencers]
                cases waited <;> rfl
            | serve call =>
                exact serve_of_unasked config b' (unbidden task call present queued kept routine)
            | report status bot => exact ⟨_, rfl⟩
            | _ =>
                rw [routine] at resting
                contradiction
      · left
        unfold Bench.resume
        rw [present]
        simp [queued]

theorem Still.notify (still : Still b b') (id : Nat) : Still b (b'.notify id) := by
  have untouched : Untouched b' (b'.notify id) := by
    unfold Bench.notify
    split
    · exact ⟨rfl, rfl, rfl, rfl, rfl⟩
    · split
      · exact ⟨rfl, rfl, rfl, rfl, List.length_modify ..⟩
      · exact ⟨rfl, rfl, rfl, rfl, rfl⟩
  exact still.of_view untouched.registry untouched.log untouched.sequencers untouched.tickers
    (by rw [view_notify])

theorem Still.wake (still : Still b b') (id : Nat) : Still b (b'.wake id) := by
  have untouched : Untouched b' (b'.wake id) := by
    unfold Bench.wake
    split
    · split
      · exact ⟨rfl, rfl, rfl, rfl, List.length_modify ..⟩
      · exact ⟨rfl, rfl, rfl, rfl, rfl⟩
    · exact ⟨rfl, rfl, rfl, rfl, rfl⟩
  exact still.of_view untouched.registry untouched.log untouched.sequencers untouched.tickers
    (by rw [view_wake])

/-- No call shuts the bench down. -/
theorem operation?_ne_shutdown (call : Call) : call.operation? ≠ some .shutdown := by
  cases call with
  | send bot text =>
      unfold Call.operation?
      dsimp only
      split <;> simp
  | _ => simp [Call.operation?]

/-- A move that carries out no operation but another shutdown begins no call with an operation. -/
theorem unbidden_of_operation? {place task : Nat}
    (queue : b.ready[place]? = some (.resume task))
    (unoperated : ∀ operation, b.operation? (.callback place) = some operation →
      operation = .shutdown) :
    ∀ found call, b.tasks[task]? = some found → found.state = .queued →
      found.cancelled = false → found.routine = .serve call → call.operation? = none := by
  intro found call present queued kept serves
  have begun : b.operation? (.callback place) = call.operation? := by
    unfold operation?
    dsimp only
    rw [resumed?_callback queue present queued kept, serves]
  rw [begun] at unoperated
  cases carried : call.operation? with
  | none => rfl
  | some operation =>
      obtain rfl := unoperated operation carried
      exact absurd carried (operation?_ne_shutdown call)

/-- A bench stands still under every move that carries out no operation but another shutdown. -/
theorem Still.step (still : Still b b') (config : Config) {move : Move}
    (unoperated : ∀ operation, b'.operation? move = some operation → operation = .shutdown) :
    Still b (b'.step config move) := by
  cases move with
  | operate operation =>
      have final : operation = .shutdown := unoperated operation rfl
      subst final
      change Still b b'.shutdown
      rw [still.shutdown]
      exact still
  | call call => exact still.spawn rfl
  | awaitIdle bot => exact still.spawn rfl
  | callback place =>
      have taken : Still b (b'.taken (.callback place)) := still.of_view rfl rfl rfl rfl rfl
      cases queue : b'.ready[place]? with
      | none =>
          change Still b (b'.runAt config place)
          unfold runAt
          rw [queue]
          exact still
      | some callback =>
          cases callback with
          | resume task =>
              rw [step_of_queue queue]
              have unbidden := unbidden_of_operation? queue unoperated
              rcases taken.resume config unbidden with same | ⟨answer, ended⟩
              · rw [same]
                exact taken
              · rw [ended]
                exact taken.finish task answer
          | notify task =>
              have told : b'.step config (.callback place) =
                  (b'.taken (.callback place)).notify task := by
                change b'.runAt config place = _
                unfold runAt
                rw [queue]
                rfl
              rw [told]
              exact taken.notify task
  | wake task => exact still.wake task
  | clock time => exact still.of_view rfl rfl rfl rfl rfl

theorem Still.run (still : Still b b') {moves : List Move}
    (unoperated : ∀ operation ∈ b'.operations config moves, operation = .shutdown) :
    Still b (b'.run config moves) := by
  induction moves generalizing b' with
  | nil => exact still
  | cons move moves ih =>
      rw [operations, chronicle, List.forall_mem_append] at unoperated
      obtain ⟨first, rest⟩ := unoperated
      rw [run_cons]
      apply ih
      · apply still.step
        intro operation carried
        exact first operation (by rw [carried]; exact List.mem_singleton_self _)
      · exact rest

/-! ## Letting time pass -/

/-- No call that carries out an operation has still to be begun. -/
def Uncalled (b : Bench) : Prop :=
  ∀ (task : Nat) found call, b.tasks[task]? = some found → found.state ≠ .finished →
    found.routine = .serve call → call.operation? = none

theorem Uncalled.setTask (uncalled : b.Uncalled) {id : Nat} {change : Task → Task}
    (kept : ∀ task, b.tasks[id]? = some task → (change task).routine = task.routine ∧
      (task.state = .finished → (change task).state = .finished)) :
    (b.setTask id change).Uncalled := by
  intro other found call present unfinished serves
  rw [getElem?_setTask] at present
  split at present
  · rename_i same
    subst same
    obtain ⟨before, there, rfl⟩ := Option.map_eq_some_iff.mp present
    obtain ⟨routine, state⟩ := kept before there
    exact uncalled id before call there (mt state unfinished) (routine ▸ serves)
  · exact uncalled other found call present unfinished serves

theorem Uncalled.finish (uncalled : b.Uncalled) (task : Nat) (answer : Option Answer) :
    (b.finish task answer).Uncalled := by
  unfold Bench.finish
  split
  · exact uncalled
  · exact uncalled.setTask fun _ _ => ⟨rfl, fun _ => rfl⟩

theorem Uncalled.notify (uncalled : b.Uncalled) (id : Nat) : (b.notify id).Uncalled := by
  unfold Bench.notify
  split
  · exact uncalled
  · rename_i task present
    split
    · rename_i waiting
      change (b.setTask id _).Uncalled
      refine uncalled.setTask fun task' present' => ⟨rfl, fun finished => ?_⟩
      rw [present, Option.some.injEq] at present'
      subst present'
      simp [finished] at waiting
    · exact uncalled

theorem Uncalled.wake (uncalled : b.Uncalled) (id : Nat) : (b.wake id).Uncalled := by
  unfold Bench.wake
  split
  · rename_i task present
    split
    · rename_i asleep
      change (b.setTask id _).Uncalled
      refine uncalled.setTask fun task' present' => ⟨rfl, fun finished => ?_⟩
      rw [present, Option.some.injEq] at present'
      subst present'
      simp [finished] at asleep
    · exact uncalled
  · exact uncalled

/-- Where no call is left to be begun, the loop carries out no operation. -/
theorem Uncalled.operation?_eq_none (uncalled : b.Uncalled) {move : Move}
    (loop : move.ofLoop = true) : b.operation? move = none := by
  cases move with
  | callback place =>
      cases resumed : b.resumed? (.callback place) with
      | none =>
          unfold operation?
          dsimp only
          rw [resumed]
      | some pair =>
          obtain ⟨task, found, -, present, queued, -, rfl⟩ := of_resumed? resumed
          unfold operation?
          dsimp only
          rw [resumed]
          cases routine : found.routine with
          | serve call => exact uncalled task found call present (by simp [queued]) routine
          | _ => rfl
  | wake task => rfl
  | clock time => rfl
  | _ => contradiction

theorem Still.uncalled_step (still : Still b b') (uncalled : b'.Uncalled) (config : Config)
    {move : Move} (loop : move.ofLoop = true) : (b'.step config move).Uncalled := by
  cases move with
  | callback place =>
      have taken : Still b (b'.taken (.callback place)) := still.of_view rfl rfl rfl rfl rfl
      have untaken : (b'.taken (.callback place)).Uncalled := uncalled
      cases queue : b'.ready[place]? with
      | none =>
          change (b'.runAt config place).Uncalled
          unfold runAt
          rw [queue]
          exact uncalled
      | some callback =>
          cases callback with
          | resume task =>
              rw [step_of_queue queue]
              have unbidden := unbidden_of_operation? queue (fun operation carried => by
                rw [uncalled.operation?_eq_none rfl] at carried
                contradiction)
              rcases taken.resume config unbidden with same | ⟨answer, ended⟩
              · rw [same]
                exact untaken
              · rw [ended]
                exact untaken.finish task answer
          | notify task =>
              change (b'.runAt config place).Uncalled
              unfold runAt
              rw [queue]
              exact untaken.notify task
  | wake task => exact uncalled.wake task
  | clock time => exact uncalled
  | _ => contradiction

/-- Where no call is left to be begun, the bench stands still as long as the loop alone is at work.
-/
theorem Still.reaches (still : Still b b') (uncalled : b'.Uncalled) {b'' : Bench}
    (reached : Reaches config b' b'') : Still b b'' := by
  obtain ⟨moves, loop, rfl⟩ := reached
  have both : Still b (b'.run config moves) ∧ (b'.run config moves).Uncalled := by
    refine run_keeps (motive := fun b' => Still b b' ∧ b'.Uncalled) ?_ ⟨still, uncalled⟩
    rintro b' move member ⟨still, uncalled⟩
    refine ⟨still.step config ?_, still.uncalled_step uncalled config (loop move member)⟩
    intro operation carried
    rw [uncalled.operation?_eq_none (loop move member)] at carried
    contradiction
  exact both.1

theorem Still.isTicking (still : Still b b') (id : Int) : b'.isTicking id = false := by
  unfold Bench.isTicking
  rw [still.tickers]
  rfl

/-- **A shutdown is final until the next operation.** Shut a bench down at any point of any run, and
let any run follow that carries out no operation but further shutdowns. The bots, with their logs,
transcripts and statuses, are those of the moment of the shutdown, the bench's own log has no new
entry, no bot ticks, and no task acts on a bot. Unless a call is pending that carries out an
operation, the same holds when any span of time passes. -/
theorem shutdown_final (config : Config) (draws : Draws) (before more : List Move)
    (idle : ∀ operation ∈ (((opening draws).run config before).shutdown).operations config more,
      operation = .shutdown) :
    let b := (opening draws).run config before
    let b' := b.shutdown.run config more
    Still b b' ∧ (∀ id, b'.isTicking id = false) ∧
      (b'.Uncalled → ∀ fuel seconds, Still b (b'.advance config fuel seconds) ∧
        ∀ id, (b'.advance config fuel seconds).isTicking id = false) := by
  intro b b'
  have shut : Still b b.shutdown := still_shutdown (sound_run config draws before)
  have still : Still b b' := shut.run idle
  refine ⟨still, still.isTicking, ?_⟩
  intro uncalled fuel seconds
  have timed : b'.Timed := by
    have once : b.shutdown = (opening draws).run config (before ++ [.operate .shutdown]) := by
      rw [run_append]
      rfl
    have whole : b' = (opening draws).run config (before ++ [.operate .shutdown] ++ more) := by
      rw [run_append, ← once]
    rw [whole]
    exact timed_run config draws _
  have passed := still.reaches uncalled (advance_reached config fuel timed seconds)
  exact ⟨passed, passed.isTicking⟩

/-- A bench that is shut down in the middle of the first launch, when the sequence has just been
woken for its second step. -/
theorem shutdown_final_firstLaunch :
    let b := (opening (.ofLists [] [])).run .silent (Move.firstLaunch.take 3)
    let b' := b.shutdown.run .silent [.clock 60, .callback 0]
    (∀ operation ∈ b.shutdown.operations .silent [.clock 60, .callback 0],
        operation = .shutdown) ∧
      b.ready = [.resume 0] ∧ b'.ready = [] ∧ b'.Uncalled ∧ b'.registry = b.registry ∧
      b'.isTicking 1 = false ∧ (b'.advance .silent 9 60).registry = b.registry := by
  intro b b'
  have none : b.shutdown.operations .silent [.clock 60, .callback 0] = [] := by decide +kernel
  have idle : ∀ operation ∈ b.shutdown.operations .silent [.clock 60, .callback 0],
      operation = .shutdown := by
    rw [none]
    simp
  obtain ⟨still, silent, passing⟩ := shutdown_final .silent (.ofLists [] [])
    (Move.firstLaunch.take 3) [.clock 60, .callback 0] idle
  have uncalled : b'.Uncalled := by
    intro task found call present unfinished serves
    have one : b'.tasks.length = 1 := by decide +kernel
    have first : task = 0 := by
      have inside := (List.getElem?_eq_some_iff.mp present).1
      omega
    subst first
    have ended : (b'.tasks[0]?.map (·.state)) = some .finished := by decide +kernel
    rw [present] at ended
    exact absurd (Option.some.inj ended) unfinished
  exact ⟨idle, by decide +kernel, by decide +kernel, uncalled, still.registry, silent 1,
    (passing uncalled 9 60).1.registry⟩

end Bench

end BotBench
