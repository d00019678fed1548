import BotBench.Proofs.Bench.Separation

/-! # Tickers are booked

A view is booked when its table says which tasks tick: a task ticks for a bot exactly when it stands
under the bot in the table of tickers. Soundness says so of a bench whose records only its own
operations have written. Here nothing is asked of the records, not even that a bot has one, and all
the same every move keeps the tickers booked (`BotBench.Bench.Booked.step`). -/

namespace BotBench

/-- The bot that a routine ticks for. -/
def Routine.watched? : Routine → Option Int
  | .ticker bot _ => some bot
  | _ => none

theorem Routine.watched?_eq_some_iff {routine : Routine} {bot : Int} :
    routine.watched? = some bot ↔ ∃ slept, routine = .ticker bot slept := by
  cases routine <;> simp [watched?]

/-- Whether a routine ticks, and for whom, is seen from its owner and its generation. -/
theorem Routine.watched?_congr {routine next : Routine} (owner : next.owner? = routine.owner?)
    (sequence : next.sequence? = routine.sequence?) : next.watched? = routine.watched? := by
  cases routine <;> cases next <;> simp_all [watched?, owner?, sequence?]

theorem Routine.acts_of_owner? {routine : Routine} (free : routine.owner? = none) :
    routine.acts = false := by
  cases routine <;> simp_all [acts, owner?]

theorem Task.watched_acting (task : Task) :
    task.acting?.bind Routine.watched? =
      if task.state != .finished && !task.cancelled then task.routine.watched? else none := by
  unfold acting?
  cases task.routine <;> cases task.state != .finished <;> cases task.cancelled <;> rfl

namespace View

/-- The bot that a task ticks for: the task is a ticker and has still to act. -/
def ticking (v : View) (task : Nat) : Option Int := (v.acting task).bind Routine.watched?

/-- The tasks that tick for a bot are those that stand under it in the table of tickers, and what
stands in the table of sequences does not tick. -/
structure Booked (v : View) : Prop where
  ticking : ∀ {id task}, v.ticking task = some id ↔ v.ticker id = some task
  ticking_lt : ∀ {id task}, v.ticking task = some id → task < v.count
  sequencer : ∀ {id task}, v.sequencer id = some task → task < v.count ∧ v.ticking task = none

theorem ticking_proceed (v : View) (id other : Nat) (routine : Option Routine) :
    (v.proceed id routine).ticking other =
      if other = id then routine.bind Routine.watched? else v.ticking other := by
  unfold ticking
  rw [acting_proceed]
  split <;> rfl

theorem ticking_spawn (v : View) (routine : Routine) (id : Nat) :
    (v.spawn routine).ticking id = if id = v.count then routine.watched? else v.ticking id := by
  unfold ticking
  rw [acting_spawn]
  split
  · cases routine <;> rfl
  · rfl

variable {v v' : View} {id : Int}

/-- A view in which the same tasks tick, under the same table, is booked like the first. -/
theorem Booked.of_same (booked : v.Booked) (ticking : v'.ticking = v.ticking)
    (ticker : v'.ticker = v.ticker)
    (sequencer : ∀ id task, v'.sequencer id = some task → v.sequencer id = some task)
    (count : v.count ≤ v'.count) : v'.Booked where
  ticking := by
    rw [ticking, ticker]
    exact booked.ticking
  ticking_lt ticks := by
    rw [ticking] at ticks
    exact Nat.lt_of_lt_of_le (booked.ticking_lt ticks) count
  sequencer entry := by
    obtain ⟨below, still⟩ := booked.sequencer (sequencer _ _ entry)
    rw [ticking]
    exact ⟨Nat.lt_of_lt_of_le below count, still⟩

/-! ## Records -/

theorem Booked.write (booked : v.Booked) (id : Int) (record : Record) : (v.write id record).Booked :=
  booked.of_same rfl rfl (fun _ _ entry => entry) (Nat.le_refl _)

theorem Booked.erase (booked : v.Booked) (id : Int) : (v.erase id).Booked :=
  booked.of_same rfl rfl (fun _ _ entry => entry) (Nat.le_refl _)

/-! ## Tasks -/

/-- A task that ticks as it did before may go on anywhere. -/
theorem Booked.proceed (booked : v.Booked) {task : Nat} {next : Option Routine}
    (same : next.bind Routine.watched? = v.ticking task) : (v.proceed task next).Booked := by
  refine booked.of_same ?_ rfl (fun _ _ entry => entry) (Nat.le_refl _)
  funext other
  rw [ticking_proceed]
  split
  · rename_i equal
    rw [equal]
    exact same
  · rfl

/-- What is going to be started does not tick yet. -/
theorem Booked.ticking_count (booked : v.Booked) : v.ticking v.count = none := by
  cases ticks : v.ticking v.count with
  | none => rfl
  | some id => exact absurd (booked.ticking_lt ticks) (Nat.lt_irrefl _)

theorem Booked.spawn (booked : v.Booked) {routine : Routine} (aside : routine.watched? = none) :
    (v.spawn routine).Booked := by
  refine booked.of_same ?_ rfl (fun _ _ entry => entry) (Nat.le_succ _)
  funext task
  rw [ticking_spawn]
  split
  · rename_i fresh
    rw [fresh, booked.ticking_count, aside]
  · rfl

theorem Booked.schedule (booked : v.Booked) (id : Int) {routine : Routine}
    (aside : routine.watched? = none) : (v.schedule id routine).Booked where
  ticking := (booked.spawn aside).ticking
  ticking_lt := (booked.spawn aside).ticking_lt
  sequencer {other task} entry := by
    rw [sequencer_schedule] at entry
    split at entry
    · cases entry
      refine ⟨Nat.lt_succ_self _, ?_⟩
      change (v.spawn routine).ticking v.count = none
      rw [ticking_spawn, if_pos rfl, aside]
    · exact (booked.spawn aside).sequencer entry

/-- A bot that has no ticker may be given one. -/
theorem Booked.watch (booked : v.Booked) (unwatched : v.ticker id = none) : (v.watch id).Booked where
  ticking {other task} := by
    change (v.spawn (.ticker id false)).ticking task = some other ↔ _
    rw [ticking_spawn, ticker_watch]
    by_cases fresh : task = v.count
    · subst fresh
      rw [if_pos rfl]
      by_cases same : other = id
      · simp [Routine.watched?, same]
      · -- the new task stands nowhere else, since what stands in the table ticks already
        rw [if_neg same, ← booked.ticking, booked.ticking_count]
        simp [Routine.watched?, Ne.symm same]
    · rw [if_neg fresh]
      by_cases same : other = id
      · subst same
        rw [if_pos rfl, booked.ticking, unwatched]
        simp [Ne.symm fresh]
      · rw [if_neg same]
        exact booked.ticking
  ticking_lt {other task} ticks := by
    change (v.spawn (.ticker id false)).ticking task = some other at ticks
    rw [ticking_spawn] at ticks
    split at ticks
    · rename_i fresh
      rw [fresh]
      exact Nat.lt_succ_self _
    · exact Nat.lt_succ_of_lt (booked.ticking_lt ticks)
  sequencer {other task} entry := by
    obtain ⟨below, still⟩ := booked.sequencer entry
    refine ⟨Nat.lt_succ_of_lt below, ?_⟩
    change (v.spawn (.ticker id false)).ticking task = none
    rw [ticking_spawn, if_neg (Nat.ne_of_lt below)]
    exact still

/-! ## Ending what is pending -/

theorem Booked.dropSequencer (booked : v.Booked) (id : Int) : (v.dropSequencer id).Booked := by
  unfold View.dropSequencer
  cases entry : v.sequencer id with
  | none => exact booked
  | some ended =>
      dsimp only
      have kept : (v.proceed ended none).Booked := booked.proceed (booked.sequencer entry).2.symm
      refine kept.of_same rfl rfl ?_ (Nat.le_refl _)
      intro other task entry'
      dsimp only at entry'
      rw [Function.update_apply] at entry'
      split at entry'
      · contradiction
      · exact entry'

theorem Booked.dropTicker (booked : v.Booked) (id : Int) : (v.dropTicker id).Booked := by
  unfold View.dropTicker
  cases entry : v.ticker id with
  | none => exact booked
  | some ended =>
      dsimp only
      have ticked := booked.ticking.mpr entry
      constructor
      case ticking =>
        intro other task
        change (v.proceed ended none).ticking task = some other ↔ Function.update _ _ _ _ = _
        rw [ticking_proceed, Function.update_apply]
        by_cases same : task = ended
        · -- the task that ends ticked for its own bot only
          subst same
          have alone : v.ticker other = some task → other = id := by
            intro other_entry
            have ticked' := booked.ticking.mpr other_entry
            rw [ticked, Option.some.injEq] at ticked'
            exact ticked'.symm
          rw [if_pos rfl]
          split
          · simp
          · rename_i apart
            exact ⟨nofun, fun other_entry => absurd (alone other_entry) apart⟩
        · rw [if_neg same]
          split
          · rename_i bot
            rw [bot, booked.ticking, entry, Option.some.injEq]
            exact ⟨fun equal => absurd equal.symm same, nofun⟩
          · exact booked.ticking
      case ticking_lt =>
        intro other task ticks
        change (v.proceed ended none).ticking task = some other at ticks
        rw [ticking_proceed] at ticks
        split at ticks
        · contradiction
        · exact booked.ticking_lt ticks
      case sequencer =>
        intro other task entry'
        obtain ⟨below, still⟩ := booked.sequencer entry'
        refine ⟨below, ?_⟩
        change (v.proceed ended none).ticking task = none
        rw [ticking_proceed]
        split
        · rfl
        · exact still

theorem Booked.interrupt (booked : v.Booked) (id : Int) : (v.interrupt id).Booked :=
  (booked.dropSequencer id).dropTicker id

/-- Both tables may be emptied when nothing that stood in one of them is left to act. -/
theorem Booked.silence (booked : v.Booked) {acting : Nat → Option Routine}
    (spared : ∀ task routine, acting task = some routine → v.acting task = some routine ∧
      ∀ id, v.sequencer id ≠ some task ∧ v.ticker id ≠ some task) :
    Booked { v with sequencer := fun _ => none, ticker := fun _ => none, acting } := by
  have silent (id : Int) (task : Nat) : (acting task).bind Routine.watched? ≠ some id := by
    intro ticks
    obtain ⟨routine, acts, watched⟩ := Option.bind_eq_some_iff.mp ticks
    obtain ⟨before, apart⟩ := spared task routine acts
    have ticked : v.ticking task = some id := Option.bind_eq_some_iff.mpr ⟨routine, before, watched⟩
    exact (apart id).2 (booked.ticking.mp ticked)
  exact ⟨fun {id task} => ⟨fun ticks => absurd ticks (silent id task), nofun⟩,
    fun {id task} ticks => absurd ticks (silent id task), nofun⟩

end View

namespace Bench

variable {config : Config} {b b' : Bench} {id : Int} {task : Nat}

/-- A live ticker is a task that ticks. -/
theorem liveTicker_iff_ticking : b.LiveTicker id task ↔ b.view.ticking task = some id := by
  rw [liveTicker_iff]
  unfold View.ticking
  simp only [Option.bind_eq_some_iff, Routine.watched?_eq_some_iff]
  refine ⟨?_, ?_⟩
  · rintro ⟨slept, acts⟩
    exact ⟨_, acts, slept, rfl⟩
  · rintro ⟨_, acts, slept, rfl⟩
    exact ⟨slept, acts⟩

theorem ticking_of_present {found : Task} (present : b.tasks[task]? = some found) :
    b.view.ticking task =
      if found.state != .finished && !found.cancelled then found.routine.watched? else none := by
  change (b.tasks[task]?.bind Task.acting?).bind Routine.watched? = _
  rw [present, Option.bind_some, Task.watched_acting]

/-- The tickers of a bench are booked. -/
def Booked (b : Bench) : Prop := b.view.Booked

namespace Booked

theorem opening (draws : Draws) : (opening draws).Booked where
  ticking := by simp [View.ticking, view, Bench.opening, acting?]
  ticking_lt := by simp [View.ticking, view, Bench.opening, acting?]
  sequencer := by simp [view, Bench.opening]

theorem of_view {v : View} (same : b'.view = v) (kept : v.Booked) : b'.Booked := by
  unfold Booked
  rw [same]
  exact kept

variable (booked : b.Booked)

include booked

/-- The records, the queue, the timers, the draws and the clock do not matter. -/
theorem of_tables (tasks : b'.tasks = b.tasks) (sequencers : b'.sequencers = b.sequencers)
    (tickers : b'.tickers = b.tickers) : b'.Booked := by
  refine View.Booked.of_same (v := b.view) booked ?_ ?_ ?_ ?_
  · unfold View.ticking view acting?
    rw [tasks]
  · unfold view
    rw [tickers]
  · unfold view
    rw [sequencers]
    exact fun _ _ entry => entry
  · exact Nat.le_of_eq (congrArg List.length tasks).symm

theorem liveTicker_iff : b.LiveTicker id task ↔ entry? b.tickers id = some task :=
  liveTicker_iff_ticking.trans booked.ticking

theorem isTicking_iff : b.isTicking id = true ↔ ∃ task, entry? b.tickers id = some task :=
  isTicking_iff_of_live fun _ entry => booked.liveTicker_iff.mpr entry

/-! ## What users do -/

theorem startTicker (id : Int) : (b.startTicker id).Booked := by
  refine of_view (view_startTicker b id) ?_
  split
  · exact booked
  · rename_i silent
    apply View.Booked.watch booked
    cases entry : b.view.ticker id with
    | none => rfl
    | some task => exact absurd (booked.isTicking_iff.mpr ⟨task, entry⟩) silent

/-- A bot that does not tick is given a new task that does. -/
theorem live_startTicker (silent : b.isTicking id = false) :
    (b.startTicker id).LiveTicker id b.tasks.length := by
  rw [(booked.startTicker id).liveTicker_iff]
  unfold Bench.startTicker
  rw [silent]
  exact (entry?_setEntry ..).trans (if_pos rfl)

theorem stopTicker (id : Int) : (b.stopTicker id).Booked :=
  of_view (view_stopTicker b id) (View.Booked.dropTicker booked id)

theorem stopAllTickers : b.stopAllTickers.Booked :=
  List.foldlRecOn _ _ booked fun _ kept id _ => kept.stopTicker id

theorem tick (config : Config) (id : Int) : (b.tick config id).2.Booked := by
  rcases tick_cases config b id with
    ⟨record, cpuUsage, ramUsage, -, -, -, after⟩ | ⟨record, -, -, -, after⟩ | ⟨-, -, after⟩
  · exact of_view after (View.Booked.write booked id _)
  · exact of_view after (View.Booked.write booked id _)
  · exact of_view after booked

theorem after {result : Except Refusal (Record × Bench)}
    (accepted : ∀ answer b', result = .ok (answer, b') → b'.Booked) :
    (b.after result).Booked := by
  cases result with
  | error refusal => exact booked
  | ok pair => exact accepted pair.1 pair.2 rfl

/-- A launch gives its bot a sequence, whichever record is found for the bot. -/
theorem launch {code token : String} {language : Json} {answer : Record}
    (done : b.launch config code token language = .ok (answer, b')) : b'.Booked := by
  unfold Bench.launch at done
  simp only [bind, Except.bind, pure, Except.pure] at done
  split at done
  · contradiction
  · split at done
    · contradiction
    · split at done
      · contradiction
      · rename_i updated
        simp only [Except.ok.injEq, Prod.mk.injEq] at done
        obtain ⟨-, rfl⟩ := done
        refine of_view (view_schedule ..) (View.Booked.schedule ?_ _ rfl)
        rw [eq_store_of_update updated]
        exact booked.of_tables (by rfl) (by rfl) (by rfl)

theorem send (config : Config) (id : Int) (text : String) : (b.send config id text).1.Booked := by
  rcases view_send config b id text with same | ⟨-, record, messages, -, after⟩
  · exact of_view same booked
  · exact of_view after (View.Booked.write booked id _)

theorem operate (config : Config) (operation : Operation) : (b.operate config operation).Booked := by
  cases operation with
  | launch code token language => exact booked.after fun _ _ done => booked.launch done
  | update id code token language =>
      refine booked.after fun answer b' done => ?_
      obtain ⟨record, named, -, -, -, after⟩ := updateBot_ok done
      exact of_view after (((View.Booked.interrupt booked id).write id _).schedule id rfl)
  | restart id =>
      refine booked.after fun answer b' done => ?_
      obtain ⟨record, -, -, after⟩ := restart_ok done
      exact of_view after (((View.Booked.interrupt booked id).write id _).schedule id rfl)
  | stop id =>
      refine booked.after fun answer b' done => ?_
      obtain ⟨record, -, -, after⟩ := stop_ok done
      exact of_view after ((View.Booked.interrupt booked id).write id _)
  | delete id =>
      unfold Bench.operate
      dsimp only
      split
      · rename_i done
        obtain ⟨record, -, after⟩ := delete_ok done
        exact of_view after ((View.Booked.interrupt booked id).erase id)
      · exact booked
  | shutdown =>
      obtain ⟨acting, same, spared⟩ := view_shutdown b
      exact of_view same (View.Booked.silence booked spared)
  | send id text => exact booked.send config id text
  | press id button =>
      unfold Bench.operate
      dsimp only
      split
      · exact booked.send config id _
      · exact booked

/-! ## What tasks do -/

/-- A task may start that does not tick. -/
theorem spawn (routine : Routine) (aside : routine.watched? = none) :
    (b.spawn routine).2.Booked :=
  of_view (view_spawn b routine) (View.Booked.spawn booked aside)

/-- A task that does not tick may come to its end. -/
theorem finish (still : b.view.ticking task = none) (answer : Option Answer) :
    (b.finish task answer).Booked :=
  of_view (view_finish b task answer) (View.Booked.proceed booked still.symm)

/-- A task that has not come to its end may sleep, and goes on ticking for the same bot if it does
tick. -/
theorem sleep {found : Task} {next : Routine} (present : b.tasks[task]? = some found)
    (unfinished : found.state ≠ .finished) (same : next.watched? = found.routine.watched?)
    (config : Config) (span : Span) : (b.sleep config task span next).Booked := by
  have going (state : TaskState) (alive : state ≠ .finished) :
      (b.setTask task fun found => { found with routine := next, state }).Booked := by
    refine of_view (view_setTask ..) (View.Booked.proceed booked ?_)
    rw [ticking_of_present present, present, Option.map_some, Option.bind_some,
      Task.watched_acting]
    simp [alive, unfinished, same]
  unfold Bench.sleep
  cases span with
  | finite seconds =>
      dsimp only
      split
      · exact (going .queued (by simp)).of_tables rfl rfl rfl
      · exact (going .asleep (by simp)).of_tables rfl rfl rfl
  | endless => exact (going .asleep (by simp)).of_tables rfl rfl rfl

/-- A task that does not tick stands nowhere in the table, so that unwinding it only ends it. -/
theorem unwind_eq (still : b.view.ticking task = none) (routine : Routine) :
    b.unwind task routine = b.finish task none := by
  unfold Bench.unwind
  split
  · rename_i bot
    unfold leaveTicker
    rw [if_neg]
    rw [beq_iff_eq]
    intro entry
    have ticks : b.view.ticking task = some bot := booked.ticking.mpr entry
    rw [still] at ticks
    contradiction
  · rfl

/-- What a task that does not tick does before its verdict is obeyed keeps the tickers booked. -/
theorem perform (config : Config) (task : Nat) {routine : Routine}
    (aside : routine.watched? = none) : (b.perform config task routine).1.Booked := by
  have sequence {bot generation : Int} (belongs : routine.sequence? = some (bot, generation)) :
      (b.perform config task routine).1.Booked := by
    cases current : b.isCurrent bot generation with
    | false =>
        rw [perform_of_not_current config belongs current]
        exact booked
    | true =>
        obtain ⟨record, found, same⟩ := isCurrent_eq_true_iff.mp current
        obtain ⟨done, wrote, performed⟩ := perform_sequence config belongs found same task
        have written : done.Booked := of_view wrote.view (View.Booked.write booked bot _)
        rw [performed]
        dsimp only
        split
        · exact written.startTicker bot
        · exact written
  cases routine with
  | connect bot generation stage => exact sequence rfl
  | redeploy bot generation line slept => exact sequence rfl
  | ticker bot slept => contradiction
  | awaitIdle bot waited =>
      unfold Bench.perform
      dsimp only
      split <;> exact booked
  | serve call =>
      change (b.serve config call).1.Booked
      rw [(serve_operates config b call).1]
      split
      · exact booked.operate config _
      · exact booked
  | report status bot => exact booked

/-- A task that does not tick and is resumed keeps the tickers booked. -/
theorem resume_aside (config : Config) {found : Task} (present : b.tasks[task]? = some found)
    (queued : found.state = .queued) (kept : found.cancelled = false)
    (aside : found.routine.watched? = none) : (b.resume config task).Booked := by
  have performed : (b.perform config task found.routine).1.Booked :=
    booked.perform config task aside
  obtain ⟨found', present', routine, queued'⟩ : ∃ found',
      (b.perform config task found.routine).1.tasks[task]? = some found' ∧
        found'.routine = found.routine ∧ found'.state = .queued :=
    (task_law task (motive := fun other => other.routine = found.routine ∧ other.state = .queued)
      (fun _ same => same) fun _ same => ⟨same.1, rfl⟩).perform found.routine
        ⟨found, present, rfl, queued⟩
  have still : (b.perform config task found.routine).1.view.ticking task = none := by
    rw [ticking_of_present present', routine, aside, ite_self]
  rw [resume_of_queued config present queued kept]
  cases verdict : (b.perform config task found.routine).2 with
  | sleep span next =>
      obtain ⟨owner, sequence⟩ := goesOn_of_sleep verdict
      refine performed.sleep present' (by simp [queued']) ?_ config span
      rw [routine]
      exact Routine.watched?_congr owner sequence
  | wait target next =>
      obtain ⟨bot, -, free, -⟩ := awaited_of_wait verdict
      exact of_view (view_wait (Routine.acts_of_owner? free) target)
        (View.Booked.proceed performed still.symm)
  | finish answer => exact performed.finish still answer

/-- A ticker that is resumed goes to sleep, or leaves the table and ends. -/
theorem resume_ticker (config : Config) {found : Task} {slept : Bool}
    (present : b.tasks[task]? = some found) (queued : found.state = .queued)
    (kept : found.cancelled = false) (ticks : found.routine = .ticker id slept) :
    (b.resume config task).Booked := by
  have paused {b : Bench} (booked : b.Booked) (present : b.tasks[task]? = some found) :
      ((b.tickerPause config).2.sleep config task (b.tickerPause config).1
        (.ticker id true)).Booked := by
    have drawn : (b.tickerPause config).2.Booked := booked.of_tables rfl rfl rfl
    have there : (b.tickerPause config).2.tasks[task]? = some found := present
    exact drawn.sleep there (by simp [queued]) (by rw [ticks]; rfl) config _
  rw [resume_of_queued config present queued kept, ticks]
  cases slept with
  | false => exact paused booked present
  | true =>
      have ticked : (b.tick config id).2.Booked := booked.tick config id
      have present' : (b.tick config id).2.tasks[task]? = some found :=
        tasks_tick config b id ▸ present
      rw [perform_ticker]
      split
      · exact paused ticked present'
      · have live : (b.tick config id).2.LiveTicker id task :=
          ⟨found, true, present', ticks, by simp [queued], kept⟩
        have entry : (b.tick config id).2.view.ticker id = some task := ticked.liveTicker_iff.mp live
        change (((b.tick config id).2.leaveTicker id task).finish task none).Booked
        exact of_view (view_leaveTicker_finish entry none) (View.Booked.dropTicker ticked id)

theorem resume (config : Config) (task : Nat) : (b.resume config task).Booked := by
  cases present : b.tasks[task]? with
  | none =>
      unfold Bench.resume
      rw [present]
      exact booked
  | some found =>
      by_cases queued : found.state = .queued
      · cases kept : found.cancelled with
        | true =>
            have still : b.view.ticking task = none := by
              rw [ticking_of_present present, kept]
              simp
            have unwound : b.resume config task = b.unwind task found.routine := by
              unfold Bench.resume
              rw [present]
              simp [queued, kept]
            rw [unwound, booked.unwind_eq still]
            exact booked.finish still none
        | false =>
            cases watched : found.routine.watched? with
            | none => exact booked.resume_aside config present queued kept watched
            | some bot =>
                obtain ⟨slept, ticks⟩ := Routine.watched?_eq_some_iff.mp watched
                exact booked.resume_ticker config present queued kept ticks
      · rw [resume_of_not_queued config present queued]
        exact booked

/-- **Every move keeps the tickers booked.** -/
theorem step (config : Config) (move : Move) : (b.step config move).Booked := by
  cases move with
  | operate operation => exact booked.operate config operation
  | call call => exact booked.spawn (.serve call) rfl
  | awaitIdle bot => exact booked.spawn (.awaitIdle bot false) rfl
  | callback place =>
      change (b.runAt config place).Booked
      unfold runAt
      split
      · rename_i callback _
        have taken : ({ b with ready := b.ready.eraseIdx place } : Bench).Booked :=
          booked.of_tables rfl rfl rfl
        cases callback with
        | resume task => exact taken.resume config task
        | notify task => exact of_view (view_notify ..) taken
      · exact booked
  | wake task => exact of_view (view_wake b task) booked
  | clock time => exact booked.of_tables rfl rfl rfl

end Booked

end Bench

end BotBench
