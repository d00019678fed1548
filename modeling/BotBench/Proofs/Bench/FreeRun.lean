import BotBench.Proofs.Bench.Booking
import BotBench.Proofs.Bench.Undisturbed

/-! # Tickers under free use

A free run puts no order into the use of the tickers: they are started and stopped for any bot, one
by one or all at once, samples are taken by hand, the registry is changed at will, and the ordinary
moves come in between. At every point the live tickers are those in the table, one for each bot at
most, and a ticker that has been stopped does nothing from then on but leave the queue
(`BotBench.Bench.tickers_booked`). -/

namespace BotBench

/-- One move of a free run. -/
inductive FreeMove
  /-- An ordinary move. -/
  | move (move : Move)
  /-- The ticker of a bot is started. -/
  | start (bot : Int)
  /-- The ticker of a bot is stopped. -/
  | stop (bot : Int)
  /-- All tickers are stopped. -/
  | stopAll
  /-- One sample is applied to a bot. -/
  | tick (bot : Int)
  /-- Anything happens to the registry. -/
  | alter (change : Registry → Registry)

/-- Whether a move stops the ticker of a bot, alone or with all the others. -/
def FreeMove.Stops (bot : Int) : FreeMove → Prop
  | .stop other => other = bot
  | .stopAll => True
  | _ => False

namespace Bench

variable {config : Config} {b b' : Bench} {id : Int} {task : Nat}

/-- Make one move of a free run. -/
def freeStep (config : Config) (b : Bench) : FreeMove → Bench
  | .move move => b.step config move
  | .start bot => b.startTicker bot
  | .stop bot => b.stopTicker bot
  | .stopAll => b.stopAllTickers
  | .tick bot => (b.tick config bot).2
  | .alter change => { b with registry := change b.registry }

/-- Make several moves of a free run, one after the other. -/
def freeRun (config : Config) (b : Bench) (moves : List FreeMove) : Bench :=
  moves.foldl (freeStep config) b

theorem Booked.freeStep (booked : b.Booked) (config : Config) (move : FreeMove) :
    (b.freeStep config move).Booked := by
  cases move with
  | move move => exact booked.step config move
  | start bot => exact booked.startTicker bot
  | stop bot => exact booked.stopTicker bot
  | stopAll => exact booked.stopAllTickers
  | tick bot => exact booked.tick config bot
  | alter change => exact booked.of_tables rfl rfl rfl

theorem Booked.freeRun (booked : b.Booked) (config : Config) (moves : List FreeMove) :
    (b.freeRun config moves).Booked :=
  List.foldlRecOn moves _ booked fun _ kept move _ => kept.freeStep config move

/-! ## Retired tasks -/

/-- A task has retired: it has come to its end or is cancelled. -/
def Retired (b : Bench) (task : Nat) : Prop :=
  ∃ found, b.tasks[task]? = some found ∧ (found.state = .finished ∨ found.cancelled = true)

theorem Retired.of_tasks (retired : b.Retired task) (tasks : b'.tasks = b.tasks) :
    b'.Retired task := by
  unfold Retired
  rw [tasks]
  exact retired

/-- Whoever leaves a retired task undisturbed or cancels it leaves it retired. -/
theorem Retired.of_spared (retired : b.Retired task) (spared : Spared task b b') :
    b'.Retired task := by
  rcases spared with ⟨found, present, cancelled⟩ | undisturbed
  · exact ⟨found, present, .inr cancelled⟩
  · obtain ⟨found, present, ended⟩ := retired
    obtain ⟨watchers, present'⟩ := undisturbed.task present
    exact ⟨{ found with watchers }, present', ended⟩

/-- A task that has retired does not tick. -/
theorem Retired.still (retired : b.Retired task) : b.view.ticking task = none := by
  obtain ⟨found, present, ended⟩ := retired
  rw [ticking_of_present present]
  rcases ended with finished | cancelled
  · simp [finished]
  · simp [cancelled]

/-- Resuming a task that has retired ends it, or does nothing at all. -/
theorem Retired.resume_eq (retired : b.Retired task) (booked : b.Booked) (config : Config) :
    b.resume config task = b ∨ b.resume config task = b.finish task none := by
  have still := retired.still
  obtain ⟨found, present, ended⟩ := retired
  by_cases queued : found.state = .queued
  · right
    have cancelled : found.cancelled = true := by
      rcases ended with finished | cancelled
      · rw [queued] at finished
        contradiction
      · exact cancelled
    rw [← booked.unwind_eq still found.routine]
    unfold resume
    rw [present]
    simp [queued, cancelled]
  · exact .inl (resume_of_not_queued config present queued)

theorem Retired.finish (retired : b.Retired task) (answer : Option Answer) :
    (b.finish task answer).Retired task := by
  obtain ⟨found, present, -⟩ := retired
  refine ⟨{ found with state := .finished, answer }, ?_, .inl rfl⟩
  unfold Bench.finish
  rw [present]
  exact (getElem?_setTask ..).trans (by rw [if_pos rfl, present]; rfl)

theorem Retired.resume (retired : b.Retired task) (booked : b.Booked) (config : Config) :
    (b.resume config task).Retired task := by
  rcases retired.resume_eq booked config with same | ended
  · rw [same]
    exact retired
  · rw [ended]
    exact retired.finish none

/-- A task that has retired and not come to its end may be queued again. -/
theorem Retired.requeue (retired : b.Retired task) {found : Task}
    (present : b.tasks[task]? = some found) (unfinished : found.state ≠ .finished)
    (ready : List Callback) (timers : List Timer) :
    ({ b.setTask task fun found => { found with state := .queued } with
      ready, timers } : Bench).Retired task := by
  obtain ⟨found', present', ended⟩ := retired
  rw [present, Option.some.injEq] at present'
  subst present'
  refine ⟨{ found with state := .queued }, ?_, .inr (ended.resolve_left unfinished)⟩
  exact (getElem?_setTask ..).trans (by rw [if_pos rfl, present]; rfl)

theorem Retired.notify (retired : b.Retired task) : (b.notify task).Retired task := by
  unfold Bench.notify
  split
  · exact retired
  · rename_i found present
    split
    · rename_i waiting
      have state : found.state = .waiting := by simpa using waiting
      exact retired.requeue present (by simp [state]) _ _
    · exact retired

theorem Retired.wake (retired : b.Retired task) : (b.wake task).Retired task := by
  unfold Bench.wake
  split
  · rename_i found present
    split
    · rename_i asleep
      have state : found.state = .asleep := by simpa using asleep
      exact retired.requeue present (by simp [state]) _ _
    · exact retired
  · exact retired

theorem Retired.callback (retired : b.Retired task) (booked : b.Booked) (config : Config)
    {place : Nat} {callback : Callback} (queue : b.ready[place]? = some callback)
    (own : callback.task = task) : (b.step config (.callback place)).Retired task := by
  have left : (b.taken (.callback place)).Retired task := retired.of_tasks rfl
  have taken : (b.taken (.callback place)).Booked := booked.of_tables rfl rfl rfl
  cases callback with
  | resume other =>
      obtain rfl : other = task := own
      rw [step_of_queue queue]
      exact left.resume taken config
  | notify other =>
      obtain rfl : other = task := own
      change (b.runAt config place).Retired other
      unfold runAt
      rw [queue]
      exact left.notify

theorem Retired.step (retired : b.Retired task) (booked : b.Booked) (config : Config)
    (move : Move) : (b.step config move).Retired task := by
  by_cases addressed : b.addressee? move = some task
  · cases move with
    | callback place =>
        obtain ⟨callback, queue, own⟩ := Option.map_eq_some_iff.mp addressed
        exact retired.callback booked config queue own
    | _ => contradiction
  · by_cases woken : move = .wake task
    · subst woken
      exact retired.wake
    · exact retired.of_spared (undisturbed_step config b addressed woken)

theorem Retired.freeStep (retired : b.Retired task) (booked : b.Booked) (config : Config)
    (move : FreeMove) : (b.freeStep config move).Retired task := by
  have law := spared_law task b
  have here : Spared task b b := .inr (.refl task b)
  cases move with
  | move move => exact retired.step booked config move
  | start bot => exact retired.of_spared (law.startTicker bot here)
  | stop bot => exact retired.of_spared (law.stopTicker bot here)
  | stopAll => exact retired.of_spared (law.stopAllTickers here)
  | tick bot => exact retired.of_tasks (tasks_tick config b bot)
  | alter change => exact retired.of_tasks rfl

/-- Once a task has retired, it stays retired whatever happens. -/
theorem Retired.freeRun (retired : b.Retired task) (booked : b.Booked) (config : Config)
    (moves : List FreeMove) : (b.freeRun config moves).Retired task := by
  have both : (b.freeRun config moves).Booked ∧ (b.freeRun config moves).Retired task := by
    refine List.foldlRecOn (motive := fun b : Bench => b.Booked ∧ b.Retired task) moves _
      ⟨booked, retired⟩ ?_
    rintro b ⟨booked, retired⟩ move -
    exact ⟨booked.freeStep config move, retired.freeStep booked config move⟩
  exact both.2

/-- A task that has retired is not resumed where it left off. -/
theorem Retired.unresumed (retired : b.Retired task) (move : Move) (routine : Routine) :
    b.resumed? move ≠ some (task, routine) := by
  intro resumed
  cases move with
  | callback place =>
      obtain ⟨_, found, -, present, queued, kept, same⟩ := of_resumed? resumed
      obtain ⟨rfl, rfl⟩ := Prod.mk.inj same
      obtain ⟨found', present', ended⟩ := retired
      rw [present, Option.some.injEq] at present'
      subst present'
      simp [queued, kept] at ended
  | _ => contradiction

/-- The resumption of a task that has retired touches neither a record nor a table, and draws
nothing. -/
theorem Retired.untouched (retired : b.Retired task) (booked : b.Booked) (config : Config)
    {place : Nat} (queue : b.ready[place]? = some (.resume task)) :
    Untouched b (b.step config (.callback place)) ∧
      (b.step config (.callback place)).draws = b.draws := by
  have left : (b.taken (.callback place)).Retired task := retired.of_tasks rfl
  have taken : (b.taken (.callback place)).Booked := booked.of_tables rfl rfl rfl
  rw [step_of_queue queue]
  rcases left.resume_eq taken config with same | ended
  · rw [same]
    exact ⟨⟨rfl, rfl, rfl, rfl, rfl⟩, rfl⟩
  · rw [ended]
    obtain ⟨registry, sequencers, tickers, log, tasks⟩ :=
      Untouched.finish (b.taken (.callback place)) task none
    refine ⟨⟨registry, sequencers, tickers, log, tasks⟩, ?_⟩
    unfold Bench.finish
    split <;> rfl

/-! ## Stopping -/

theorem unwatched_of_stops (config : Config) (b : Bench) {move : FreeMove} (stops : move.Stops id) :
    entry? (b.freeStep config move).tickers id = none := by
  change (b.freeStep config move).view.ticker id = none
  cases move with
  | stop other =>
      obtain rfl : other = id := stops
      change (b.stopTicker other).view.ticker other = none
      rw [view_stopTicker, View.ticker_dropTicker, if_pos rfl]
  | stopAll =>
      change (b.stopAllTickers).view.ticker id = none
      obtain ⟨acting, same, -⟩ := View.foldl_dropTicker (b.tickers.map (·.1)) b.view
      unfold stopAllTickers
      rw [view_stopTickers, same]
      dsimp only
      split
      · rfl
      · rename_i absent
        cases entry : b.view.ticker id with
        | none => rfl
        | some task => exact absurd (mem_map_of_entry entry).1 absent
  | _ => contradiction

/-- The tickers of a bot are there after a stop as before, since tasks are only cancelled. -/
theorem ticker_of_stops {move : FreeMove} (stops : move.Stops id) {found : Task}
    (present : b.tasks[task]? = some found) (watches : found.routine.watched? = some id) :
    ∃ found, (b.freeStep config move).tasks[task]? = some found ∧
      found.routine.watched? = some id := by
  have law := (task_law task (motive := fun found => found.routine.watched? = some id)
    (fun _ same => same) fun _ same => same).tables
  have before : ∃ found, b.tasks[task]? = some found ∧ found.routine.watched? = some id :=
    ⟨found, present, watches⟩
  cases move with
  | stop other => exact law.stopTicker other before
  | stopAll => exact law.stopAllTickers before
  | _ => contradiction

/-- The tickers of a bot that has none in the table have retired. -/
theorem Booked.retired (booked : b.Booked) (unwatched : entry? b.tickers id = none) {found : Task}
    (present : b.tasks[task]? = some found) (watches : found.routine.watched? = some id) :
    b.Retired task := by
  have still : b.view.ticking task ≠ some id := by
    intro ticks
    have entry : entry? b.tickers id = some task := booked.ticking.mp ticks
    rw [unwatched] at entry
    contradiction
  rw [ticking_of_present present, watches] at still
  refine ⟨found, present, ?_⟩
  cases kept : found.cancelled with
  | true => exact .inr rfl
  | false =>
      left
      by_contra unfinished
      exact still (by simp [unfinished, kept])

/-- **Tickers are booked.** At every point of every free run, the live tickers of a bot are what
stands under it in the table, so that there is one at most; the bot ticks exactly when there is one,
and then starting its ticker changes nothing, whereas a bot that does not tick is given a new one.
Once the ticker of a bot has been stopped, no ticker that the bot had before is ever resumed to
apply a sample: all that is left of it is its unwinding, which touches no record and no entry of a
table, not even that of its successor, and draws nothing. -/
theorem tickers_booked (config : Config) (draws : Draws) (moves : List FreeMove) (id : Int) :
    let b := (opening draws).freeRun config moves
    (∀ task, b.LiveTicker id task ↔ entry? b.tickers id = some task) ∧
      (b.isTicking id = true ↔ ∃ task, b.LiveTicker id task) ∧
      (b.isTicking id = true → b.freeStep config (.start id) = b) ∧
      (b.isTicking id = false → (b.freeStep config (.start id)).LiveTicker id b.tasks.length) ∧
      ∀ stop, stop.Stops id → ∀ task found, b.tasks[task]? = some found →
        found.routine.watched? = some id → ∀ more,
          let b' := (b.freeStep config stop).freeRun config more
          ¬ b'.LiveTicker id task ∧ (∀ move routine, b'.resumed? move ≠ some (task, routine)) ∧
            ∀ place, b'.ready[place]? = some (.resume task) →
              Untouched b' (b'.step config (.callback place)) ∧
                (b'.step config (.callback place)).draws = b'.draws := by
  intro b
  have booked : b.Booked := (Booked.opening draws).freeRun config moves
  refine ⟨fun task => booked.liveTicker_iff, ?_, ?_, booked.live_startTicker, ?_⟩
  · simp only [booked.isTicking_iff, booked.liveTicker_iff]
  · exact fun ticks => if_pos ticks
  · intro stop stops task found present watches more b'
    have stopped : (b.freeStep config stop).Booked := booked.freeStep config stop
    obtain ⟨found', present', watches'⟩ := ticker_of_stops stops present watches
    have retired : b'.Retired task :=
      (stopped.retired (unwatched_of_stops config b stops) present' watches').freeRun stopped
        config more
    refine ⟨?_, retired.unresumed, ?_⟩
    · rw [liveTicker_iff_ticking, retired.still]
      simp
    · exact fun place => retired.untouched (stopped.freeRun config more) config

/-- The ticker of a running bot has applied a first sample when it is stopped and another one is
started. The first one is still to be unwound, and the unwinding leaves the second one in the
table. A bot that does not tick could be given a ticker, whether or not there is such a bot. -/
theorem tickers_booked_restarted :
    let worker : Record :=
      { Record.newcomer 1 "print()" "123456:token" .python with status := .running }
    let moves : List FreeMove := [.alter fun _ => { slots := [(1, worker)], nextId := 2 }, .start 1,
      .move (.callback 0), .move (.wake 0), .move (.callback 0)]
    let b := (opening (.ofLists [] [])).freeRun .silent moves
    let b' := (b.freeStep .silent (.stop 1)).freeRun .silent [.start 1]
    let b'' := b'.step .silent (.callback 0)
    b.LiveTicker 1 0 ∧ b.freeStep .silent (.start 1) = b ∧ b.isTicking 2 = false ∧
      (b.freeStep .silent (.start 2)).LiveTicker 2 b.tasks.length ∧
      b'.ready[0]? = some (.resume 0) ∧
      ¬ b'.LiveTicker 1 0 ∧ b''.registry = b'.registry ∧ entry? b'.tickers 1 = some 1 ∧
      entry? b''.tickers 1 = some 1 := by
  intro worker moves b b' b''
  have entry : entry? b.tickers 1 = some 0 := by decide +kernel
  have entry' : entry? b'.tickers 1 = some 1 := by decide +kernel
  have queue : b'.ready[0]? = some (.resume 0) := by decide +kernel
  have resting : b.isTicking 2 = false := by decide +kernel
  obtain ⟨booked, ticks, still, -, stopped⟩ := tickers_booked .silent (.ofLists [] []) moves 1
  obtain ⟨-, -, -, started, -⟩ := tickers_booked .silent (.ofLists [] []) moves 2
  have live : b.LiveTicker 1 0 := (booked 0).mpr entry
  have ticking : b.isTicking 1 = true := ticks.mpr ⟨0, live⟩
  refine ⟨live, still ticking, resting, started resting, queue, ?_⟩
  obtain ⟨found, slept, present, routine, -⟩ := live
  have watches : found.routine.watched? = some 1 := by
    rw [routine]
    rfl
  obtain ⟨ended, -, unwound⟩ := stopped (.stop 1) rfl 0 found present watches [.start 1]
  obtain ⟨untouched, -⟩ := unwound 0 queue
  refine ⟨ended, untouched.registry, entry', ?_⟩
  rw [untouched.tickers]
  exact entry'

end Bench

end BotBench
