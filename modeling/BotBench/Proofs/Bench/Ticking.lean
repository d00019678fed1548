import BotBench.Proofs.Bench.Reachability

/-! # Running bots tick

As long as nobody shuts the bench down, the bots that tick are the bots that run, and each of them
has one ticker: the one in the table (`BotBench.Bench.isTicking_iff_running`). Soundness gives one
direction, a ticker watches a running bot; the other one is an invariant of its own. -/

namespace BotBench

namespace View

/-- Every running bot has a ticker in the table. -/
def Watched (v : View) : Prop :=
  ∀ id record, v.record id = some record → record.status = .running →
    ∃ task, v.ticker id = some task

variable {least : Int} {v v' : View}

/-- What is written for a bot that ran before leaves the running bots watched. -/
theorem Watched.rewrite (watched : v.Watched) {id : Int} {old record : Record}
    (found : v.record id = some old) (running : old.status = .running) :
    (v.write id record).Watched := by
  intro other record' found' running'
  rw [record_write] at found'
  split at found'
  · rename_i same
    subst same
    exact watched other old found running
  · exact watched other record' found' running'

/-- A ticker may be taken from a bot that is given a record of a bot that does not run. -/
theorem Watched.unwatch (watched : v.Watched) {id : Int} {record : Record}
    (halted : record.status ≠ .running) : ((v.dropTicker id).write id record).Watched := by
  intro other record' found running
  change ∃ task, (v.dropTicker id).ticker other = some task
  rw [record_write, record_dropTicker] at found
  rw [ticker_dropTicker]
  split at found
  · rw [Option.some.injEq] at found
    subst found
    contradiction
  · rename_i apart
    rw [if_neg apart]
    exact watched other record' found running

theorem Watched.dropSequencer (watched : v.Watched) (id : Int) : (v.dropSequencer id).Watched := by
  unfold View.dropSequencer
  split
  · exact watched
  · exact watched

/-- Every transition keeps the running bots watched. -/
theorem Watched.transition (watched : v.Watched) {event : Option Event}
    {passage : Option Passage} (moved : Transition least v event passage v') : v'.Watched := by
  cases moved with
  | launch name face =>
      intro id record found running
      change (v.enter _).record id = some record at found
      rw [record_enter] at found
      split at found
      · rw [Option.some.injEq] at found
        subst found
        contradiction
      · exact watched id record found running
  | update found name face => exact (watched.dropSequencer _).unwatch (by simp)
  | restart found face => exact (watched.dropSequencer _).unwatch (by simp)
  | stop found face => exact (watched.dropSequencer _).unwatch (by simp)
  | @delete id record found =>
      intro other record' found' running
      rw [record_erase, record_interrupt] at found'
      split at found'
      · contradiction
      · rename_i apart
        change ∃ task, ((v.dropSequencer id).dropTicker id).ticker other = some task
        rw [ticker_dropTicker, if_neg apart]
        refine watched.dropSequencer id other record' ?_ running
        rw [record_dropSequencer]
        exact found'
  | turn found running turn =>
      obtain ⟨record, messages, found', rfl⟩ := turn
      rw [found, Option.some.injEq] at found'
      subst found'
      exact watched.rewrite found running
  | @leg task routine id generation record leg acts belongs found goes =>
      intro other record' found' running
      rw [record_goLeg] at found'
      rw [ticker_goLeg]
      split
      · exact ⟨v.count, rfl⟩
      · rename_i apart
        split at found'
        · rename_i same
          subst same
          rw [Option.some.injEq] at found'
          subst found'
          -- a leg without an outcome leaves the status, and any other outcome is not running
          cases outcome : leg.outcome with
          | none =>
              rw [outcome] at running
              exact watched other record found running
          | some status =>
              have runs : status = .running := by simpa [Record.marked, outcome] using running
              rw [outcome, runs] at apart
              exact absurd ⟨rfl, rfl⟩ apart
        · exact watched other record' found' running
  | begin acts => exact watched
  | tick acts found running =>
      exact watched.rewrite found running
  | halt acts found running => exact watched.unwatch (by simp)
  | idle counts => exact watched

end View

namespace Bench

variable {config : Config} {b : Bench}

/-- The task `task` is a ticker of a bot that is neither cancelled nor at its end. -/
def LiveTicker (b : Bench) (id : Int) (task : Nat) : Prop :=
  ∃ found slept, b.tasks[task]? = some found ∧ found.routine = .ticker id slept ∧
    found.state ≠ .finished ∧ found.cancelled = false

theorem liveTicker_iff {id : Int} {task : Nat} :
    b.LiveTicker id task ↔ ∃ slept, b.view.acting task = some (.ticker id slept) := by
  refine ⟨?_, ?_⟩
  · rintro ⟨found, slept, present, ticks, unfinished, kept⟩
    exact ⟨slept, acting?_eq_some_iff.mpr ⟨found, present, unfinished, kept, rfl, ticks⟩⟩
  · rintro ⟨slept, acts⟩
    obtain ⟨found, present, unfinished, kept, -, ticks⟩ := acting?_eq_some_iff.mp acts
    exact ⟨found, slept, present, ticks, unfinished, kept⟩

/-- The live ticker of a bot is the one in the table. -/
theorem liveTicker_iff_entry {least : Int} (sound : b.view.Sound least) {id : Int} {task : Nat} :
    b.LiveTicker id task ↔ b.view.ticker id = some task := by
  rw [liveTicker_iff]
  refine ⟨?_, ?_⟩
  · rintro ⟨slept, acts⟩
    exact sound.watcher acts
  · intro entry
    exact (sound.ticker entry).1

/-- If what stands under a bot in the table is a live ticker, the bot ticks when something stands
there. -/
theorem isTicking_iff_of_live {id : Int}
    (live : ∀ task, entry? b.tickers id = some task → b.LiveTicker id task) :
    b.isTicking id = true ↔ ∃ task, entry? b.tickers id = some task := by
  unfold isTicking
  cases entry : entry? b.tickers id with
  | none => simp
  | some task =>
      obtain ⟨found, slept, present, -, unfinished, -⟩ := live task entry
      simp [isFinished, present, unfinished]

/-- A bot ticks when it has a ticker in the table. -/
theorem isTicking_iff_entry {least : Int} (sound : b.view.Sound least) {id : Int} :
    b.isTicking id = true ↔ ∃ task, b.view.ticker id = some task :=
  isTicking_iff_of_live fun _ entry => (liveTicker_iff_entry sound).mpr entry

theorem watched_run {draws : Draws} {moves : List Move} (open? : .operate .shutdown ∉ moves) :
    ((opening draws).run config moves).view.Watched := by
  have both : ((opening draws).run config moves).view.Sound config.settings.minTokenPrefix ∧
      ((opening draws).run config moves).view.Watched := by
    apply run_keeps (motive := fun b =>
      b.view.Sound config.settings.minTokenPrefix ∧ b.view.Watched)
    · rintro b move member ⟨sound, watched⟩
      have goesOn : move ≠ .operate .shutdown := by
        rintro rfl
        exact open? member
      exact ⟨sound_step sound move, watched.transition (move_transition sound goesOn)⟩
    · refine ⟨.opening draws, ?_⟩
      intro id record found
      simp [view, opening, Registry.find?] at found
  exact both.2

/-- **Running bots tick.** In every run without a shutdown, at every point, a bot ticks if and only
if it is there and runs, and then exactly one live task is a ticker of the bot: the one in the
table. -/
theorem isTicking_iff_running (config : Config) (draws : Draws) (moves : List Move)
    (kept : .operate .shutdown ∉ moves) (id : Int) :
    let b := (opening draws).run config moves
    (b.isTicking id = true ↔
        ∃ record, b.registry.find? id = some record ∧ record.status = .running) ∧
      (b.isTicking id = true → ∃ task, entry? b.tickers id = some task ∧
        ∀ other, b.LiveTicker id other ↔ other = task) := by
  intro b
  have sound : b.view.Sound config.settings.minTokenPrefix := sound_run config draws moves
  have watched : b.view.Watched := watched_run kept
  refine ⟨⟨?_, ?_⟩, ?_⟩
  · intro ticks
    obtain ⟨task, entry⟩ := (isTicking_iff_entry sound).mp ticks
    obtain ⟨-, seen, shown, running⟩ := sound.ticker entry
    obtain ⟨record, found, rfl⟩ := find?_of_view shown
    exact ⟨record, found, running⟩
  · rintro ⟨record, found, running⟩
    exact (isTicking_iff_entry sound).mpr (watched id _ (view_of_find? found) running)
  · intro ticks
    obtain ⟨task, entry⟩ := (isTicking_iff_entry sound).mp ticks
    refine ⟨task, entry, ?_⟩
    intro other
    rw [liveTicker_iff_entry sound, entry, Option.some.injEq, eq_comm]

/-- After the first launch the bot ticks and runs. -/
theorem isTicking_iff_running_firstLaunch :
    let b := (opening (.ofLists [] [])).run .silent Move.firstLaunch
    .operate .shutdown ∉ Move.firstLaunch ∧ b.isTicking 1 = true ∧
      (∃ record, b.registry.find? 1 = some record ∧ record.status = .running) ∧
      ∃ task, entry? b.tickers 1 = some task ∧ ∀ other, b.LiveTicker 1 other ↔ other = task := by
  have kept : .operate .shutdown ∉ Move.firstLaunch := by simp [Move.firstLaunch]
  have ticks : ((opening (.ofLists [] [])).run .silent Move.firstLaunch).isTicking 1 = true := by
    decide +kernel
  obtain ⟨same, only⟩ := isTicking_iff_running .silent (.ofLists [] []) Move.firstLaunch kept 1
  exact ⟨kept, ticks, same.mp ticks, only ticks⟩

end Bench

end BotBench
