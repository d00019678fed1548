import BotBench.Proofs.Bench.Queue
import Mathlib.Data.List.Nodup

/-! # The loop makes runs

The loop of the bench settles the queue first in, first out, moves the clock to the earliest timer
and wakes what is due. Each of this is a run of callbacks, clock moves and wakings
(`BotBench.Bench.advance_reached`, `BotBench.Bench.runToEnd_reached`), so that what holds of every
run holds of what the loop makes of a bench. Waking in the order of the timers relies on each timer
having a sleeping task of its own (`BotBench.Bench.Timed`), which every move keeps. -/

namespace BotBench

/-- Whether a move is a step of the event loop. -/
def Move.ofLoop : Move → Bool
  | .callback _ | .wake _ | .clock _ => true
  | _ => false

namespace Bench

/-! ## Timers and sleeping tasks -/

/-- Each timer has a task of its own, and the task sleeps. -/
structure Timed (b : Bench) : Prop where
  asleep : ∀ timer ∈ b.timers, ∃ task, b.tasks[timer.task]? = some task ∧ task.state = .asleep
  distinct : (b.timers.map (·.task)).Nodup

theorem timed_opening (draws : Draws) : (opening draws).Timed :=
  ⟨by simp [opening], by simp [opening]⟩

/-- A change of a task that has no timer keeps the timers in order. -/
theorem Timed.setTask {b : Bench} (timed : b.Timed) {id : Nat}
    (untimed : ∀ timer ∈ b.timers, timer.task ≠ id) (change : Task → Task) :
    (b.setTask id change).Timed := by
  refine ⟨?_, timed.distinct⟩
  intro timer member
  rw [getElem?_setTask, if_neg (Ne.symm (untimed timer member))]
  exact timed.asleep timer member

/-- A change that leaves the state of a task as it is keeps the timers in order. -/
theorem Timed.setTask_of_state {b : Bench} (timed : b.Timed) (id : Nat) {change : Task → Task}
    (kept : ∀ task, (change task).state = task.state) : (b.setTask id change).Timed := by
  refine ⟨?_, timed.distinct⟩
  intro timer member
  obtain ⟨task, present, asleep⟩ := timed.asleep timer member
  rw [getElem?_setTask]
  split
  · exact ⟨change task, by rw [present]; rfl, (kept task).trans asleep⟩
  · exact ⟨task, present, asleep⟩

/-- A task that does not sleep has no timer. -/
theorem Timed.untimed {b : Bench} (timed : b.Timed) {id : Nat} {task : Task}
    (present : b.tasks[id]? = some task) (awake : task.state ≠ .asleep) :
    ∀ timer ∈ b.timers, timer.task ≠ id := by
  rintro timer member rfl
  obtain ⟨sleeper, there, asleep⟩ := timed.asleep timer member
  rw [present, Option.some.injEq] at there
  subst there
  exact awake asleep

/-- Waking a task together with its timer keeps the timers in order. -/
theorem Timed.rouse {b : Bench} (timed : b.Timed) (id : Nat) (change : Task → Task)
    (ready : List Callback) :
    ({ b.setTask id change with
      ready
      timers := b.timers.filter fun timer => timer.task != id } : Bench).Timed := by
  refine ⟨?_, (timed.distinct.sublist (List.filter_sublist.map _))⟩
  intro timer member
  obtain ⟨member, apart⟩ := List.mem_filter.mp member
  have other : id ≠ timer.task := Ne.symm (by simpa using apart)
  change ∃ task, (b.setTask id change).tasks[timer.task]? = some task ∧ _
  rw [getElem?_setTask, if_neg other]
  exact timed.asleep timer member

theorem timed_law : QueueLaw Timed where
  frame timed tasks timers := by
    refine ⟨?_, by rw [timers]; exact timed.distinct⟩
    rw [tasks, timers]
    exact timed.asleep
  spawn routine timed := by
    refine ⟨?_, timed.distinct⟩
    intro timer member
    obtain ⟨task, present, asleep⟩ := timed.asleep timer member
    refine ⟨task, ?_, asleep⟩
    exact List.getElem?_append_left (List.getElem?_eq_some_iff.mp present).1 ▸ present
  cancel {b} id timed := by
    unfold cancel
    split
    · exact timed
    · rename_i task present
      split
      · exact timed
      · exact timed.setTask_of_state id fun _ => rfl
      · exact timed.rouse id _ _
      · exact timed.rouse id _ _

/-- A queued task stays queued while tasks start and are cancelled. -/
theorem queued_law (id : Nat) :
    QueueLaw fun b => ∃ task, b.tasks[id]? = some task ∧ task.state = .queued :=
  task_law id (fun _ queued => queued) fun _ _ => rfl

theorem Timed.finish {b : Bench} (timed : b.Timed) {id : Nat} {task : Task}
    (present : b.tasks[id]? = some task) (awake : task.state ≠ .asleep) (answer : Option Answer) :
    (b.finish id answer).Timed := by
  unfold Bench.finish
  rw [present]
  exact timed_law.frame (timed.setTask (timed.untimed present awake) _) rfl rfl

theorem Timed.sleep {b : Bench} (timed : b.Timed) {id : Nat} {task : Task}
    (present : b.tasks[id]? = some task) (awake : task.state ≠ .asleep) (config : Config)
    (span : Span) (routine : Routine) : (b.sleep config id span routine).Timed := by
  have untimed := timed.untimed present awake
  have asleep (due : Span) :
      ({ b.setTask id fun task => { task with routine, state := .asleep } with
        timers := b.timers ++ [⟨due, id⟩] } : Bench).Timed := by
    have kept := timed.setTask untimed fun task => { task with routine, state := .asleep }
    refine ⟨?_, ?_⟩
    · intro timer member
      rcases List.mem_append.mp member with member | member
      · exact kept.asleep timer member
      · rw [List.mem_singleton.mp member]
        change ∃ task, (b.setTask id _).tasks[id]? = some task ∧ _
        rw [getElem?_setTask, if_pos rfl, present]
        exact ⟨_, rfl, rfl⟩
    · rw [List.map_append, List.nodup_append]
      refine ⟨timed.distinct, by simp, ?_⟩
      intro first member second last
      obtain ⟨timer, inside, rfl⟩ := List.mem_map.mp member
      have same : second = id := by simpa using last
      rw [same]
      exact untimed timer inside
  unfold Bench.sleep
  cases span with
  | finite seconds =>
      dsimp only
      split
      · exact timed_law.frame (timed.setTask untimed _) rfl rfl
      · exact asleep _
  | endless => exact asleep .endless

theorem Timed.wait {b : Bench} (timed : b.Timed) {id : Nat} {task : Task}
    (present : b.tasks[id]? = some task) (awake : task.state ≠ .asleep) (target : Nat)
    (routine : Routine) : (b.wait id target routine).Timed := by
  have paused := timed.setTask (timed.untimed present awake)
    fun task => { task with routine, state := .waiting }
  unfold Bench.wait
  dsimp only
  split
  · exact timed_law.frame paused rfl rfl
  · exact paused.setTask_of_state target fun _ => rfl

theorem Timed.obey {b : Bench} (timed : b.Timed) {id : Nat} {task : Task}
    (present : b.tasks[id]? = some task) (awake : task.state ≠ .asleep) (config : Config)
    (verdict : Verdict) : (b.obey config id verdict).Timed := by
  cases verdict with
  | sleep span routine => exact timed.sleep present awake config span routine
  | wait target routine => exact timed.wait present awake target routine
  | finish answer => exact timed.finish present awake answer

theorem Timed.resume {b : Bench} (timed : b.Timed) (config : Config) (id : Nat) :
    (b.resume config id).Timed := by
  unfold Bench.resume
  split
  · exact timed
  · rename_i task present
    split
    · exact timed
    · rename_i state
      have queued : task.state = .queued := by simpa using state
      have awake : task.state ≠ .asleep := by simp [queued]
      split
      · unfold unwind
        dsimp only
        split
        · obtain ⟨task', present', queued'⟩ :=
            (queued_law id).leaveTicker ⟨task, present, queued⟩
          exact (timed_law.leaveTicker timed).finish present' (by simp [queued']) none
        · exact timed.finish present awake none
      · obtain ⟨task', present', queued'⟩ :=
          (queued_law id).perform task.routine ⟨task, present, queued⟩
        exact (timed_law.perform task.routine timed).obey present' (by simp [queued']) config _

theorem Timed.notify {b : Bench} (timed : b.Timed) (id : Nat) : (b.notify id).Timed := by
  unfold Bench.notify
  split
  · exact timed
  · rename_i task present
    split
    · rename_i waiting
      have state : task.state = .waiting := by simpa using waiting
      have awake : task.state ≠ .asleep := by simp [state]
      exact timed_law.frame (timed.setTask (timed.untimed present awake) _) rfl rfl
    · exact timed

theorem Timed.step {b : Bench} (timed : b.Timed) (config : Config) (move : Move) :
    (b.step config move).Timed := by
  cases move with
  | operate operation => exact timed_law.operate timed
  | call call => exact timed_law.spawn _ timed
  | awaitIdle bot => exact timed_law.spawn _ timed
  | callback place =>
      change (b.runAt config place).Timed
      unfold runAt
      split
      · rename_i callback present
        have taken : ({ b with ready := b.ready.eraseIdx place } : Bench).Timed :=
          timed_law.frame timed rfl rfl
        cases callback with
        | resume id => exact taken.resume config id
        | notify id => exact taken.notify id
      · exact timed
  | wake id =>
      change (b.wake id).Timed
      unfold wake
      split
      · split
        · exact timed.rouse id _ _
        · exact timed
      · exact timed
  | clock time => exact timed_law.frame timed rfl rfl

theorem timed_run (config : Config) (draws : Draws) (moves : List Move) :
    ((opening draws).run config moves).Timed :=
  run_keeps (fun _ move _ timed => timed.step config move) (timed_opening draws)

/-! ## The loop -/

/-- The bench `b'` is what some steps of the loop make of the bench `b`. -/
def Reaches (config : Config) (b b' : Bench) : Prop :=
  ∃ moves, (∀ move ∈ moves, move.ofLoop = true) ∧ b' = b.run config moves

theorem Reaches.refl (config : Config) (b : Bench) : Reaches config b b := ⟨[], by simp, rfl⟩

theorem Reaches.trans {config : Config} {b b' b'' : Bench} (first : Reaches config b b')
    (second : Reaches config b' b'') : Reaches config b b'' := by
  obtain ⟨earlier, loop, rfl⟩ := first
  obtain ⟨later, loop', rfl⟩ := second
  refine ⟨earlier ++ later, ?_, (run_append ..).symm⟩
  intro move member
  rcases List.mem_append.mp member with member | member
  · exact loop move member
  · exact loop' move member

theorem Reaches.step (config : Config) (b : Bench) (move : Move) (loop : move.ofLoop = true) :
    Reaches config b (b.step config move) :=
  ⟨[move], by simpa using loop, rfl⟩

theorem Reaches.timed {config : Config} {b b' : Bench} (reached : Reaches config b b')
    (timed : b.Timed) : b'.Timed := by
  obtain ⟨moves, -, rfl⟩ := reached
  exact run_keeps (fun _ move _ timed => timed.step config move) timed

theorem settle_reached (config : Config) (fuel : Nat) (b : Bench) :
    Reaches config b (b.settle config fuel) := by
  induction fuel generalizing b with
  | zero => exact .refl config b
  | succ fuel ih =>
      unfold settle
      split
      · exact .refl config b
      · rename_i callback rest queue
        have first : ({ b with ready := rest } : Bench).runCallback config callback =
            b.step config (.callback 0) := by
          change _ = b.runAt config 0
          unfold runAt
          rw [queue]
          rfl
        rw [first]
        exact (Reaches.step config b (.callback 0) rfl).trans (ih _)

/-- Insertion in order rearranges the timers. -/
theorem perm_insertTimer (timer : Timer) (timers : List Timer) :
    (insertTimer timer timers).Perm (timer :: timers) := by
  induction timers with
  | nil => exact .refl _
  | cons first rest ih =>
      unfold insertTimer
      split
      · exact .refl _
      · exact (ih.cons first).trans (.swap timer first rest)

theorem perm_sortTimers (timers sorted : List Timer) :
    (timers.foldl (fun sorted timer => insertTimer timer sorted) sorted).Perm
      (timers ++ sorted) := by
  induction timers generalizing sorted with
  | nil => exact .refl _
  | cons first rest ih =>
      rw [List.foldl_cons]
      refine (ih _).trans ?_
      exact ((perm_insertTimer first sorted).append_left rest).trans List.perm_middle

/-- Waking sleeping tasks one after the other, each with its timer, is taking all their timers away
and then waking the tasks. -/
theorem run_wake (config : Config) (due : List Timer) {b : Bench}
    (asleep : ∀ timer ∈ due, ∃ task, b.tasks[timer.task]? = some task ∧ task.state = .asleep)
    (distinct : (due.map (·.task)).Nodup) :
    b.run config (due.map fun timer => .wake timer.task) =
      due.foldl (fun b timer =>
        { b.setTask timer.task fun task => { task with state := .queued } with
          ready := b.ready ++ [.resume timer.task] })
        { b with timers := b.timers.filter fun timer => timer.task ∉ due.map (·.task) } := by
  -- by induction on the timers that are due: waking the first leaves the tasks of the rest asleep
  induction due generalizing b with
  | nil => simp
  | cons first rest ih =>
      obtain ⟨task, present, sleeping⟩ := asleep first List.mem_cons_self
      obtain ⟨apart, distinct⟩ := List.nodup_cons.mp distinct
      have woken : b.step config (.wake first.task) =
          { b.setTask first.task fun task => { task with state := .queued } with
            ready := b.ready ++ [.resume first.task]
            timers := b.timers.filter fun timer => timer.task != first.task } :=
        wake_of_asleep present sleeping
      rw [List.map_cons, run_cons, woken, ih ?_ distinct, List.foldl_cons]
      · congr 1
        simp only [setTask, List.filter_filter, List.map_cons, List.mem_cons, not_or,
          Bool.decide_and, Bool.and_comm, decide_not, bne, beq_eq_decide]
      · intro timer member
        have other : first.task ≠ timer.task := by
          intro same
          exact apart (List.mem_map.mpr ⟨timer, member, same.symm⟩)
        obtain ⟨task', present', sleeping'⟩ := asleep timer (List.mem_cons_of_mem _ member)
        refine ⟨task', ?_, sleeping'⟩
        change (b.setTask first.task _).tasks[timer.task]? = _
        rw [getElem?_setTask, if_neg other]
        exact present'

theorem fireDue_reached (config : Config) {b : Bench} (timed : b.Timed) :
    Reaches config b b.fireDue := by
  let isDue (timer : Timer) : Bool := timer.due.before (.finite (b.clock + tolerance))
  let due := (b.timers.filter isDue).foldl (fun sorted timer => insertTimer timer sorted) []
  have rearranged : due.Perm (b.timers.filter isDue) := by
    simpa using perm_sortTimers (b.timers.filter isDue) []
  have among (timer : Timer) : timer ∈ due ↔ timer ∈ b.timers ∧ isDue timer = true := by
    rw [rearranged.mem_iff, List.mem_filter]
  -- no task has two timers, so that waking the tasks that are due takes away no other timer
  have left : b.timers.filter (fun timer => !isDue timer) =
      b.timers.filter fun timer => timer.task ∉ due.map (·.task) := by
    apply List.filter_congr
    intro timer member
    rw [Bool.eq_iff_iff, Bool.not_eq_true', decide_eq_true_iff, ← Bool.not_eq_true]
    apply not_congr
    refine ⟨?_, ?_⟩
    · intro isDue
      exact List.mem_map_of_mem ((among timer).mpr ⟨member, isDue⟩)
    · intro named
      obtain ⟨other, inside, same⟩ := List.mem_map.mp named
      obtain ⟨there, isDue⟩ := (among other).mp inside
      rwa [← List.inj_on_of_nodup_map timed.distinct there member same]
  have distinct : (due.map (·.task)).Nodup := by
    rw [(rearranged.map _).nodup_iff]
    exact timed.distinct.sublist (List.filter_sublist.map _)
  refine ⟨due.map fun timer => .wake timer.task, by simp [Move.ofLoop], ?_⟩
  rw [run_wake config due (fun timer member => timed.asleep timer ((among timer).mp member).1)
    distinct, ← left]
  rfl

theorem moveTo_reached (config : Config) (fuel : Nat) {b : Bench} (timed : b.Timed) (time : Rat) :
    Reaches config b (b.moveTo config fuel time) := by
  have shown : Reaches config b { b with clock := time } := .step config b (.clock time) rfl
  have fired := fireDue_reached config (shown.timed timed)
  exact (shown.trans fired).trans (settle_reached config fuel _)

theorem runUntil_reached (config : Config) (fuel : Nat) (target : Rat) (steps : Nat) {b : Bench}
    (timed : b.Timed) : Reaches config b (runUntil config fuel target steps b) := by
  induction steps generalizing b with
  | zero => exact .refl config b
  | succ steps ih =>
      unfold runUntil
      split
      · split
        · rename_i due _ _
          have moved := moveTo_reached config fuel timed due
          exact moved.trans (ih (moved.timed timed))
        · exact .refl config b
      · exact .refl config b

/-- Letting a span of time pass is a run. -/
theorem advance_reached (config : Config) (fuel : Nat) {b : Bench} (timed : b.Timed)
    (seconds : Rat) : Reaches config b (b.advance config fuel seconds) := by
  have settled := settle_reached config fuel b
  let target := config.rounding ((b.settle config fuel).clock + seconds)
  have waited := runUntil_reached config fuel target fuel (settled.timed timed)
  exact (settled.trans waited).trans (.step config _ (.clock target) rfl)

/-- Running a task to its end is a run. -/
theorem runToEnd_reached (config : Config) (fuel task steps : Nat) {b : Bench} (timed : b.Timed) :
    Reaches config b (runToEnd config fuel task steps b) := by
  induction steps generalizing b with
  | zero => exact .refl config b
  | succ steps ih =>
      unfold runToEnd
      split
      · exact .refl config b
      · split
        · rename_i due _
          have moved := moveTo_reached config fuel timed due
          exact moved.trans (ih (moved.timed timed))
        · exact .refl config b

end Bench

end BotBench
