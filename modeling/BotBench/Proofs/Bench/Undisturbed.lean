import BotBench.Proofs.Bench.Standing

/-! # Undisturbed tasks

A task goes on when the loop resumes it, tells it that its wait is over or wakes it. Any other move
leaves it undisturbed, unless it cancels it: the task goes on where it would have gone on, its timer
is still set, and its resumption is still queued (`BotBench.Bench.undisturbed_step`). A task that
has just been started is queued (`BotBench.Bench.queued_of_started`). -/

namespace BotBench

namespace Bench

variable {config : Config} {b b' b'' : Bench} {id other : Nat}

/-- Whether a task has been cancelled. -/
def Cancelled (b : Bench) (id : Nat) : Prop :=
  ∃ task, b.tasks[id]? = some task ∧ task.cancelled = true

/-- From one bench to another, a task has at most become watched by others, and nothing that is to
wake or to resume it has been lost. -/
structure Undisturbed (id : Nat) (b b' : Bench) : Prop where
  task : ∀ {task}, b.tasks[id]? = some task → ∃ watchers, b'.tasks[id]? = some { task with watchers }
  timer : ∀ {due}, ⟨due, id⟩ ∈ b.timers → ⟨due, id⟩ ∈ b'.timers
  resumed : .resume id ∈ b.ready → .resume id ∈ b'.ready

theorem Undisturbed.refl (id : Nat) (b : Bench) : Undisturbed id b b :=
  ⟨fun {task} present => ⟨task.watchers, present⟩, fun member => member, fun member => member⟩

theorem Undisturbed.trans (first : Undisturbed id b b') (second : Undisturbed id b' b'') :
    Undisturbed id b b'' where
  task present := by
    obtain ⟨watchers, present'⟩ := first.task present
    obtain ⟨more, present''⟩ := second.task present'
    exact ⟨more, present''⟩
  timer member := second.timer (first.timer member)
  resumed member := second.resumed (first.resumed member)

/-- From one bench to another, a task has been left undisturbed or has been cancelled. -/
def Spared (id : Nat) (b b' : Bench) : Prop := b'.Cancelled id ∨ Undisturbed id b b'

theorem Spared.trans (first : Spared id b b') (second : Spared id b' b'') : Spared id b b'' := by
  rcases second with cancelled | second
  · exact .inl cancelled
  · rcases first with ⟨task, present, cancelled⟩ | first
    · obtain ⟨watchers, present'⟩ := second.task present
      exact .inl ⟨{ task with watchers }, present', cancelled⟩
    · exact .inr (first.trans second)

/-! ## What is done to other tasks -/

/-- A change of another task, with what comes and goes for it in the queue and among the timers. -/
theorem undisturbed_setTask (apart : other ≠ id) (change : Task → Task) {timers : List Timer}
    {ready : List Callback} (timed : ∀ {due}, ⟨due, id⟩ ∈ b.timers → ⟨due, id⟩ ∈ timers)
    (queued : .resume id ∈ b.ready → .resume id ∈ ready) :
    Undisturbed id b { b.setTask other change with timers, ready } where
  task {task} present :=
    ⟨task.watchers, (getElem?_setTask ..).trans ((if_neg apart).trans present)⟩
  timer := timed
  resumed := queued

theorem undisturbed_watched (b : Bench) (other waiting : Nat) :
    Undisturbed id b
      (b.setTask other fun task => { task with watchers := task.watchers ++ [waiting] }) where
  task {task} present := by
    rw [getElem?_setTask, present]
    split
    · exact ⟨task.watchers ++ [waiting], rfl⟩
    · exact ⟨task.watchers, rfl⟩
  timer member := member
  resumed member := member

theorem undisturbed_spawn (b : Bench) (routine : Routine) :
    Undisturbed id b (b.spawn routine).2 where
  task {task} present := ⟨task.watchers, getElem?_spawn present routine⟩
  timer member := member
  resumed member := List.mem_append_left _ member

theorem mem_timers_without (apart : other ≠ id) {due : Span} (member : ⟨due, id⟩ ∈ b.timers) :
    ⟨due, id⟩ ∈ b.timers.filter fun timer => timer.task != other :=
  List.mem_filter.mpr ⟨member, by simpa using Ne.symm apart⟩

/-- A task that is cancelled is no longer looked after, and every other one is undisturbed. -/
theorem spared_cancel (id : Nat) (b : Bench) (other : Nat) : Spared id b (b.cancel other) := by
  by_cases same : other = id
  · subst same
    unfold Bench.cancel
    cases present : b.tasks[other]? with
    | none => exact .inr (.refl other b)
    | some task =>
        have marked (change : Task → Task) (ends : (change task).cancelled = true) :
            (b.setTask other change).Cancelled other :=
          ⟨change task, by rw [getElem?_setTask, if_pos rfl, present]; rfl, ends⟩
        dsimp only
        split
        · exact .inr (.refl other b)
        · exact .inl (marked (fun task => { task with cancelled := true }) rfl)
        all_goals
          exact .inl
            (marked (fun task => { task with cancelled := true, state := .queued }) rfl)
  · right
    unfold Bench.cancel
    split
    · exact .refl id b
    · split
      · exact .refl id b
      · exact undisturbed_setTask same _ (fun member => member) fun member => member
      all_goals
        exact undisturbed_setTask same _ (mem_timers_without same)
          fun member => List.mem_append_left _ member

/-- What users do, and what tasks do before they sleep, wait or end, cancels a task or leaves it
undisturbed. -/
theorem spared_law (id : Nat) (b : Bench) : TableLaw (Spared id b) :=
  .of_queue
    (fun {b' b''} spared tasks timers ready _ => by
      refine spared.trans (.inr ⟨?_, ?_, ?_⟩)
      · intro task present
        exact ⟨task.watchers, tasks ▸ present⟩
      · rw [timers]
        exact fun member => member
      · rw [ready]
        exact fun member => member)
    (fun routine spared => spared.trans (.inr (undisturbed_spawn _ routine)))
    fun other spared => spared.trans (spared_cancel id _ other)

theorem undisturbed_finish (apart : other ≠ id) (b : Bench) (answer : Option Answer) :
    Undisturbed id b (b.finish other answer) := by
  unfold Bench.finish
  split
  · exact .refl id b
  · exact undisturbed_setTask apart _ (fun member => member)
      fun member => List.mem_append_left _ member

theorem undisturbed_sleep (apart : other ≠ id) (config : Config) (b : Bench) (span : Span)
    (routine : Routine) : Undisturbed id b (b.sleep config other span routine) := by
  have asleep (due : Span) : Undisturbed id b
      { b.setTask other fun task => { task with routine, state := .asleep } with
        timers := b.timers ++ [⟨due, other⟩] } :=
    undisturbed_setTask apart _ (fun member => List.mem_append_left _ member) fun member => member
  unfold Bench.sleep
  cases span with
  | finite seconds =>
      dsimp only
      split
      · exact undisturbed_setTask apart _ (fun member => member)
          fun member => List.mem_append_left _ member
      · exact asleep _
  | endless => exact asleep .endless

theorem undisturbed_wait (apart : other ≠ id) (b : Bench) (target : Nat) (routine : Routine) :
    Undisturbed id b (b.wait other target routine) := by
  have paused : Undisturbed id b
      (b.setTask other fun task => { task with routine, state := .waiting }) :=
    undisturbed_setTask apart _ (fun member => member) fun member => member
  unfold Bench.wait
  dsimp only
  split
  · exact ⟨paused.task, paused.timer, fun member => List.mem_append_left _ member⟩
  · exact paused.trans (undisturbed_watched _ target other)

theorem undisturbed_obey (apart : other ≠ id) (config : Config) (b : Bench) (verdict : Verdict) :
    Undisturbed id b (b.obey config other verdict) := by
  cases verdict with
  | sleep span routine => exact undisturbed_sleep apart config b span routine
  | wait target routine => exact undisturbed_wait apart b target routine
  | finish answer => exact undisturbed_finish apart b answer

theorem spared_resume (apart : other ≠ id) (config : Config) (b : Bench) :
    Spared id b (b.resume config other) := by
  have law := spared_law id b
  have here : Spared id b b := .inr (.refl id b)
  unfold Bench.resume
  split
  · exact here
  · rename_i task _
    split
    · exact here
    · split
      · unfold unwind
        dsimp only
        split
        · exact (law.leaveTicker _ other here).trans (.inr (undisturbed_finish apart _ none))
        · exact .inr (undisturbed_finish apart b none)
      · exact (law.perform task.routine here).trans (.inr (undisturbed_obey apart config _ _))

theorem undisturbed_notify (apart : other ≠ id) (b : Bench) : Undisturbed id b (b.notify other) := by
  unfold Bench.notify
  split
  · exact .refl id b
  · split
    · exact undisturbed_setTask apart _ (fun member => member)
        fun member => List.mem_append_left _ member
    · exact .refl id b

theorem undisturbed_wake (apart : other ≠ id) (b : Bench) : Undisturbed id b (b.wake other) := by
  unfold Bench.wake
  split
  · split
    · exact undisturbed_setTask apart _ (mem_timers_without apart)
        fun member => List.mem_append_left _ member
    · exact .refl id b
  · exact .refl id b

/-- Taking another callback from the queue. -/
theorem undisturbed_taken {place : Nat} {callback : Callback}
    (queued : b.ready[place]? = some callback) (apart : .resume id ≠ callback) :
    Undisturbed id b { b with ready := b.ready.eraseIdx place } where
  task {task} present := ⟨task.watchers, present⟩
  timer member := member
  resumed := mem_eraseIdx_of_ne queued apart

/-- **Only the loop disturbs a task.** A move that neither resumes or wakes a task nor tells it that
its wait is over leaves it undisturbed or cancels it. -/
theorem undisturbed_step (config : Config) (b : Bench) {move : Move}
    (foreign : b.addressee? move ≠ some id) (unwoken : move ≠ .wake id) :
    Spared id b (b.step config move) := by
  have here : Spared id b b := .inr (.refl id b)
  cases move with
  | operate operation => exact (spared_law id b).operate here
  | call call => exact .inr (undisturbed_spawn b (.serve call))
  | awaitIdle bot => exact .inr (undisturbed_spawn b (.awaitIdle bot false))
  | callback place =>
      change Spared id b (b.runAt config place)
      unfold runAt
      split
      · rename_i callback queued
        have apart : callback.task ≠ id := fun same => foreign (by simp [addressee?, queued, same])
        have taken : Spared id b { b with ready := b.ready.eraseIdx place } :=
          .inr (undisturbed_taken queued fun same => apart (by rw [← same]; rfl))
        cases callback with
        | resume other => exact taken.trans (spared_resume apart config _)
        | notify other => exact taken.trans (.inr (undisturbed_notify apart _))
      · exact here
  | wake other => exact .inr (undisturbed_wake (fun same => unwoken (by rw [same])) b)
  | clock time =>
      exact .inr ⟨fun {task} present => ⟨task.watchers, present⟩, fun member => member,
        fun member => member⟩

/-! ## Tasks that have just been started -/

/-- The tasks from a number on are queued, and their resumptions are in the queue. -/
def QueuedFrom (count : Nat) (b : Bench) : Prop :=
  ∀ id task, count ≤ id → b.tasks[id]? = some task →
    task.state = .queued ∧ .resume id ∈ b.ready

variable {count : Nat}

/-- Before anything has been started there is nothing to show. -/
theorem queuedFrom_length (b : Bench) : QueuedFrom b.tasks.length b := by
  intro id task above present
  have inside := (List.getElem?_eq_some_iff.mp present).1
  omega

/-- A task may change that was there before, or one that stays queued. -/
theorem QueuedFrom.setTask (queued : QueuedFrom count b) {change : Task → Task}
    {timers : List Timer} {ready : List Callback}
    (state : count ≤ other → ∀ task, task.state = .queued → (change task).state = .queued)
    (grows : b.ready ⊆ ready) :
    QueuedFrom count { b.setTask other change with timers, ready } := by
  intro id task above present
  change (b.setTask other change).tasks[id]? = some task at present
  rw [getElem?_setTask] at present
  split at present
  · rename_i same
    obtain ⟨found, there, rfl⟩ := Option.map_eq_some_iff.mp present
    obtain ⟨old, member⟩ := queued id found above there
    exact ⟨state (same ▸ above) found old, grows member⟩
  · obtain ⟨old, member⟩ := queued id task above present
    exact ⟨old, grows member⟩

theorem QueuedFrom.spawn (queued : QueuedFrom count b) (routine : Routine) :
    QueuedFrom count (b.spawn routine).2 := by
  intro id task above present
  change (b.tasks ++ [({ routine } : Task)])[id]? = some task at present
  rw [List.getElem?_append] at present
  split at present
  · obtain ⟨state, member⟩ := queued id task above present
    exact ⟨state, List.mem_append_left _ member⟩
  · have last : id = b.tasks.length := by
      have inside := (List.getElem?_eq_some_iff.mp present).1
      rw [List.length_singleton] at inside
      omega
    subst last
    simp only [Nat.sub_self, List.getElem?_cons_zero, Option.some.injEq] at present
    subst present
    exact ⟨rfl, List.mem_append_right _ (List.mem_singleton.mpr rfl)⟩

theorem QueuedFrom.cancel (queued : QueuedFrom count b) (id : Nat) :
    QueuedFrom count (b.cancel id) := by
  unfold Bench.cancel
  split
  · exact queued
  · split
    · exact queued
    · exact queued.setTask (fun _ _ old => old) (List.Subset.refl _)
    all_goals exact queued.setTask (fun _ _ _ => rfl) (List.subset_append_left _ _)

theorem queuedFrom_law (count : Nat) : TableLaw (QueuedFrom count) :=
  .of_queue
    (fun {b b'} queued tasks _ ready _ => by
      unfold QueuedFrom
      rw [tasks, ready]
      exact queued)
    (fun routine queued => queued.spawn routine) fun id queued => queued.cancel id

section Earlier

variable (queued : QueuedFrom count b) (earlier : id < count)

include queued earlier

theorem QueuedFrom.finish (answer : Option Answer) : QueuedFrom count (b.finish id answer) := by
  unfold Bench.finish
  split
  · exact queued
  · exact queued.setTask (fun above => absurd earlier (Nat.not_lt.mpr above))
      (List.subset_append_left _ _)

theorem QueuedFrom.obey (config : Config) (verdict : Verdict) :
    QueuedFrom count (b.obey config id verdict) := by
  have apart (change : Task → Task) (above : count ≤ id) :
      ∀ task, task.state = .queued → (change task).state = .queued :=
    absurd earlier (Nat.not_lt.mpr above)
  have paused (routine : Routine) (state : TaskState) :
      QueuedFrom count (b.setTask id fun task => { task with routine, state }) :=
    queued.setTask (apart _) (List.Subset.refl _)
  cases verdict with
  | sleep span routine =>
      change QueuedFrom count (b.sleep config id span routine)
      unfold Bench.sleep
      cases span with
      | finite seconds =>
          dsimp only
          split
          · exact queued.setTask (apart _) (List.subset_append_left _ _)
          · exact paused routine .asleep
      | endless => exact paused routine .asleep
  | wait target routine =>
      change QueuedFrom count (b.wait id target routine)
      unfold Bench.wait
      dsimp only
      split
      · exact queued.setTask (apart _) (List.subset_append_left _ _)
      · exact (paused routine .waiting).setTask (fun _ _ old => old) (List.Subset.refl _)
  | finish answer => exact queued.finish earlier answer

theorem QueuedFrom.resume (config : Config) : QueuedFrom count (b.resume config id) := by
  have law := queuedFrom_law count
  unfold Bench.resume
  split
  · exact queued
  · rename_i task _
    split
    · exact queued
    · split
      · unfold unwind
        dsimp only
        split
        · exact (law.leaveTicker _ id queued).finish earlier none
        · exact queued.finish earlier none
      · exact (law.perform task.routine queued).obey earlier config _

end Earlier

/-- A task that a move starts is queued after it. -/
theorem queued_of_started (config : Config) (b : Bench) (move : Move) :
    QueuedFrom b.tasks.length (b.step config move) := by
  have queued := queuedFrom_length b
  cases move with
  | operate operation => exact (queuedFrom_law _).operate queued
  | call call => exact queued.spawn _
  | awaitIdle bot => exact queued.spawn _
  | callback place =>
      change QueuedFrom _ (b.runAt config place)
      unfold runAt
      split
      · rename_i callback _
        have taken : QueuedFrom b.tasks.length { b with ready := b.ready.eraseIdx place } := by
          intro id task above present
          have inside := (List.getElem?_eq_some_iff.mp present).1
          exact absurd inside (Nat.not_lt.mpr above)
        cases callback with
        | resume id =>
            by_cases earlier : id < b.tasks.length
            · exact taken.resume earlier config
            · have missing : b.tasks[id]? = none := List.getElem?_eq_none (Nat.not_lt.mp earlier)
              change QueuedFrom _ (resume config _ id)
              unfold Bench.resume
              dsimp only
              rw [missing]
              exact taken
        | notify id =>
            change QueuedFrom _ (notify _ id)
            unfold Bench.notify
            split
            · exact taken
            · split
              · exact taken.setTask (fun _ _ _ => rfl) (List.subset_append_left _ _)
              · exact taken
      · exact queued
  | wake id =>
      change QueuedFrom _ (b.wake id)
      unfold Bench.wake
      split
      · split
        · exact queued.setTask (fun _ _ _ => rfl) (List.subset_append_left _ _)
        · exact queued
      · exact queued
  | clock time => exact queued

end Bench

end BotBench
