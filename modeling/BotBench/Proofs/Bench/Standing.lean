import BotBench.Proofs.Bench.Effect
import BotBench.Proofs.Bench.Queue

/-! # Tasks outside the tables

Only the tables lead from one bot's operations to tasks: a task that stands in neither of them is
not cancelled, and nobody waits for it. It stays as it is until the loop resumes it or tells it that
its wait is over, and whatever is to wake it up stays there (`BotBench.Bench.Kept.step`). -/

namespace BotBench

/-- The task that a callback is for. -/
def Callback.task : Callback → Nat
  | .resume task | .notify task => task

namespace Bench

/-- The tasks that stand in the tables. -/
def listed (b : Bench) : List Nat := b.sequencers.map (·.2) ++ b.tickers.map (·.2)

/-- A task is as it is said to be and stands in no table. -/
structure Stands (b : Bench) (id : Nat) (task : Task) : Prop where
  present : b.tasks[id]? = some task
  unlisted : id ∉ b.listed

/-- A waiting task will be told that its wait is over: the callback is queued, or a task that has
not ended yet has it among its watchers. -/
def Tended (b : Bench) (id : Nat) : Prop :=
  .notify id ∈ b.ready ∨
    ∃ (target : Nat) (found : Task),
      b.tasks[target]? = some found ∧ found.state ≠ .finished ∧ id ∈ found.watchers

/-- From one bench to another, a task outside the tables has stayed as it is, and nothing that is to
wake it has been lost. -/
structure Kept (id : Nat) (task : Task) (b b' : Bench) : Prop where
  stands : b'.Stands id task
  resumed : .resume id ∈ b.ready → .resume id ∈ b'.ready
  tended : b.Tended id → b'.Tended id

variable {b b' b'' : Bench} {id other : Nat} {task : Task} {config : Config}

theorem Kept.refl (stands : b.Stands id task) : Kept id task b b :=
  ⟨stands, fun member => member, fun tended => tended⟩

theorem Kept.trans (first : Kept id task b b') (second : Kept id task b' b'') :
    Kept id task b b'' :=
  ⟨second.stands, fun member => second.resumed (first.resumed member),
    fun tended => second.tended (first.tended tended)⟩

/-! ## Tables -/

theorem mem_setEntry {table : List (Int × Nat)} {key : Int} {value task : Nat}
    (member : task ∈ (setEntry table key value).map (·.2)) :
    task = value ∨ task ∈ table.map (·.2) := by
  unfold setEntry at member
  split at member
  · rw [List.map_map, List.mem_map] at member
    obtain ⟨entry, inside, rfl⟩ := member
    by_cases same : entry.1 = key
    · simp [same]
    · exact .inr (List.mem_map.mpr ⟨entry, inside, by simp [same]⟩)
  · rw [List.map_append, List.mem_append] at member
    rcases member with member | member
    · exact .inr member
    · exact .inl (by simpa using member)

theorem mem_eraseEntry {table : List (Int × Nat)} {key : Int} {task : Nat}
    (member : task ∈ (eraseEntry table key).map (·.2)) : task ∈ table.map (·.2) := by
  obtain ⟨entry, inside, rfl⟩ := List.mem_map.mp member
  exact List.mem_map.mpr ⟨entry, (List.mem_filter.mp inside).1, rfl⟩

/-- Tables that have lost tasks, and a queue that has got longer. -/
theorem Stands.grow (stands : b.Stands id task) (tasks : b'.tasks = b.tasks)
    (ready : b.ready ⊆ b'.ready) (listed : b'.listed ⊆ b.listed) : Kept id task b b' where
  stands := by
    refine ⟨?_, fun member => stands.unlisted (listed member)⟩
    rw [tasks]
    exact stands.present
  resumed member := ready member
  tended tended := by
    unfold Tended
    rw [tasks]
    exact tended.imp_left fun member => ready member

/-! ## Single tasks -/

/-- A change of another task that neither ends it nor loses a watcher. -/
theorem Stands.setTask (stands : b.Stands id task) (apart : other ≠ id) {change : Task → Task}
    (awake : ∀ found, found.state ≠ .finished → (change found).state ≠ .finished)
    (watchers : ∀ found, found.watchers ⊆ (change found).watchers) :
    Kept id task b (b.setTask other change) where
  stands := by
    refine ⟨?_, stands.unlisted⟩
    rw [getElem?_setTask, if_neg apart]
    exact stands.present
  resumed member := member
  tended tended := by
    rcases tended with member | ⟨target, found, present, unfinished, watched⟩
    · exact .inl member
    · right
      by_cases same : other = target
      · refine ⟨target, change found, ?_, awake found unfinished, watchers found watched⟩
        rw [getElem?_setTask, if_pos same, present]
        rfl
      · refine ⟨target, found, ?_, unfinished, watched⟩
        rw [getElem?_setTask, if_neg same]
        exact present

/-- Another task is queued. -/
theorem Stands.rouse (stands : b.Stands id task) (apart : other ≠ id) (change : Task → Task)
    (queued : ∀ found, (change found).state = .queued)
    (watchers : ∀ found, (change found).watchers = found.watchers) {timers : List Timer} :
    Kept id task b
      { b.setTask other change with ready := b.ready ++ [.resume other], timers } := by
  have changed : Kept id task b (b.setTask other change) :=
    stands.setTask apart (fun found _ => by simp [queued found]) fun found => by
      rw [watchers found]
      exact List.Subset.refl _
  exact changed.trans
    (changed.stands.grow rfl (List.subset_append_left _ _) (List.Subset.refl _))

theorem getElem?_spawn {found : Task} (present : b.tasks[id]? = some found) (routine : Routine) :
    (b.spawn routine).2.tasks[id]? = some found :=
  (List.getElem?_append_left (List.getElem?_eq_some_iff.mp present).1).trans present

theorem Stands.spawn (stands : b.Stands id task) (routine : Routine) :
    Kept id task b (b.spawn routine).2 where
  stands := ⟨getElem?_spawn stands.present routine, stands.unlisted⟩
  resumed member := List.mem_append_left _ member
  tended tended := by
    rcases tended with member | ⟨target, found, present, rest⟩
    · exact .inl (List.mem_append_left _ member)
    · exact .inr ⟨target, found, getElem?_spawn present routine, rest⟩

theorem Stands.cancel (stands : b.Stands id task) (apart : other ≠ id) :
    Kept id task b (b.cancel other) := by
  unfold Bench.cancel
  split
  · exact .refl stands
  · split
    · exact .refl stands
    · exact stands.setTask apart (fun _ awake => awake) fun _ => List.Subset.refl _
    all_goals
      exact stands.rouse apart (fun found => { found with cancelled := true, state := .queued })
        (fun _ => rfl) fun _ => rfl

/-- A task that is spawned is another one. -/
theorem Stands.ne_fresh (stands : b.Stands id task) : id ≠ b.tasks.length :=
  Nat.ne_of_lt (List.getElem?_eq_some_iff.mp stands.present).1

theorem Stands.schedule (stands : b.Stands id task) (bot : Int) (routine : Routine) :
    Kept id task b (b.schedule bot routine) := by
  obtain ⟨spawned, resumed, tended⟩ := stands.spawn routine
  refine ⟨⟨spawned.present, fun member => ?_⟩, resumed, tended⟩
  rcases List.mem_append.mp member with member | member
  · rcases mem_setEntry member with same | member
    · exact stands.ne_fresh same
    · exact stands.unlisted (List.mem_append_left _ member)
  · exact stands.unlisted (List.mem_append_right _ member)

theorem Stands.startTicker (stands : b.Stands id task) (bot : Int) :
    Kept id task b (b.startTicker bot) := by
  unfold Bench.startTicker
  split
  · exact .refl stands
  · obtain ⟨spawned, resumed, tended⟩ := stands.spawn (.ticker bot false)
    refine ⟨⟨spawned.present, fun member => ?_⟩, resumed, tended⟩
    rcases List.mem_append.mp member with member | member
    · exact stands.unlisted (List.mem_append_left _ member)
    · rcases mem_setEntry member with same | member
      · exact stands.ne_fresh same
      · exact stands.unlisted (List.mem_append_right _ member)

/-- A task that stands in a table is another one. -/
theorem Stands.ne_of_mem (stands : b.Stands id task) (member : other ∈ b.listed) : other ≠ id :=
  fun same => stands.unlisted (same ▸ member)

theorem listed_dropSequencer (b : Bench) (bot : Int) :
    { b with sequencers := eraseEntry b.sequencers bot }.listed ⊆ b.listed := fun _ member =>
  (List.mem_append.mp member).elim (fun member => List.mem_append_left _ (mem_eraseEntry member))
    fun member => List.mem_append_right _ member

theorem listed_dropTicker (b : Bench) (bot : Int) :
    { b with tickers := eraseEntry b.tickers bot }.listed ⊆ b.listed := fun _ member =>
  (List.mem_append.mp member).elim (fun member => List.mem_append_left _ member)
    fun member => List.mem_append_right _ (mem_eraseEntry member)

theorem Stands.stopSequencer (stands : b.Stands id task) (bot : Int) :
    Kept id task b (b.stopSequencer bot) := by
  unfold Bench.stopSequencer
  split
  · rename_i target entry
    have apart : target ≠ id :=
      stands.ne_of_mem (List.mem_append_left _ (mem_map_of_entry entry).2)
    have dropped : Kept id task b { b with sequencers := eraseEntry b.sequencers bot } :=
      stands.grow rfl (List.Subset.refl _) (listed_dropSequencer b bot)
    exact dropped.trans (dropped.stands.cancel apart)
  · exact .refl stands

theorem Stands.dropTicker (stands : b.Stands id task) (bot : Int) :
    Kept id task b { b with tickers := eraseEntry b.tickers bot } :=
  stands.grow rfl (List.Subset.refl _) (listed_dropTicker b bot)

theorem Stands.stopTicker (stands : b.Stands id task) (bot : Int) :
    Kept id task b (b.stopTicker bot) := by
  unfold Bench.stopTicker
  split
  · rename_i target entry
    have apart : target ≠ id :=
      stands.ne_of_mem (List.mem_append_right _ (mem_map_of_entry entry).2)
    have dropped := stands.dropTicker bot
    exact dropped.trans (dropped.stands.cancel apart)
  · exact .refl stands

theorem Stands.leaveTicker (stands : b.Stands id task) (bot : Int) (ticker : Nat) :
    Kept id task b (b.leaveTicker bot ticker) := by
  unfold Bench.leaveTicker
  split
  · exact stands.dropTicker bot
  · exact .refl stands

theorem Stands.cancelAll (stands : b.Stands id task) {targets : List Nat}
    (apart : id ∉ targets) : Kept id task b (targets.foldl Bench.cancel b) := by
  induction targets generalizing b with
  | nil => exact .refl stands
  | cons target targets ih =>
      rw [List.mem_cons, not_or] at apart
      have first := stands.cancel (Ne.symm apart.1)
      exact first.trans (ih first.stands apart.2)

/-- What users do, and what tasks do before they sleep, wait or end, leaves a task outside the
tables alone. -/
theorem kept_law (id : Nat) (task : Task) (b : Bench) : TableLaw (Kept id task b) where
  frame {_ b'} kept tasks _ ready sequencers tickers _ := by
    refine kept.trans (kept.stands.grow tasks (by rw [ready]; exact List.Subset.refl _) ?_)
    unfold listed
    rw [sequencers, tickers]
    exact List.Subset.refl _
  schedule bot routine kept := kept.trans (kept.stands.schedule bot routine)
  startTicker bot kept := kept.trans (kept.stands.startTicker bot)
  stopSequencer bot kept := kept.trans (kept.stands.stopSequencer bot)
  stopTicker bot kept := kept.trans (kept.stands.stopTicker bot)
  leaveTicker bot ticker kept := kept.trans (kept.stands.leaveTicker bot ticker)
  stopSequencers {b'} kept := by
    have apart : id ∉ b'.sequencers.map (·.2) := fun member =>
      kept.stands.unlisted (List.mem_append_left _ member)
    have cancelled := kept.stands.cancelAll apart
    refine kept.trans (cancelled.trans (cancelled.stands.grow rfl (List.Subset.refl _) ?_))
    exact fun _ member => List.mem_append_right _ member

/-! ## Steps of other tasks -/

theorem Stands.finish (stands : b.Stands id task) (apart : other ≠ id) (answer : Option Answer) :
    Kept id task b (b.finish other answer) := by
  unfold Bench.finish
  split
  · exact .refl stands
  · rename_i ended present
    refine ⟨⟨?_, stands.unlisted⟩, fun member => List.mem_append_left _ member, ?_⟩
    · exact (getElem?_setTask ..).trans ((if_neg apart).trans stands.present)
    · rintro (member | ⟨target, found, present', unfinished, watched⟩)
      · exact .inl (List.mem_append_left _ member)
      · by_cases same : other = target
        · -- the task that ends tells its watchers
          rw [same, present', Option.some.injEq] at present
          subst present
          exact .inl (List.mem_append_right _ (List.mem_map.mpr ⟨id, watched, rfl⟩))
        · exact .inr ⟨target, found, (getElem?_setTask ..).trans ((if_neg same).trans present'),
            unfinished, watched⟩

theorem Stands.sleep (stands : b.Stands id task) (apart : other ≠ id) (span : Span)
    (routine : Routine) : Kept id task b (b.sleep config other span routine) := by
  have asleep (timers : List Timer) :
      Kept id task b
        { b.setTask other fun found => { found with routine, state := .asleep } with timers } := by
    have changed : Kept id task b
        (b.setTask other fun found => { found with routine, state := .asleep }) :=
      stands.setTask apart (fun _ _ => by simp) fun _ => List.Subset.refl _
    exact changed.trans (changed.stands.grow rfl (List.Subset.refl _) (List.Subset.refl _))
  unfold Bench.sleep
  cases span with
  | finite seconds =>
      dsimp only
      split
      · exact stands.rouse apart (fun found => { found with routine, state := .queued })
          (fun _ => rfl) fun _ => rfl
      · exact asleep _
  | endless => exact asleep _

theorem Stands.wait (stands : b.Stands id task) (apart : other ≠ id) {target : Nat}
    (member : target ∈ b.listed) (routine : Routine) :
    Kept id task b (b.wait other target routine) := by
  have paused : Kept id task b
      (b.setTask other fun found => { found with routine, state := .waiting }) :=
    stands.setTask apart (fun _ _ => by simp) fun _ => List.Subset.refl _
  unfold Bench.wait
  dsimp only
  split
  · -- the other task waits for one that has ended, and is told so at once
    exact paused.trans
      (paused.stands.grow rfl (List.subset_append_left _ _) (List.Subset.refl _))
  · exact paused.trans (paused.stands.setTask (stands.ne_of_mem member) (fun _ awake => awake)
      fun _ => List.subset_append_left _ _)

theorem awaited_of_waitOrReport {wait : Bool} {status target : Nat} {bot : Int} {next : Routine}
    (waits : b.waitOrReport wait status bot = .wait target next) :
    entry? b.sequencers bot = some target ∧ next = .report status bot := by
  unfold waitOrReport at waits
  split at waits
  · rename_i entry
    split at entry
    · cases waits
      exact ⟨entry, rfl⟩
    · contradiction
  · contradiction

/-- What a call waits for is the sequence of a bot: the one that the call is made for. -/
theorem awaited_of_serve {call : Call} {target : Nat} {next : Routine}
    (waits : (b.serve config call).2 = .wait target next) :
    ∃ bot, entry? (b.serve config call).1.sequencers bot = some target ∧ next.owner? = none ∧
      (b.registry.find? b.registry.nextId = none →
        call.client? b.registry.nextId = some bot) := by
  unfold serve at waits ⊢
  cases call with
  | launch code token language wait =>
      dsimp only at waits ⊢
      cases done : b.launch config code token (.str language.name) with
      | error refusal =>
          rw [done] at waits
          contradiction
      | ok result =>
          rw [done] at waits
          obtain ⟨entry, rfl⟩ := awaited_of_waitOrReport waits
          refine ⟨_, entry, rfl, ?_⟩
          intro fresh
          obtain ⟨named, -, face, -⟩ := launch_ok fresh done
          exact congrArg some (congrArg Record.id face).symm
  | update | restart =>
      dsimp only at waits ⊢
      split at waits
      · obtain ⟨entry, rfl⟩ := awaited_of_waitOrReport waits
        exact ⟨_, entry, rfl, fun _ => rfl⟩
      · contradiction
  | «show» | stop | delete =>
      dsimp only at waits
      split at waits <;> contradiction
  | list => contradiction
  | send bot text =>
      dsimp only at waits
      split at waits
      · contradiction
      · split at waits
        · contradiction
        · split at waits <;> contradiction

/-- What a task waits for is the sequence of a bot: the one that the task is resumed for. The task
is neither a sequence nor a ticker itself. -/
theorem awaited_of_wait {routine next : Routine} {target : Nat}
    (waits : (b.perform config other routine).2 = .wait target next) :
    ∃ bot, entry? (b.perform config other routine).1.sequencers bot = some target ∧
      next.owner? = none ∧ routine.owner? = none ∧
      (b.registry.find? b.registry.nextId = none →
        routine.client? b.registry.nextId = some bot) := by
  have paced (pace : Pace) : pace.verdict ≠ .wait target next := by
    cases pace <;> simp [Pace.verdict]
  cases routine with
  | connect bot generation stage => exact absurd waits (paced _)
  | redeploy bot generation line slept => exact absurd waits (paced _)
  | ticker bot slept =>
      cases slept with
      | false => contradiction
      | true =>
          rw [perform_ticker] at waits
          split at waits <;> contradiction
  | awaitIdle bot waited =>
      unfold perform at waits ⊢
      dsimp only at waits ⊢
      split at waits
      · rename_i entry
        cases waits
        split at entry
        · contradiction
        · exact ⟨bot, entry, rfl, rfl, fun _ => rfl⟩
      · contradiction
  | serve call =>
      obtain ⟨bot, entry, free, client⟩ := awaited_of_serve waits
      exact ⟨bot, entry, free, rfl, client⟩
  | report status bot => contradiction

theorem listed_of_serve {call : Call} {target : Nat} {next : Routine}
    (waits : (b.serve config call).2 = .wait target next) :
    target ∈ (b.serve config call).1.listed := by
  obtain ⟨bot, entry, -⟩ := awaited_of_serve waits
  exact List.mem_append_left _ (mem_map_of_entry entry).2

/-- What a task waits for stands in a table. -/
theorem listed_of_wait {routine next : Routine} {target : Nat}
    (waits : (b.perform config other routine).2 = .wait target next) :
    target ∈ (b.perform config other routine).1.listed := by
  obtain ⟨bot, entry, -⟩ := awaited_of_wait waits
  exact List.mem_append_left _ (mem_map_of_entry entry).2

theorem Stands.unwind (stands : b.Stands id task) (apart : other ≠ id) (routine : Routine) :
    Kept id task b (b.unwind other routine) := by
  unfold Bench.unwind
  dsimp only
  split
  · rename_i bot
    have left := stands.leaveTicker bot other
    exact left.trans (left.stands.finish apart none)
  · exact stands.finish apart none

theorem Stands.resume (stands : b.Stands id task) (apart : other ≠ id) :
    Kept id task b (b.resume config other) := by
  unfold Bench.resume
  split
  · exact .refl stands
  · rename_i found present
    split
    · exact .refl stands
    · split
      · exact stands.unwind apart found.routine
      · have performed : Kept id task b (b.perform config other found.routine).1 :=
          (kept_law id task b).perform found.routine (.refl stands)
        dsimp only
        cases verdict : (b.perform config other found.routine).2 with
        | sleep span next => exact performed.trans (performed.stands.sleep apart span next)
        | wait target next =>
            exact performed.trans (performed.stands.wait apart (listed_of_wait verdict) next)
        | finish answer => exact performed.trans (performed.stands.finish apart answer)

theorem Stands.notify (stands : b.Stands id task) (apart : other ≠ id) :
    Kept id task b (b.notify other) := by
  unfold Bench.notify
  split
  · exact .refl stands
  · split
    · exact stands.rouse apart (fun found => { found with state := .queued }) (fun _ => rfl)
        fun _ => rfl
    · exact .refl stands

/-- The task that a move resumes, or tells that its wait is over. -/
def addressee? (b : Bench) : Move → Option Nat
  | .callback place => b.ready[place]?.map Callback.task
  | _ => none

/-- A callback that runs is taken from the queue, and no other one. -/
theorem mem_eraseIdx_of_ne {callback taken : Callback} {place : Nat}
    (queued : b.ready[place]? = some taken) (apart : callback ≠ taken)
    (member : callback ∈ b.ready) : callback ∈ b.ready.eraseIdx place := by
  obtain ⟨other, at_other⟩ := List.mem_iff_getElem?.mp member
  refine List.mem_eraseIdx_iff_getElem?.mpr ⟨other, fun same => ?_, at_other⟩
  rw [same, queued, Option.some.injEq] at at_other
  exact apart at_other.symm

/-- **Nobody but the loop touches a task outside the tables.** A move that is not the task's own
leaves it as it is, and loses nothing that is to wake it. -/
theorem Stands.step (config : Config) (stands : b.Stands id task) (awake : task.state ≠ .asleep)
    {move : Move} (foreign : b.addressee? move ≠ some id) :
    Kept id task b (b.step config move) := by
  cases move with
  | operate operation => exact (kept_law id task b).operate (.refl stands)
  | call call => exact stands.spawn (.serve call)
  | awaitIdle bot => exact stands.spawn (.awaitIdle bot false)
  | callback place =>
      change Kept id task b (b.runAt config place)
      unfold runAt
      split
      · rename_i callback queued
        have apart : callback.task ≠ id := fun same => foreign (by simp [addressee?, queued, same])
        -- the callback that leaves the queue belongs to another task
        have taken : Kept id task b { b with ready := b.ready.eraseIdx place } := by
          refine ⟨⟨stands.present, stands.unlisted⟩, ?_, ?_⟩
          · exact mem_eraseIdx_of_ne queued fun same => apart (by rw [← same]; rfl)
          · exact Or.imp_left (mem_eraseIdx_of_ne queued fun same => apart (by rw [← same]; rfl))
        cases callback with
        | resume other => exact taken.trans (taken.stands.resume apart)
        | notify other => exact taken.trans (taken.stands.notify apart)
      · exact .refl stands
  | wake other =>
      change Kept id task b (b.wake other)
      unfold wake
      split
      · rename_i found present
        split
        · rename_i asleep
          -- only sleepers are woken, and this task is none
          have apart : other ≠ id := by
            rintro rfl
            rw [stands.present, Option.some.injEq] at present
            subst present
            exact awake (by simpa using asleep)
          exact stands.rouse apart (fun found => { found with state := .queued }) (fun _ => rfl)
            fun _ => rfl
        · exact .refl stands
      · exact .refl stands
  | clock time => exact stands.grow rfl (List.Subset.refl _) (List.Subset.refl _)

/-! ## Steps of the task itself -/

theorem Stands.ended (stands : b.Stands id task) (answer : Option Answer) :
    (b.finish id answer).Stands id { task with state := .finished, answer } := by
  unfold Bench.finish
  rw [stands.present]
  refine ⟨(getElem?_setTask ..).trans ?_, stands.unlisted⟩
  rw [if_pos rfl, stands.present]
  rfl

/-- A task that waits for one that stands in a table will be told about its end. -/
theorem Stands.paused (stands : b.Stands id task) {target : Nat} (member : target ∈ b.listed)
    (routine : Routine) :
    (b.wait id target routine).Stands id { task with routine, state := .waiting } ∧
      (b.wait id target routine).Tended id := by
  have apart : target ≠ id := stands.ne_of_mem member
  have waiting : (b.setTask id fun found => { found with routine, state := .waiting }).Stands id
      { task with routine, state := .waiting } := by
    refine ⟨(getElem?_setTask ..).trans ?_, stands.unlisted⟩
    rw [if_pos rfl, stands.present]
    rfl
  unfold Bench.wait
  dsimp only
  split
  · exact ⟨⟨waiting.present, waiting.unlisted⟩,
      .inl (List.mem_append_right _ (List.mem_singleton.mpr rfl))⟩
  · rename_i unfinished
    have told : Kept id { task with routine, state := .waiting } _
        ((b.setTask id fun found => { found with routine, state := .waiting }).setTask target
          fun found => { found with watchers := found.watchers ++ [id] }) :=
      waiting.setTask apart (fun _ awake => awake) fun _ => List.subset_append_left _ _
    refine ⟨told.stands, .inr ?_⟩
    unfold isFinished at unfinished
    split at unfinished
    · rename_i found present
      refine ⟨target, { found with watchers := found.watchers ++ [id] }, ?_, ?_, ?_⟩
      · rw [getElem?_setTask, if_pos rfl, present]
        rfl
      · simpa using unfinished
      · simp
    · -- a task that there is not counts as finished
      simp at unfinished

/-! ## New tasks -/

/-- What stands in the tables has been started. -/
def Numbered (b : Bench) : Prop := ∀ task ∈ b.listed, task < b.tasks.length

theorem Numbered.of_subset (numbered : b.Numbered) (listed : b'.listed ⊆ b.listed)
    (count : b.tasks.length ≤ b'.tasks.length) : b'.Numbered :=
  fun _ member => Nat.lt_of_lt_of_le (numbered _ (listed member)) count

theorem length_setTask (b : Bench) (id : Nat) (change : Task → Task) :
    (b.setTask id change).tasks.length = b.tasks.length :=
  List.length_modify ..

theorem Numbered.setTask (numbered : b.Numbered) (id : Nat) (change : Task → Task) :
    (b.setTask id change).Numbered :=
  numbered.of_subset (List.Subset.refl _) (Nat.le_of_eq (length_setTask ..).symm)

theorem Numbered.spawn (numbered : b.Numbered) (routine : Routine) :
    (b.spawn routine).2.Numbered :=
  numbered.of_subset (List.Subset.refl _) (by simp [Bench.spawn])

theorem Numbered.cancel (numbered : b.Numbered) (id : Nat) : (b.cancel id).Numbered := by
  unfold Bench.cancel
  split
  · exact numbered
  · split
    · exact numbered
    all_goals exact numbered.setTask _ _

/-- A table that gets the newest task. -/
theorem Numbered.enter {table tasks : List Nat} (numbered : ∀ task ∈ table, task < b.tasks.length)
    (entered : ∀ task ∈ tasks, task = b.tasks.length ∨ task ∈ table) (routine : Routine) :
    ∀ task ∈ tasks, task < (b.spawn routine).2.tasks.length := by
  intro task member
  have count : (b.spawn routine).2.tasks.length = b.tasks.length + 1 := by simp [Bench.spawn]
  rw [count]
  rcases entered task member with rfl | member
  · exact Nat.lt_succ_self _
  · exact Nat.lt_succ_of_lt (numbered task member)

theorem numbered_law : TableLaw Numbered where
  frame {b b'} numbered tasks _ _ sequencers tickers _ := by
    unfold Numbered listed
    rw [tasks, sequencers, tickers]
    exact numbered
  schedule {b} bot routine numbered := by
    refine Numbered.enter numbered (fun task member => ?_) routine
    rcases List.mem_append.mp member with member | member
    · exact (mem_setEntry member).imp_right (List.mem_append_left _)
    · exact .inr (List.mem_append_right _ member)
  startTicker {b} bot numbered := by
    unfold Bench.startTicker
    split
    · exact numbered
    · refine Numbered.enter numbered (fun task member => ?_) (.ticker bot false)
      rcases List.mem_append.mp member with member | member
      · exact .inr (List.mem_append_left _ member)
      · exact (mem_setEntry member).imp_right (List.mem_append_right _)
  stopSequencer {b} bot numbered := by
    unfold Bench.stopSequencer
    split
    · have dropped : { b with sequencers := eraseEntry b.sequencers bot }.Numbered :=
        numbered.of_subset (listed_dropSequencer b bot) (Nat.le_refl _)
      exact dropped.cancel _
    · exact numbered
  stopTicker {b} bot numbered := by
    unfold Bench.stopTicker
    split
    · have dropped : { b with tickers := eraseEntry b.tickers bot }.Numbered :=
        numbered.of_subset (listed_dropTicker b bot) (Nat.le_refl _)
      exact dropped.cancel _
    · exact numbered
  leaveTicker {b} bot ticker numbered := by
    unfold Bench.leaveTicker
    split
    · exact numbered.of_subset (listed_dropTicker b bot) (Nat.le_refl _)
    · exact numbered
  stopSequencers {b} numbered := by
    have cancelled (targets : List Nat) (b : Bench) (numbered : b.Numbered) :
        (targets.foldl Bench.cancel b).Numbered := by
      induction targets generalizing b with
      | nil => exact numbered
      | cons target targets ih => exact ih (b.cancel target) (numbered.cancel target)
    exact (cancelled _ b numbered).of_subset (fun _ member => List.mem_append_right _ member)
      (Nat.le_refl _)

theorem Numbered.finish (numbered : b.Numbered) (id : Nat) (answer : Option Answer) :
    (b.finish id answer).Numbered := by
  unfold Bench.finish
  split
  · exact numbered
  · exact numbered.setTask _ _

theorem Numbered.obey (numbered : b.Numbered) (config : Config) (id : Nat) (verdict : Verdict) :
    (b.obey config id verdict).Numbered := by
  cases verdict with
  | sleep span routine =>
      change (b.sleep config id span routine).Numbered
      unfold Bench.sleep
      cases span with
      | finite seconds =>
          dsimp only
          split
          all_goals exact numbered.setTask _ _
      | endless => exact numbered.setTask _ _
  | wait target routine =>
      change (b.wait id target routine).Numbered
      unfold Bench.wait
      dsimp only
      split
      · exact numbered.setTask _ _
      · exact (numbered.setTask _ _).setTask _ _
  | finish answer => exact numbered.finish id answer

theorem Numbered.resume (numbered : b.Numbered) (config : Config) (id : Nat) :
    (b.resume config id).Numbered := by
  unfold Bench.resume
  split
  · exact numbered
  · split
    · exact numbered
    · split
      · unfold unwind
        dsimp only
        split
        · exact (numbered_law.leaveTicker _ _ numbered).finish _ _
        · exact numbered.finish _ _
      · exact (numbered_law.perform _ numbered).obey _ _ _

theorem Numbered.step (numbered : b.Numbered) (config : Config) (move : Move) :
    (b.step config move).Numbered := by
  cases move with
  | operate operation => exact numbered_law.operate numbered
  | call call => exact numbered.spawn _
  | awaitIdle bot => exact numbered.spawn _
  | callback place =>
      change (b.runAt config place).Numbered
      unfold runAt
      split
      · rename_i callback queued
        have taken : { b with ready := b.ready.eraseIdx place }.Numbered := numbered
        cases callback with
        | resume id => exact taken.resume config id
        | notify id =>
            change (Bench.notify _ id).Numbered
            unfold Bench.notify
            split
            · exact taken
            · split
              · exact taken.setTask _ _
              · exact taken
      · exact numbered
  | wake id =>
      change (b.wake id).Numbered
      unfold wake
      split
      · split
        · exact numbered.setTask _ _
        · exact numbered
      · exact numbered
  | clock time => exact numbered

theorem numbered_run (config : Config) (draws : Draws) (moves : List Move) :
    ((opening draws).run config moves).Numbered := by
  apply run_keeps (motive := Numbered)
  · exact fun b move _ numbered => numbered.step config move
  · simp [Numbered, listed, opening]

/-- A task that has just been started stands in no table. -/
theorem stands_spawn (numbered : b.Numbered) (routine : Routine) :
    (b.spawn routine).2.Stands b.tasks.length { routine } :=
  ⟨List.getElem?_concat_length, fun member => Nat.lt_irrefl _ (numbered _ member)⟩

end Bench

end BotBench
