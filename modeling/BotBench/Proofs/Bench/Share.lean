import BotBench.Proofs.Bench.Roster
import BotBench.Proofs.Bench.Standing

/-! # What a bench holds for a bot

The share of a bot is what a bench holds for it: its record, its entries in the two tables, its
sequences and tickers with their timers, and their resumptions in the order of the queue. An entry
of a table is a task of its own bot (`BotBench.Bench.Owned`). What is done for one bot therefore
touches the shares of the others nowhere, neither by cancelling what stands in the tables nor by
what a task leaves behind in the queue (`BotBench.Bench.onlyFor_law`). -/

namespace BotBench

/-- What a bench holds for a bot. -/
structure Share where
  record : Option Record
  sequencer : Option Nat
  ticker : Option Nat
  task : Nat → Option Task
  timers : List Timer
  resumptions : List Callback

namespace Bench

/-- The task `id`, if it is a sequence or a ticker of a bot. -/
def task? (b : Bench) (bot : Int) (id : Nat) : Option Task :=
  b.tasks[id]?.filter fun task => task.routine.owner? == some bot

/-- Whether a task is a sequence or a ticker of a bot. -/
def owns (b : Bench) (bot : Int) (id : Nat) : Bool := (b.task? bot id).isSome

/-- Whether a callback resumes a sequence or a ticker of a bot. -/
def resumes (b : Bench) (bot : Int) : Callback → Bool
  | .resume id => b.owns bot id
  | .notify _ => false

/-- What the bench holds for a bot. -/
def share (b : Bench) (bot : Int) : Share where
  record := b.registry.find? bot
  sequencer := entry? b.sequencers bot
  ticker := entry? b.tickers bot
  task := b.task? bot
  timers := b.timers.filter fun timer => b.owns bot timer.task
  resumptions := b.ready.filter (b.resumes bot)

variable {config : Config} {b b' b'' : Bench} {bot other : Int} {id : Nat}

/-! ## Owners -/

theorem task?_eq_some_iff {task : Task} :
    b.task? bot id = some task ↔ b.tasks[id]? = some task ∧ task.routine.owner? = some bot := by
  unfold task?
  rw [Option.filter_eq_some_iff, beq_iff_eq]

theorem owns_iff :
    b.owns bot id = true ↔ ∃ task, b.tasks[id]? = some task ∧ task.routine.owner? = some bot := by
  unfold owns
  rw [Option.isSome_iff_exists]
  simp only [task?_eq_some_iff]

theorem owns_of_present {task : Task} (present : b.tasks[id]? = some task) :
    b.owns bot id = (task.routine.owner? == some bot) := by
  rw [Bool.eq_iff_iff, owns_iff, beq_iff_eq]
  refine ⟨?_, fun own => ⟨task, present, own⟩⟩
  rintro ⟨found, there, own⟩
  rw [present, Option.some.injEq] at there
  exact there ▸ own

/-- A task belongs to one bot only. -/
theorem owns_foreign (own : b.owns bot id = true) (apart : other ≠ bot) :
    b.owns other id = false := by
  obtain ⟨task, present, owner⟩ := owns_iff.mp own
  rw [owns_of_present present, owner, beq_eq_false_iff_ne, ne_eq, Option.some.injEq]
  exact Ne.symm apart

theorem owner?_ne_of_foreign {task : Task} (foreign : b.owns bot id = false)
    (present : b.tasks[id]? = some task) : task.routine.owner? ≠ some bot := by
  rw [owns_of_present present] at foreign
  simpa using foreign

theorem owns_congr (tasks : b'.task? bot = b.task? bot) : b'.owns bot = b.owns bot := by
  funext id
  unfold owns
  rw [tasks]

/-- A change of a task that leaves it with its owner changes no owner. -/
theorem owns_setTask {change : Task → Task}
    (kept : ∀ task, b.tasks[id]? = some task → (change task).routine.owner? = task.routine.owner?)
    (bot : Int) (target : Nat) : (b.setTask id change).owns bot target = b.owns bot target := by
  rw [Bool.eq_iff_iff, owns_iff, owns_iff]
  simp only [getElem?_setTask]
  by_cases same : id = target
  · subst same
    cases present : b.tasks[id]? with
    | none => simp
    | some task => simp [kept task present]
  · simp only [same, ↓reduceIte]

theorem owns_spawn (own : b.owns bot id = true) (routine : Routine) :
    (b.spawn routine).2.owns bot id = true := by
  obtain ⟨task, present, owner⟩ := owns_iff.mp own
  exact owns_iff.mpr ⟨task, getElem?_spawn present routine, owner⟩

/-! ## Shares -/

/-- Two benches hold the same for a bot when its record, its entries and its tasks are the same, and
what the queue and the timers hold of the tasks. -/
theorem share_eq (record : b'.registry.find? bot = b.registry.find? bot)
    (sequencer : entry? b'.sequencers bot = entry? b.sequencers bot)
    (ticker : entry? b'.tickers bot = entry? b.tickers bot) (tasks : b'.task? bot = b.task? bot)
    (timers : (b'.timers.filter fun timer => b.owns bot timer.task) =
      b.timers.filter fun timer => b.owns bot timer.task)
    (ready : b'.ready.filter (b.resumes bot) = b.ready.filter (b.resumes bot)) :
    b'.share bot = b.share bot := by
  have owns := owns_congr tasks
  have resumes : b'.resumes bot = b.resumes bot := by
    funext callback
    cases callback with
    | resume id => exact congrFun owns id
    | notify id => rfl
  unfold share
  rw [record, sequencer, ticker, tasks, owns, resumes, timers, ready]

/-- The draws, the clock and the bench's own log are in no share. -/
theorem share_of_same (registry : b'.registry = b.registry) (tasks : b'.tasks = b.tasks)
    (timers : b'.timers = b.timers) (ready : b'.ready = b.ready)
    (sequencers : b'.sequencers = b.sequencers) (tickers : b'.tickers = b.tickers) (bot : Int) :
    b'.share bot = b.share bot := by
  refine share_eq (by rw [registry]) (by rw [sequencers]) (by rw [tickers]) ?_ (by rw [timers])
    (by rw [ready])
  funext id
  unfold task?
  rw [tasks]

theorem owns_of_share (same : b'.share bot = b.share bot) : b'.owns bot = b.owns bot :=
  owns_congr (congrArg Share.task same)

/-- Benches that hold the same for a bot have the same tasks of the bot. -/
theorem tasks_of_share (same : b'.share bot = b.share bot) (own : b.owns bot id = true) :
    b'.tasks[id]? = b.tasks[id]? := by
  have tasks : b'.task? bot id = b.task? bot id := congrFun (congrArg Share.task same) id
  obtain ⟨task, present, owner⟩ := owns_iff.mp own
  rw [task?_eq_some_iff.mpr ⟨present, owner⟩] at tasks
  rw [present, (task?_eq_some_iff.mp tasks).1]

theorem task?_setTask (foreign : b.owns bot id = false) {change : Task → Task}
    (kept : ∀ task, b.tasks[id]? = some task → (change task).routine.owner? ≠ some bot) :
    (b.setTask id change).task? bot = b.task? bot := by
  funext target
  unfold task?
  rw [getElem?_setTask]
  by_cases same : id = target
  · subst same
    rw [if_pos rfl]
    cases present : b.tasks[id]? with
    | none => rfl
    | some task =>
        have before := owner?_ne_of_foreign foreign present
        have after := kept task present
        simp [Option.filter, before, after]
  · rw [if_neg same]

/-- What is done to the task of somebody else, and to its timers and in the queue, leaves the share
of a bot as it is. -/
theorem share_setTask (foreign : b.owns bot id = false) (change : Task → Task)
    (kept : ∀ task, b.tasks[id]? = some task → (change task).routine.owner? ≠ some bot)
    {timers : List Timer} {ready : List Callback}
    (timed : (timers.filter fun timer => b.owns bot timer.task) =
      b.timers.filter fun timer => b.owns bot timer.task)
    (queued : ready.filter (b.resumes bot) = b.ready.filter (b.resumes bot)) :
    ({ b.setTask id change with timers, ready } : Bench).share bot = b.share bot :=
  share_eq rfl rfl rfl (task?_setTask foreign kept) timed queued

theorem share_mark (foreign : b.owns bot id = false) (change : Task → Task)
    (kept : ∀ task, (change task).routine = task.routine) {timers : List Timer}
    {ready : List Callback}
    (timed : (timers.filter fun timer => b.owns bot timer.task) =
      b.timers.filter fun timer => b.owns bot timer.task)
    (queued : ready.filter (b.resumes bot) = b.ready.filter (b.resumes bot)) :
    ({ b.setTask id change with timers, ready } : Bench).share bot = b.share bot := by
  refine share_setTask foreign change ?_ timed queued
  intro task present
  rw [kept task]
  exact owner?_ne_of_foreign foreign present

theorem timers_without (foreign : b.owns bot id = false) :
    ((b.timers.filter fun timer => timer.task != id).filter fun timer => b.owns bot timer.task) =
      b.timers.filter fun timer => b.owns bot timer.task := by
  rw [List.filter_filter]
  apply List.filter_congr
  intro timer _
  by_cases same : timer.task = id
  · simp [same, foreign]
  · simp [same]

theorem timers_with (foreign : b.owns bot id = false) (due : Span) :
    ((b.timers ++ [(⟨due, id⟩ : Timer)]).filter fun timer => b.owns bot timer.task) =
      b.timers.filter fun timer => b.owns bot timer.task := by
  simp [foreign]

theorem ready_resume (foreign : b.owns bot id = false) :
    (b.ready ++ [Callback.resume id]).filter (b.resumes bot) = b.ready.filter (b.resumes bot) := by
  simp [resumes, foreign]

theorem ready_notify (bot : Int) (ids : List Nat) :
    (b.ready ++ ids.map Callback.notify).filter (b.resumes bot) = b.ready.filter (b.resumes bot) := by
  have none : (ids.map Callback.notify).filter (b.resumes bot) = [] := by
    rw [List.filter_eq_nil_iff]
    intro callback member
    obtain ⟨id, -, rfl⟩ := List.mem_map.mp member
    simp [resumes]
  rw [List.filter_append, none, List.append_nil]

/-- A callback that resumes no task of a bot may be taken from the queue. -/
theorem share_taken {place : Nat} {callback : Callback} (queued : b.ready[place]? = some callback)
    (foreign : b.resumes bot callback = false) :
    ({ b with ready := b.ready.eraseIdx place } : Bench).share bot = b.share bot := by
  refine share_eq rfl rfl rfl rfl rfl ?_
  obtain ⟨inside, rfl⟩ := List.getElem?_eq_some_iff.mp queued
  change (b.ready.eraseIdx place).filter _ = b.ready.filter _
  conv_rhs => rw [← List.take_append_drop place b.ready, List.drop_eq_getElem_cons inside]
  rw [List.eraseIdx_eq_take_drop_succ, List.filter_append, List.filter_append, List.filter_cons,
    if_neg (by simp [foreign])]

/-! ## What is done to the tasks of others -/

theorem share_spawn {routine : Routine} (apart : routine.owner? ≠ some bot) :
    (b.spawn routine).2.share bot = b.share bot := by
  have missing : b.owns bot b.tasks.length = false := by
    rw [← Bool.not_eq_true, owns_iff]
    rintro ⟨task, present, -⟩
    simp at present
  refine share_eq rfl rfl rfl ?_ rfl (ready_resume missing)
  funext target
  change (b.tasks ++ [({ routine } : Task)])[target]?.filter _ = _
  unfold task?
  rw [List.getElem?_append]
  split
  · rfl
  · rename_i beyond
    have absent : b.tasks[target]? = none := List.getElem?_eq_none (Nat.not_lt.mp beyond)
    rw [absent]
    cases last : target - b.tasks.length with
    | zero => simp [Option.filter, apart]
    | succ further => rfl

theorem share_cancel (foreign : b.owns bot id = false) : (b.cancel id).share bot = b.share bot := by
  have roused := share_mark foreign (fun task => { task with cancelled := true, state := .queued })
    (fun _ => rfl) (timers_without foreign) (ready_resume foreign)
  unfold cancel
  split
  · rfl
  · split
    · rfl
    · exact share_mark foreign (fun task => { task with cancelled := true }) (fun _ => rfl) rfl rfl
    · exact roused
    · exact roused

theorem share_finish (foreign : b.owns bot id = false) (answer : Option Answer) :
    (b.finish id answer).share bot = b.share bot := by
  unfold finish
  split
  · rfl
  · exact share_mark foreign (fun task => { task with state := .finished, answer })
      (fun _ => rfl) rfl (ready_notify bot _)

theorem share_sleep (foreign : b.owns bot id = false) {routine : Routine}
    (apart : routine.owner? ≠ some bot) (span : Span) :
    (b.sleep config id span routine).share bot = b.share bot := by
  have asleep (due : Span) :=
    share_setTask foreign (fun task => { task with routine, state := .asleep })
      (fun _ _ => apart) (timers_with foreign due) rfl
  unfold sleep
  cases span with
  | finite seconds =>
      dsimp only
      split
      · exact share_setTask foreign (fun task => { task with routine, state := .queued })
          (fun _ _ => apart) rfl (ready_resume foreign)
      · exact asleep _
  | endless => exact asleep .endless

theorem share_wait (foreign : b.owns bot id = false) {target : Nat}
    (awaited : b.owns bot target = false) {routine : Routine} (apart : routine.owner? ≠ some bot) :
    (b.wait id target routine).share bot = b.share bot := by
  have paused : (b.setTask id fun task => { task with routine, state := .waiting }).share bot =
      b.share bot :=
    share_setTask foreign (fun task => { task with routine, state := .waiting })
      (fun _ _ => apart) rfl rfl
  rw [← owns_of_share paused] at awaited
  unfold wait
  dsimp only
  rw [← paused]
  split
  · exact share_eq rfl rfl rfl rfl rfl (ready_notify bot [id])
  · exact share_mark awaited (fun task => { task with watchers := task.watchers ++ [id] })
      (fun _ => rfl) rfl rfl

theorem share_notify (foreign : b.owns bot id = false) : (b.notify id).share bot = b.share bot := by
  unfold notify
  split
  · rfl
  · split
    · exact share_mark foreign (fun task => { task with state := .queued }) (fun _ => rfl) rfl
        (ready_resume foreign)
    · rfl

theorem share_wake (foreign : b.owns bot id = false) : (b.wake id).share bot = b.share bot := by
  unfold wake
  split
  · split
    · exact share_mark foreign (fun task => { task with state := .queued }) (fun _ => rfl)
        (timers_without foreign) (ready_resume foreign)
    · rfl
  · rfl

/-! ## Tables and owners -/

theorem ne_of_client (client : some bot ≠ some other) : other ≠ bot :=
  fun same => client (congrArg some same.symm)

/-- What stands under a bot in a table belongs to the bot. -/
structure Owned (b : Bench) : Prop where
  sequencer : ∀ {bot id}, entry? b.sequencers bot = some id → b.owns bot id = true
  ticker : ∀ {bot id}, entry? b.tickers bot = some id → b.owns bot id = true

theorem owned_opening (draws : Draws) : (opening draws).Owned := ⟨by simp [opening], by simp [opening]⟩

/-- The tables stay owned when no task loses its owner and only owned tasks enter the tables. -/
theorem Owned.of_tables (owned : b.Owned)
    (kept : ∀ {bot id}, b.owns bot id = true → b'.owns bot id = true)
    (sequencers : ∀ {bot id}, entry? b'.sequencers bot = some id →
      entry? b.sequencers bot = some id ∨ b'.owns bot id = true)
    (tickers : ∀ {bot id}, entry? b'.tickers bot = some id →
      entry? b.tickers bot = some id ∨ b'.owns bot id = true) : b'.Owned where
  sequencer entry := (sequencers entry).elim (fun before => kept (owned.sequencer before)) fun own => own
  ticker entry := (tickers entry).elim (fun before => kept (owned.ticker before)) fun own => own

/-- The tables stay owned when they stay as they are and no task loses its owner. -/
theorem Owned.of_tasks (owned : b.Owned)
    (kept : ∀ {bot id}, b.owns bot id = true → b'.owns bot id = true)
    (sequencers : b'.sequencers = b.sequencers) (tickers : b'.tickers = b.tickers) : b'.Owned :=
  owned.of_tables kept (fun entry => .inl (sequencers ▸ entry)) fun entry => .inl (tickers ▸ entry)

theorem owns_of_tasks (tasks : b'.tasks = b.tasks) {bot : Int} {id : Nat}
    (own : b.owns bot id = true) : b'.owns bot id = true := by
  unfold owns task?
  rw [tasks]
  exact own

/-- A change of a task that leaves it with its owner keeps the tables owned. -/
theorem Owned.setTask (owned : b.Owned) {id : Nat} (change : Task → Task)
    (kept : ∀ task, b.tasks[id]? = some task →
      (change task).routine.owner? = task.routine.owner?) : (b.setTask id change).Owned :=
  owned.of_tasks (fun own => (owns_setTask kept ..).trans own) rfl rfl

theorem Owned.of_same (owned : b.Owned) (tasks : b'.tasks = b.tasks)
    (sequencers : b'.sequencers = b.sequencers) (tickers : b'.tickers = b.tickers) : b'.Owned :=
  owned.of_tasks (owns_of_tasks tasks) sequencers tickers

theorem Owned.cancel (owned : b.Owned) (id : Nat) : (b.cancel id).Owned := by
  have roused : (b.setTask id fun task =>
      { task with cancelled := true, state := .queued }).Owned := owned.setTask _ fun _ _ => rfl
  unfold Bench.cancel
  split
  · exact owned
  · split
    · exact owned
    · exact owned.setTask (fun task => { task with cancelled := true }) fun _ _ => rfl
    · exact roused.of_same rfl rfl rfl
    · exact roused.of_same rfl rfl rfl

theorem Owned.spawn (owned : b.Owned) (routine : Routine) : (b.spawn routine).2.Owned :=
  owned.of_tasks (fun own => owns_spawn own routine) rfl rfl

theorem Owned.eraseSequencer (owned : b.Owned) (bot : Int) :
    ({ b with sequencers := eraseEntry b.sequencers bot } : Bench).Owned := by
  refine owned.of_tables (fun own => own) ?_ .inl
  intro other id entry
  change entry? (eraseEntry b.sequencers bot) other = some id at entry
  rw [entry?_eraseEntry] at entry
  split at entry
  · contradiction
  · exact .inl entry

theorem Owned.eraseTicker (owned : b.Owned) (bot : Int) :
    ({ b with tickers := eraseEntry b.tickers bot } : Bench).Owned := by
  refine owned.of_tables (fun own => own) .inl ?_
  intro other id entry
  change entry? (eraseEntry b.tickers bot) other = some id at entry
  rw [entry?_eraseEntry] at entry
  split at entry
  · contradiction
  · exact .inl entry

/-! ## What is done for one bot -/

/-- What has been done from one bench to another was done for a client at most: the slots of all
other bots are the same in the same order, and so are their shares. -/
structure OnlyFor (client? : Option Int) (b b' : Bench) : Prop where
  owned : b'.Owned
  slots : (b'.registry.slots.filter fun slot => some slot.1 != client?) =
    b.registry.slots.filter fun slot => some slot.1 != client?
  share : ∀ other, client? ≠ some other → b'.share other = b.share other

theorem OnlyFor.refl (owned : b.Owned) (client? : Option Int) : OnlyFor client? b b :=
  ⟨owned, rfl, fun _ _ => rfl⟩

theorem OnlyFor.trans {client? : Option Int} (first : OnlyFor client? b b')
    (second : OnlyFor client? b' b'') : OnlyFor client? b b'' :=
  ⟨second.owned, second.slots.trans first.slots,
    fun other apart => (second.share other apart).trans (first.share other apart)⟩

/-- What is done to the tasks of a client, or of nobody. -/
theorem OnlyFor.of_tasks {client? : Option Int} (owned : b'.Owned)
    (registry : b'.registry = b.registry)
    (share : ∀ other, client? ≠ some other → b'.share other = b.share other) :
    OnlyFor client? b b' :=
  ⟨owned, by rw [registry], share⟩

theorem other_slots_put (registry : Registry) (bot : Int) (record : Record) :
    ((registry.put bot record).slots.filter fun slot => some slot.1 != some bot) =
      registry.slots.filter fun slot => some slot.1 != some bot := by
  unfold Registry.put
  induction registry.slots with
  | nil => rfl
  | cons slot rest ih =>
      by_cases same : slot.1 = bot
      · simpa [same] using ih
      · simpa [same] using ih

theorem Owned.store (owned : b.Owned) (bot : Int) (record : Record) :
    OnlyFor (some bot) b (b.store bot record) where
  owned := owned.of_same rfl rfl rfl
  slots := other_slots_put ..
  share other client := by
    have apart := ne_of_client client
    refine share_eq ?_ rfl rfl rfl rfl rfl
    change (b.registry.put bot record).find? other = _
    rw [Registry.find?_put, if_neg apart]

theorem owns_spawned (b : Bench) {routine : Routine} (own : routine.owner? = some bot) :
    (b.spawn routine).2.owns bot b.tasks.length = true :=
  owns_iff.mpr ⟨{ routine }, by simp [spawn], own⟩

theorem Owned.schedule (owned : b.Owned) {routine : Routine} (own : routine.owner? = some bot) :
    OnlyFor (some bot) b (b.schedule bot routine) where
  owned := by
    refine (owned.spawn routine).of_tables (fun own => own) ?_ .inl
    intro other id entry
    change entry? (setEntry b.sequencers bot b.tasks.length) other = some id at entry
    rw [entry?_setEntry] at entry
    split at entry
    · rename_i same
      subst same
      cases entry
      exact .inr (owns_spawned b own)
    · exact .inl entry
  slots := rfl
  share other client := by
    have apart := ne_of_client client
    have foreign : routine.owner? ≠ some other := own ▸ client
    have spawned : (b.spawn routine).2.share other = b.share other := share_spawn foreign
    refine Eq.trans ?_ spawned
    refine share_eq rfl ?_ rfl rfl rfl rfl
    change entry? (setEntry b.sequencers bot b.tasks.length) other = _
    rw [entry?_setEntry, if_neg apart]
    rfl

theorem Owned.startTicker (owned : b.Owned) (bot : Int) : OnlyFor (some bot) b (b.startTicker bot) := by
  unfold Bench.startTicker
  split
  · exact .refl owned (some bot)
  · refine ⟨?_, rfl, ?_⟩
    · refine (owned.spawn (.ticker bot false)).of_tables (fun own => own) .inl ?_
      intro other id entry
      change entry? (setEntry b.tickers bot b.tasks.length) other = some id at entry
      rw [entry?_setEntry] at entry
      split at entry
      · rename_i same
        subst same
        cases entry
        exact .inr (owns_spawned b rfl)
      · exact .inl entry
    · intro other client
      have apart := ne_of_client client
      have spawned : (b.spawn (.ticker bot false)).2.share other = b.share other :=
        share_spawn client
      refine Eq.trans ?_ spawned
      refine share_eq rfl rfl ?_ rfl rfl rfl
      change entry? (setEntry b.tickers bot b.tasks.length) other = _
      rw [entry?_setEntry, if_neg apart]
      rfl

theorem Owned.stopSequencer (owned : b.Owned) (bot : Int) :
    OnlyFor (some bot) b (b.stopSequencer bot) := by
  unfold Bench.stopSequencer
  split
  · rename_i id entry
    refine .of_tasks ((owned.eraseSequencer bot).cancel id) (registry_cancel ..) ?_
    intro other client
    have apart := ne_of_client client
    have foreign := owns_foreign (owned.sequencer entry) apart
    rw [share_cancel (b := { b with sequencers := eraseEntry b.sequencers bot }) foreign]
    refine share_eq rfl ?_ rfl rfl rfl rfl
    change entry? (eraseEntry b.sequencers bot) other = _
    rw [entry?_eraseEntry, if_neg apart]
  · exact .refl owned (some bot)

theorem share_eraseTicker (b : Bench) (apart : other ≠ bot) :
    ({ b with tickers := eraseEntry b.tickers bot } : Bench).share other = b.share other := by
  refine share_eq rfl rfl ?_ rfl rfl rfl
  change entry? (eraseEntry b.tickers bot) other = _
  rw [entry?_eraseEntry, if_neg apart]

theorem Owned.stopTicker (owned : b.Owned) (bot : Int) : OnlyFor (some bot) b (b.stopTicker bot) := by
  unfold Bench.stopTicker
  split
  · rename_i id entry
    refine .of_tasks ((owned.eraseTicker bot).cancel id) (registry_cancel ..) ?_
    intro other client
    have apart := ne_of_client client
    have foreign := owns_foreign (owned.ticker entry) apart
    rw [share_cancel (b := { b with tickers := eraseEntry b.tickers bot }) foreign]
    exact share_eraseTicker b apart
  · exact .refl owned (some bot)

theorem Owned.leaveTicker (owned : b.Owned) (bot : Int) (task : Nat) :
    OnlyFor (some bot) b (b.leaveTicker bot task) := by
  unfold Bench.leaveTicker
  split
  · refine .of_tasks (owned.eraseTicker bot) rfl ?_
    intro other client
    exact share_eraseTicker b (ne_of_client client)
  · exact .refl owned (some bot)

/-- What is done for a bot is done for it alone. -/
theorem onlyFor_law (bot : Int) (b : Bench) : UpkeepLaw bot (OnlyFor (some bot) b) where
  frame only registry tasks timers ready sequencers tickers _ :=
    only.trans (.of_tasks (only.owned.of_same tasks sequencers tickers) registry fun other _ =>
      share_of_same registry tasks timers ready sequencers tickers other)
  store record only := only.trans (only.owned.store bot record)
  schedule own only := only.trans (only.owned.schedule own)
  startTicker only := only.trans (only.owned.startTicker bot)
  stopSequencer only := only.trans (only.owned.stopSequencer bot)
  stopTicker only := only.trans (only.owned.stopTicker bot)
  leaveTicker task only := only.trans (only.owned.leaveTicker bot task)

end Bench

end BotBench
