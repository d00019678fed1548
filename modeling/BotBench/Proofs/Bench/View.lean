import BotBench.Proofs.Bench.Run
import BotBench.Proofs.Bench.Table
import Mathlib.Logic.Function.Basic

/-! # The view of a bench

The view keeps of a bench what the fate of its bots depends on: the records without their logs, the
number of the next bot, the two tables, and the routines that have still to act on a bot. The queue,
the timers, the draws and all log lines are left out. Each operation of the queue, the registry and
the tables has one equation on the view. -/

namespace BotBench

/-- A record without its log. -/
def Record.unlogged (record : Record) : Record := { record with logs := [] }

@[simp] theorem Record.unlogged_logs (record : Record) (logs : List String) :
    Record.unlogged { record with logs := logs } = record.unlogged := rfl

/-- The bot and the generation of a sequence. -/
def Routine.sequence? : Routine → Option (Int × Int)
  | .connect bot generation _ => some (bot, generation)
  | .redeploy bot generation _ _ => some (bot, generation)
  | _ => none

/-- Whether a routine acts on a bot, as a sequence or as a ticker. -/
def Routine.acts : Routine → Bool
  | .connect .. | .redeploy .. | .ticker .. => true
  | _ => false

/-- The routine of a task that has still to act on a bot: the task is neither cancelled nor at its
end. -/
def Task.acting? (task : Task) : Option Routine :=
  if task.state != .finished && !task.cancelled && task.routine.acts then some task.routine
  else none

theorem Routine.acts_of_sequence? {routine : Routine} {bot generation : Int}
    (sequence : routine.sequence? = some (bot, generation)) : routine.acts = true := by
  cases routine <;> simp_all [sequence?, acts]

theorem Task.acting?_eq_some_iff {task : Task} {routine : Routine} :
    task.acting? = some routine ↔
      task.state ≠ .finished ∧ task.cancelled = false ∧ routine.acts = true ∧
        task.routine = routine := by
  unfold acting?
  refine ⟨?_, ?_⟩
  · intro acting
    split at acting
    · rename_i alive
      simp only [Option.some.injEq] at acting
      subst acting
      simpa [and_assoc] using alive
    · contradiction
  · rintro ⟨unfinished, kept, acts, rfl⟩
    simp [unfinished, kept, acts]

/-- What the fate of the bots depends on. -/
@[ext] structure View where
  record : Int → Option Record
  nextId : Int
  sequencer : Int → Option Nat
  ticker : Int → Option Nat
  acting : Nat → Option Routine
  count : Nat

namespace Bench

/-- The routine of a task that has still to act on a bot. -/
def acting? (b : Bench) (id : Nat) : Option Routine := b.tasks[id]?.bind Task.acting?

/-- The view of a bench. -/
def view (b : Bench) : View where
  record id := (b.registry.find? id).map Record.unlogged
  nextId := b.registry.nextId
  sequencer := entry? b.sequencers
  ticker := entry? b.tickers
  acting := b.acting?
  count := b.tasks.length

theorem acting?_eq_some_iff {b : Bench} {id : Nat} {routine : Routine} :
    b.acting? id = some routine ↔
      ∃ task, b.tasks[id]? = some task ∧ task.state ≠ .finished ∧ task.cancelled = false ∧
        routine.acts = true ∧ task.routine = routine := by
  unfold acting?
  rw [Option.bind_eq_some_iff]
  simp only [Task.acting?_eq_some_iff]

end Bench

namespace View

open Function (update)

/-- Put a record into the slot of a bot. -/
def write (v : View) (id : Int) (record : Record) : View :=
  { v with record := update v.record id (some record) }

/-- Take the slot of a bot away. -/
def erase (v : View) (id : Int) : View := { v with record := update v.record id none }

/-- Give the next number to a new record. -/
def enter (v : View) (record : Record) : View :=
  { v with record := update v.record v.nextId (some record), nextId := v.nextId + 1 }

/-- Let a task go on with a routine, or come to its end. -/
def proceed (v : View) (id : Nat) (routine : Option Routine) : View :=
  { v with acting := update v.acting id routine }

/-- Start a task. -/
def spawn (v : View) (routine : Routine) : View :=
  { v with
    acting := update v.acting v.count (if routine.acts then some routine else none)
    count := v.count + 1 }

/-- Start a sequence of a bot. -/
def schedule (v : View) (id : Int) (routine : Routine) : View :=
  { v.spawn routine with sequencer := update v.sequencer id (some v.count) }

/-- Start a ticker of a bot. -/
def watch (v : View) (id : Int) : View :=
  { v.spawn (.ticker id false) with ticker := update v.ticker id (some v.count) }

/-- End the sequence of a bot, if it has one. -/
def dropSequencer (v : View) (id : Int) : View :=
  match v.sequencer id with
  | some task => { v.proceed task none with sequencer := update v.sequencer id none }
  | none => v

/-- End the ticker of a bot, if it has one. -/
def dropTicker (v : View) (id : Int) : View :=
  match v.ticker id with
  | some task => { v.proceed task none with ticker := update v.ticker id none }
  | none => v

/-- End what is pending for a bot. -/
def interrupt (v : View) (id : Int) : View := (v.dropSequencer id).dropTicker id

@[simp] theorem record_write (v : View) (id other : Int) (record : Record) :
    (v.write id record).record other = if other = id then some record else v.record other :=
  Function.update_apply ..

@[simp] theorem record_erase (v : View) (id other : Int) :
    (v.erase id).record other = if other = id then none else v.record other :=
  Function.update_apply ..

@[simp] theorem record_enter (v : View) (record : Record) (id : Int) :
    (v.enter record).record id = if id = v.nextId then some record else v.record id :=
  Function.update_apply ..

@[simp] theorem acting_proceed (v : View) (id other : Nat) (routine : Option Routine) :
    (v.proceed id routine).acting other = if other = id then routine else v.acting other :=
  Function.update_apply ..

theorem acting_spawn (v : View) (routine : Routine) (id : Nat) :
    (v.spawn routine).acting id =
      if id = v.count then if routine.acts then some routine else none else v.acting id :=
  Function.update_apply ..

@[simp] theorem sequencer_schedule (v : View) (id other : Int) (routine : Routine) :
    (v.schedule id routine).sequencer other =
      if other = id then some v.count else v.sequencer other :=
  Function.update_apply ..

@[simp] theorem ticker_watch (v : View) (id other : Int) :
    (v.watch id).ticker other = if other = id then some v.count else v.ticker other :=
  Function.update_apply ..

@[simp] theorem sequencer_interrupt (v : View) (id : Int) :
    (v.interrupt id).sequencer id = none := by
  unfold interrupt dropTicker dropSequencer
  cases entry : v.sequencer id with
  | none =>
      dsimp only
      split
      · exact entry
      · exact entry
  | some task =>
      dsimp only
      split
      · exact Function.update_self ..
      · exact Function.update_self ..

@[simp] theorem ticker_interrupt (v : View) (id : Int) : (v.interrupt id).ticker id = none := by
  unfold interrupt dropTicker
  split
  · exact Function.update_self ..
  · assumption

theorem ticker_dropTicker (v : View) (id other : Int) :
    (v.dropTicker id).ticker other = if other = id then none else v.ticker other := by
  unfold dropTicker
  cases entry : v.ticker id with
  | none =>
      dsimp only
      split
      · rename_i same
        rw [same]
        exact entry
      · rfl
  | some task => exact Function.update_apply ..

@[simp] theorem record_dropSequencer (v : View) (id : Int) :
    (v.dropSequencer id).record = v.record := by
  unfold dropSequencer
  split <;> rfl

@[simp] theorem record_dropTicker (v : View) (id : Int) : (v.dropTicker id).record = v.record := by
  unfold dropTicker
  split <;> rfl

/-- Ending what is pending for a bot leaves the records as they are. -/
@[simp] theorem record_interrupt (v : View) (id : Int) : (v.interrupt id).record = v.record := by
  unfold interrupt
  rw [record_dropTicker, record_dropSequencer]

@[simp] theorem nextId_dropSequencer (v : View) (id : Int) :
    (v.dropSequencer id).nextId = v.nextId := by
  unfold dropSequencer
  split <;> rfl

@[simp] theorem nextId_dropTicker (v : View) (id : Int) : (v.dropTicker id).nextId = v.nextId := by
  unfold dropTicker
  split <;> rfl

@[simp] theorem nextId_interrupt (v : View) (id : Int) : (v.interrupt id).nextId = v.nextId := by
  unfold interrupt
  rw [nextId_dropTicker, nextId_dropSequencer]

@[simp] theorem count_dropSequencer (v : View) (id : Int) : (v.dropSequencer id).count = v.count := by
  unfold dropSequencer
  split <;> rfl

@[simp] theorem count_dropTicker (v : View) (id : Int) : (v.dropTicker id).count = v.count := by
  unfold dropTicker
  split <;> rfl

@[simp] theorem count_interrupt (v : View) (id : Int) : (v.interrupt id).count = v.count := by
  unfold interrupt
  rw [count_dropTicker, count_dropSequencer]

/-- What acts after something pending has been ended acted before. -/
theorem acting_of_dropSequencer {v : View} {id : Int} {task : Nat} {routine : Routine}
    (acts : (v.dropSequencer id).acting task = some routine) : v.acting task = some routine := by
  unfold dropSequencer at acts
  split at acts
  · change (v.proceed _ none).acting task = some routine at acts
    rw [acting_proceed] at acts
    split at acts
    · contradiction
    · exact acts
  · exact acts

theorem acting_of_dropTicker {v : View} {id : Int} {task : Nat} {routine : Routine}
    (acts : (v.dropTicker id).acting task = some routine) : v.acting task = some routine := by
  unfold dropTicker at acts
  split at acts
  · change (v.proceed _ none).acting task = some routine at acts
    rw [acting_proceed] at acts
    split at acts
    · contradiction
    · exact acts
  · exact acts

theorem write_write (v : View) (id : Int) (first second : Record) :
    (v.write id first).write id second = v.write id second := by
  simp only [write, Function.update_idem]

theorem write_self {v : View} {id : Int} {record : Record} (found : v.record id = some record) :
    v.write id record = v := by
  simp only [write, ← found, Function.update_eq_self]

/-- A record may be written before a ticker ends or after it. -/
theorem dropTicker_write (v : View) (id other : Int) (record : Record) :
    (v.write id record).dropTicker other = (v.dropTicker other).write id record := by
  have read : (v.write id record).ticker other = v.ticker other := rfl
  unfold dropTicker
  rw [read]
  cases v.ticker other <;> rfl

/-- Ending the tickers of several bots empties their entries, and what is left to act had no entry
there. -/
theorem foldl_dropTicker (ids : List Int) (v : View) :
    ∃ acting, ids.foldl dropTicker v =
        { v with ticker := fun id => if id ∈ ids then none else v.ticker id, acting } ∧
      ∀ task routine, acting task = some routine → v.acting task = some routine ∧
        ∀ id ∈ ids, v.ticker id ≠ some task := by
  induction ids generalizing v with
  | nil => exact ⟨v.acting, by simp, by simp⟩
  | cons first rest ih =>
      obtain ⟨acting, same, spared⟩ := ih (v.dropTicker first)
      rw [List.foldl_cons, same]
      cases entry : v.ticker first with
      | none =>
          simp only [dropTicker, entry] at spared ⊢
          refine ⟨acting, ?_, ?_⟩
          · ext1
            case ticker =>
              funext id
              by_cases same : id = first
              · simp [same, entry]
              · simp [same]
            all_goals rfl
          · intro task routine left
            obtain ⟨before, apart⟩ := spared task routine left
            refine ⟨before, ?_⟩
            intro id member
            rcases List.mem_cons.mp member with rfl | member
            · simp [entry]
            · exact apart id member
      | some ended =>
          simp only [dropTicker, entry] at spared ⊢
          refine ⟨acting, ?_, ?_⟩
          · ext1
            case ticker =>
              funext id
              by_cases same : id = first
              · simp [same]
              · simp [same]
            all_goals rfl
          · intro task routine left
            obtain ⟨before, apart⟩ := spared task routine left
            have other : task ≠ ended := by
              rintro rfl
              simp [proceed] at before
            simp only [proceed, ne_eq, other, not_false_eq_true, Function.update_of_ne] at before
            refine ⟨before, ?_⟩
            intro id member
            by_cases same : id = first
            · subst same
              simp [entry, Ne.symm other]
            · have kept := apart id ((List.mem_cons.mp member).resolve_left same)
              simpa [same] using kept

/-- One view becomes another by a change of the transcript of a bot at most. -/
def Converses (id : Int) (before after : View) : Prop :=
  ∃ record messages, before.record id = some record ∧
    after = before.write id { record with messages }

theorem Converses.refl {id : Int} {v : View} {record : Record}
    (found : v.record id = some record) : Converses id v v :=
  ⟨record, record.messages, found, (write_self found).symm⟩

theorem Converses.found {id : Int} {before after : View} (turn : Converses id before after) :
    ∃ record, after.record id = some record := by
  obtain ⟨record, messages, -, rfl⟩ := turn
  exact ⟨_, Function.update_self ..⟩

theorem Converses.trans {id : Int} {before middle after : View}
    (first : Converses id before middle) (second : Converses id middle after) :
    Converses id before after := by
  obtain ⟨record, messages, found, rfl⟩ := first
  obtain ⟨record', messages', found', rfl⟩ := second
  rw [record_write, if_pos rfl, Option.some.injEq] at found'
  subst found'
  exact ⟨record, messages', found, write_write ..⟩

end View

namespace Bench

/-! ## The queue -/

theorem view_setTask (b : Bench) (id : Nat) (change : Task → Task) :
    (b.setTask id change).view =
      b.view.proceed id ((b.tasks[id]?.map change).bind Task.acting?) := by
  ext1
  case acting =>
    funext other
    change (b.tasks.modify id change)[other]?.bind Task.acting? = _
    rw [List.getElem?_modify]
    by_cases same : other = id
    · subst same
      simp [View.proceed]
    · have apart : id ≠ other := Ne.symm same
      simp [View.proceed, same, apart, view, acting?]
  case count => exact List.length_modify ..
  all_goals rfl

theorem view_setTask_of_acting? {b : Bench} {id : Nat} {change : Task → Task}
    (kept : ∀ task, b.tasks[id]? = some task → (change task).acting? = task.acting?) :
    (b.setTask id change).view = b.view := by
  rw [view_setTask]
  have same : (b.tasks[id]?.map change).bind Task.acting? = b.view.acting id := by
    change _ = b.tasks[id]?.bind Task.acting?
    cases present : b.tasks[id]? with
    | none => rfl
    | some task => exact kept task present
  simp only [View.proceed, same, Function.update_eq_self]

theorem view_spawn (b : Bench) (routine : Routine) :
    (b.spawn routine).2.view = b.view.spawn routine := by
  ext1
  case acting =>
    funext other
    change (b.tasks ++ [_])[other]?.bind Task.acting? =
      Function.update b.acting? b.tasks.length _ other
    by_cases last : other = b.tasks.length
    · subst last
      simp [Task.acting?]
    · rw [Function.update_of_ne last, List.getElem?_append]
      split
      · rfl
      · have beyond : b.tasks.length < other := by omega
        have missing : b.tasks[other]? = none := List.getElem?_eq_none (by omega)
        rw [acting?, missing, List.getElem?_eq_none (by simp; omega)]
  case count => exact List.length_append
  all_goals rfl

theorem view_spawn_of_not_acts (b : Bench) {routine : Routine} (aside : routine.acts = false) :
    (b.spawn routine).2.view = { b.view with count := b.view.count + 1 } := by
  rw [view_spawn, View.spawn]
  have missing : b.view.acting b.view.count = none := by
    change b.tasks[b.tasks.length]?.bind _ = none
    simp
  simp only [aside, Bool.false_eq_true, ↓reduceIte]
  rw [← missing, Function.update_eq_self]

theorem view_cancel (b : Bench) (id : Nat) : (b.cancel id).view = b.view.proceed id none := by
  unfold cancel
  cases present : b.tasks[id]? with
  | none =>
      have missing : b.view.acting id = none := by
        change b.tasks[id]?.bind _ = none
        rw [present]
        rfl
      rw [View.proceed, ← missing, Function.update_eq_self]
  | some task =>
      have ended (change : Task → Task) (off : (change task).acting? = none) :
          (b.setTask id change).view = b.view.proceed id none := by
        rw [view_setTask, present]
        simp only [Option.map_some, Option.bind_some, off]
      dsimp only
      cases state : task.state with
      | finished =>
          have missing : b.view.acting id = none := by
            change b.tasks[id]?.bind _ = none
            rw [present]
            simp [Task.acting?, state]
          simp only [View.proceed, ← missing, Function.update_eq_self]
      | queued => exact ended (fun task => { task with cancelled := true }) (by simp [Task.acting?])
      | asleep | waiting =>
          exact ended (fun task => { task with cancelled := true, state := .queued })
            (by simp [Task.acting?])

theorem view_finish (b : Bench) (id : Nat) (answer : Option Answer) :
    (b.finish id answer).view = b.view.proceed id none := by
  unfold finish
  cases present : b.tasks[id]? with
  | none =>
      have missing : b.view.acting id = none := by
        change b.tasks[id]?.bind _ = none
        rw [present]
        rfl
      rw [View.proceed, ← missing, Function.update_eq_self]
  | some task =>
      change (b.setTask id _).view = _
      rw [view_setTask, present]
      simp [Task.acting?]

/-- A task that is not cancelled and falls asleep has still to act. -/
theorem view_sleep {config : Config} {b : Bench} {id : Nat} {task : Task} {routine : Routine}
    (present : b.tasks[id]? = some task) (kept : task.cancelled = false)
    (acts : routine.acts = true) (span : Span) :
    (b.sleep config id span routine).view = b.view.proceed id (some routine) := by
  have going (state : TaskState) (unfinished : state ≠ .finished) :
      (b.setTask id fun task => { task with routine, state }).view =
        b.view.proceed id (some routine) := by
    rw [view_setTask, present]
    simp [Task.acting?, kept, acts, unfinished]
  unfold sleep
  cases span with
  | finite seconds =>
      dsimp only
      split
      · exact going .queued (by simp)
      · exact going .asleep (by simp)
  | endless => exact going .asleep (by simp)

theorem view_wait {b : Bench} {id : Nat} {routine : Routine} (aside : routine.acts = false)
    (target : Nat) : (b.wait id target routine).view = b.view.proceed id none := by
  have paused : (b.setTask id fun task => { task with routine, state := .waiting }).view =
      b.view.proceed id none := by
    rw [view_setTask]
    cases b.tasks[id]? with
    | none => rfl
    | some task => simp [Task.acting?, aside]
  unfold wait
  dsimp only
  split
  · exact paused
  · rw [← paused]
    exact view_setTask_of_acting? fun _ _ => rfl

theorem view_notify (b : Bench) (id : Nat) : (b.notify id).view = b.view := by
  unfold notify
  cases present : b.tasks[id]? with
  | none => rfl
  | some task =>
      dsimp only
      split
      · rename_i waiting
        change (b.setTask id _).view = _
        apply view_setTask_of_acting?
        intro task' present'
        rw [present, Option.some.injEq] at present'
        subst present'
        have state : task.state = .waiting := by simpa using waiting
        simp [Task.acting?, state]
      · rfl

/-- A task that sleeps is queued when it wakes, and its timer is gone. -/
theorem wake_of_asleep {b : Bench} {id : Nat} {found : Task} (present : b.tasks[id]? = some found)
    (asleep : found.state = .asleep) :
    b.wake id = { b.setTask id fun task => { task with state := .queued } with
      ready := b.ready ++ [.resume id]
      timers := b.timers.filter fun timer => timer.task != id } := by
  unfold wake
  rw [present]
  simp [asleep]

/-- A task that does not sleep is not woken. -/
theorem wake_of_not_asleep {b : Bench} {id : Nat} {found : Task}
    (present : b.tasks[id]? = some found) (awake : found.state ≠ .asleep) : b.wake id = b := by
  unfold wake
  rw [present]
  simp [awake]

theorem view_wake (b : Bench) (id : Nat) : (b.wake id).view = b.view := by
  unfold wake
  cases present : b.tasks[id]? with
  | none => rfl
  | some task =>
      dsimp only
      split
      · rename_i asleep
        change (b.setTask id _).view = _
        apply view_setTask_of_acting?
        intro task' present'
        rw [present, Option.some.injEq] at present'
        subst present'
        have state : task.state = .asleep := by simpa using asleep
        simp [Task.acting?, state]
      · rfl

/-! ## Records -/

/-- Put a record into the registry. -/
def store (b : Bench) (id : Int) (record : Record) : Bench :=
  { b with registry := b.registry.put id record }

theorem find?_of_view {b : Bench} {id : Int} {seen : Record}
    (found : b.view.record id = some seen) :
    ∃ record, b.registry.find? id = some record ∧ record.unlogged = seen :=
  Option.map_eq_some_iff.mp found

theorem view_of_find? {b : Bench} {id : Int} {record : Record}
    (found : b.registry.find? id = some record) : b.view.record id = some record.unlogged :=
  Option.map_eq_some_iff.mpr ⟨record, found, rfl⟩

theorem view_eq_none_iff {b : Bench} {id : Int} :
    b.view.record id = none ↔ b.registry.find? id = none :=
  Option.map_eq_none_iff

theorem view_store {b : Bench} {id : Int} {old : Record} (found : b.registry.find? id = some old)
    (record : Record) : (b.store id record).view = b.view.write id record.unlogged := by
  ext1
  case record =>
    funext other
    change ((b.registry.put id record).find? other).map _ = Function.update b.view.record id _ other
    rw [Registry.find?_put]
    by_cases same : other = id
    · subst same
      simp [found]
    · simp [same, view]
  all_goals rfl

/-- A change of a bot that is there, with a line for its log. -/
theorem update_of_find? {config : Config} {b : Bench} {id : Int} {line : String}
    {changes : List Change} {record changed : Record} (found : b.registry.find? id = some record)
    (applied : Change.applyAll record changes = .ok changed) :
    b.update config id (some line) changes =
      let updated : Record :=
        { changed with
          logs := window config.settings.logLimit
            (record.logs ++ [stamped (b.now config) line]) }
      .ok (updated, b.store id updated) := by
  unfold update
  rw [Registry.update_of_find? found applied]
  rfl

theorem update_of_missing {config : Config} {b : Bench} {id : Int} {log : Option String}
    {changes : List Change} (missing : b.registry.find? id = none) :
    b.update config id log changes = .error (.unknownBot id) := by
  unfold update
  rw [Registry.update_of_missing missing]
  rfl

/-- A message goes to the end of the transcript of a bot that is there. -/
theorem appendMessage_of_find? (config : Config) {b : Bench} {id : Int} {record : Record}
    (found : b.registry.find? id = some record) (message : Message) :
    b.after (b.appendMessage config id message) = b.store id
      { record with
        messages := window config.settings.transcriptLimit (record.messages ++ [message]) } := by
  let messages := window config.settings.transcriptLimit (record.messages ++ [message])
  have applied : Change.applyAll record [.messages messages] = .ok { record with messages } := rfl
  unfold appendMessage Registry.appendMessage
  rw [Registry.get_of_find? found]
  simp only [bind, Except.bind]
  rw [Registry.update_of_find? found applied]
  rfl

theorem appendMessage_of_missing (config : Config) {b : Bench} {id : Int}
    (missing : b.registry.find? id = none) (message : Message) :
    b.after (b.appendMessage config id message) = b := by
  unfold appendMessage Registry.appendMessage
  rw [Registry.get_of_missing missing]
  rfl

/-- A line for the log of a bot leaves the view as it is. -/
theorem view_appendLog (config : Config) (b : Bench) (id : Int) (line : String) :
    (b.after (b.appendLog config id line)).view = b.view := by
  unfold appendLog
  cases found : b.registry.find? id with
  | none =>
      rw [update_of_missing found]
      rfl
  | some record =>
      have applied : Change.applyAll record [] = .ok record := rfl
      rw [update_of_find? found applied]
      change (b.store id _).view = _
      rw [view_store found, Record.unlogged_logs]
      exact View.write_self (view_of_find? found)

theorem view_appendLines (config : Config) (b : Bench) (id : Int) (lines : List String) :
    (b.appendLines config id lines).view = b.view := by
  unfold appendLines
  induction lines generalizing b with
  | nil => rfl
  | cons line lines ih =>
      rw [List.foldl_cons, ih]
      exact view_appendLog config b id line

/-- A message goes to the end of the transcript of its bot, and nothing else changes. -/
theorem view_appendMessage (config : Config) {b : Bench} {id : Int} {seen : Record}
    (found : b.view.record id = some seen) (message : Message) :
    (b.after (b.appendMessage config id message)).view = b.view.write id
      { seen with
        messages := window config.settings.transcriptLimit (seen.messages ++ [message]) } := by
  obtain ⟨record, present, rfl⟩ := find?_of_view found
  rw [appendMessage_of_find? config present]
  exact view_store present _

/-! ## Tables -/

theorem sequencer_setEntry (b : Bench) (id : Int) (task : Nat) :
    entry? (setEntry b.sequencers id task) = Function.update b.view.sequencer id (some task) := by
  funext other
  rw [entry?_setEntry, Function.update_apply]
  rfl

theorem sequencer_eraseEntry (b : Bench) (id : Int) :
    entry? (eraseEntry b.sequencers id) = Function.update b.view.sequencer id none := by
  funext other
  rw [entry?_eraseEntry, Function.update_apply]
  rfl

theorem ticker_setEntry (b : Bench) (id : Int) (task : Nat) :
    entry? (setEntry b.tickers id task) = Function.update b.view.ticker id (some task) := by
  funext other
  rw [entry?_setEntry, Function.update_apply]
  rfl

theorem ticker_eraseEntry (b : Bench) (id : Int) :
    entry? (eraseEntry b.tickers id) = Function.update b.view.ticker id none := by
  funext other
  rw [entry?_eraseEntry, Function.update_apply]
  rfl

theorem view_schedule (b : Bench) (id : Int) (routine : Routine) :
    (b.schedule id routine).view = b.view.schedule id routine := by
  have spawned := view_spawn b routine
  ext1
  case sequencer => exact sequencer_setEntry b id b.tasks.length
  case acting => exact (congrArg View.acting spawned :)
  case count => exact (congrArg View.count spawned :)
  all_goals rfl

/-- End the sequence of a bot, if it has one. -/
def stopSequencer (b : Bench) (id : Int) : Bench :=
  match entry? b.sequencers id with
  | some task => { b with sequencers := eraseEntry b.sequencers id }.cancel task
  | none => b

theorem view_stopSequencer (b : Bench) (id : Int) :
    (b.stopSequencer id).view = b.view.dropSequencer id := by
  have read : b.view.sequencer id = entry? b.sequencers id := rfl
  unfold stopSequencer View.dropSequencer
  rw [read]
  cases entry? b.sequencers id with
  | none => rfl
  | some task =>
      dsimp only
      rw [view_cancel]
      ext1
      case sequencer => exact sequencer_eraseEntry b id
      all_goals rfl

theorem view_stopTicker (b : Bench) (id : Int) : (b.stopTicker id).view = b.view.dropTicker id := by
  have read : b.view.ticker id = entry? b.tickers id := rfl
  unfold stopTicker View.dropTicker
  rw [read]
  cases entry? b.tickers id with
  | none => rfl
  | some task =>
      dsimp only
      rw [view_cancel]
      ext1
      case ticker => exact ticker_eraseEntry b id
      all_goals rfl

theorem view_startTicker (b : Bench) (id : Int) :
    (b.startTicker id).view = if b.isTicking id then b.view else b.view.watch id := by
  unfold startTicker
  split
  · rfl
  · have spawned := view_spawn b (.ticker id false)
    ext1
    case ticker => exact ticker_setEntry b id b.tasks.length
    case acting => exact (congrArg View.acting spawned :)
    case count => exact (congrArg View.count spawned :)
    all_goals rfl

theorem view_leaveTicker (b : Bench) (id : Int) (task : Nat) :
    (b.leaveTicker id task).view =
      if b.view.ticker id = some task then
        { b.view with ticker := Function.update b.view.ticker id none }
      else b.view := by
  have read : b.view.ticker id = entry? b.tickers id := rfl
  unfold leaveTicker
  rw [read]
  by_cases stands : entry? b.tickers id = some task
  · simp only [stands, beq_self_eq_true, ↓reduceIte]
    ext1
    case ticker => exact ticker_eraseEntry b id
    all_goals rfl
  · simp only [beq_iff_eq, stands, ↓reduceIte]

/-- A ticker that leaves the table and comes to its end has been ended like one that is stopped. -/
theorem view_leaveTicker_finish {b : Bench} {id : Int} {task : Nat}
    (entry : b.view.ticker id = some task) (answer : Option Answer) :
    ((b.leaveTicker id task).finish task answer).view = b.view.dropTicker id := by
  rw [view_finish, view_leaveTicker, if_pos entry]
  unfold View.dropTicker
  rw [entry]
  rfl

end Bench

end BotBench
