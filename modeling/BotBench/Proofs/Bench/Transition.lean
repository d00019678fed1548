import BotBench.Proofs.Bench.History
import BotBench.Proofs.Bench.Queue
import BotBench.Proofs.Bench.Soundness

/-! # Moves as transitions of the view

Under the joint invariant every move of a run but a shutdown makes one of a dozen transitions of the
view (`BotBench.Bench.move_transition`). The transitions say in closed form what the move does to
the records, the tables and what is left to act, which event it brings about and which passage it
makes. What is to be shown of every run is shown of the transitions. -/

namespace BotBench

open Bench (isTokenValid)

namespace View

/-- What a leg of a sequence makes of a view: the record of the bot takes the status that the leg
gives it, a bot that begins to run gets a ticker, and the sequence goes on or is over. -/
def goLeg (v : View) (task : Nat) (id : Int) (record : Record) (leg : Leg) : View :=
  let written := v.write id (record.marked leg.outcome)
  (if leg.outcome = some .running then written.watch id else written).proceed task leg.next

@[simp] theorem record_goLeg (v : View) (task : Nat) (id other : Int) (record : Record)
    (leg : Leg) : (v.goLeg task id record leg).record other =
      if other = id then some (record.marked leg.outcome) else v.record other := by
  rw [← record_write]
  unfold goLeg
  dsimp only
  split <;> rfl

@[simp] theorem nextId_goLeg (v : View) (task : Nat) (id : Int) (record : Record) (leg : Leg) :
    (v.goLeg task id record leg).nextId = v.nextId := by
  unfold goLeg
  dsimp only
  split <;> rfl

theorem ticker_goLeg (v : View) (task : Nat) (id other : Int) (record : Record) (leg : Leg) :
    (v.goLeg task id record leg).ticker other =
      if leg.outcome = some .running ∧ other = id then some v.count else v.ticker other := by
  unfold goLeg
  dsimp only
  by_cases runs : leg.outcome = some .running
  · rw [if_pos runs]
    change (((v.write id _).watch id).ticker other) = _
    rw [ticker_watch]
    simp only [runs, true_and]
    rfl
  · rw [if_neg runs, if_neg (fun both => runs both.1)]
    rfl

/-- A sequence that acts after a leg is the one that went it, or another one. -/
theorem acting_of_goLeg {v : View} {task other : Nat} {id : Int} {record : Record} {leg : Leg}
    {routine : Routine} {bot generation : Int}
    (acts : (v.goLeg task id record leg).acting other = some routine)
    (belongs : routine.sequence? = some (bot, generation)) :
    (other = task ∧ leg.next = some routine) ∨ (other ≠ task ∧ v.acting other = some routine) := by
  unfold goLeg at acts
  dsimp only at acts
  rw [acting_proceed] at acts
  split at acts
  · rename_i same
    exact .inl ⟨same, acts⟩
  · rename_i apart
    refine .inr ⟨apart, ?_⟩
    split at acts
    · change (v.spawn (.ticker id false)).acting other = some routine at acts
      rw [acting_spawn] at acts
      split at acts
      · rw [if_pos (by rfl), Option.some.injEq] at acts
        subst acts
        contradiction
      · exact acts
    · exact acts

/-- What a move makes of a view, with the event that it brings about and the passage that it makes.
A shutdown is not among the transitions. -/
inductive Transition (least : Int) (v : View) : Option Event → Option Passage → View → Prop
  | launch {code token : String} {language : Json} {named : Language} {answer : Record}
      (name : Language.ofJson language = .ok named)
      (face : answer.unlogged = .newcomer v.nextId code token named) :
      Transition least v (some ⟨.launch code token language, answer⟩) none
        ((v.enter (.newcomer v.nextId code token named)).schedule v.nextId
          (.connect v.nextId 0 .attempt))
  | update {id : Int} {record : Record} {code token : String} {language : Json} {named : Language}
      {answer : Record} (found : v.record id = some record)
      (name : Language.ofJson language = .ok named)
      (face : answer.unlogged = record.reconfigured code token named) :
      Transition least v (some ⟨.update id code token language, answer⟩) none
        (((v.interrupt id).write id (record.reconfigured code token named)).schedule id
          (.redeploy id (record.generation + 1) (some "Redeploying with new configuration...")
            false))
  | restart {id : Int} {record answer : Record} (found : v.record id = some record)
      (face : answer.unlogged = record.renewed) :
      Transition least v (some ⟨.restart id, answer⟩) none
        (((v.interrupt id).write id record.renewed).schedule id
          (.redeploy id (record.generation + 1) none false))
  | stop {id : Int} {record answer : Record} (found : v.record id = some record)
      (face : answer.unlogged = record.halted) :
      Transition least v (some ⟨.stop id, answer⟩) none
        ((v.interrupt id).write id record.halted)
  | delete {id : Int} {record : Record} (found : v.record id = some record) :
      Transition least v none none ((v.interrupt id).erase id)
  | turn {id : Int} {record : Record} {v' : View} (found : v.record id = some record)
      (running : record.status = .running) (turn : Converses id v v') :
      Transition least v none none v'
  | leg {task : Nat} {routine : Routine} {id generation : Int} {record : Record} {leg : Leg}
      (acts : v.acting task = some routine) (belongs : routine.sequence? = some (id, generation))
      (found : v.record id = some record)
      (goes : routine.leg (isTokenValid record.token least) = leg) :
      Transition least v none
        (some
          { bot := id, generation, lines := leg.lines, before := some record.status
            after := some (leg.outcome.getD record.status) })
        (v.goLeg task id record leg)
  | begin {task : Nat} {id : Int} (acts : v.acting task = some (.ticker id false)) :
      Transition least v none none (v.proceed task (some (.ticker id true)))
  | tick {task : Nat} {id : Int} {record : Record} {cpuUsage ramUsage : Rat}
      (acts : v.acting task = some (.ticker id true)) (found : v.record id = some record)
      (running : record.status = .running) :
      Transition least v none none
        ((v.write id { record with cpuUsage, ramUsage }).proceed task (some (.ticker id true)))
  | halt {task : Nat} {id : Int} {record : Record}
      (acts : v.acting task = some (.ticker id true)) (found : v.record id = some record)
      (running : record.status = .running) :
      Transition least v none none ((v.dropTicker id).write id { record with status := .error })
  | idle {count : Nat} (counts : v.count ≤ count) :
      Transition least v none none { v with count }

theorem Transition.same (least : Int) (v : View) : Transition least v none none v :=
  .idle (Nat.le_refl v.count)

theorem proceed_self {v : View} {task : Nat} (off : v.acting task = none) :
    v.proceed task none = v := by
  simp only [proceed, ← off, Function.update_eq_self]

end View

namespace Bench

variable {config : Config} {b : Bench} {least : Int}

/-! ## Operations -/

/-- An operation that answers with a record makes a transition if it is accepted, and changes
nothing otherwise. -/
theorem answered_transition {operation : Operation} {result : Except Refusal (Record × Bench)}
    (accepted : ∀ answer b', result = .ok (answer, b') →
      b.view.Transition least (some ⟨operation, answer⟩) none b'.view) :
    b.view.Transition least
      ((result.toOption.map (·.1)).map fun record => ⟨operation, record⟩) none
      (b.after result).view := by
  cases result with
  | error refusal => exact .same ..
  | ok pair => exact accepted pair.1 pair.2 rfl

theorem send_transition (config : Config) (b : Bench) (least id : Int) (text : String) :
    b.view.Transition least none none (b.send config id text).1.view := by
  rcases view_send config b id text with same | ⟨⟨record, found, running⟩, turn⟩
  · rw [same]
    exact .same ..
  · exact .turn found running turn

/-- An operation other than a shutdown makes a transition; one that is refused changes nothing. -/
theorem operate_transition (config : Config) (fresh : b.view.record b.view.nextId = none)
    {operation : Operation}
    (goesOn : operation ≠ .shutdown) :
    b.view.Transition least
      ((b.accepted? config operation).map fun record => ⟨operation, record⟩) none
      (b.operate config operation).view := by
  cases operation with
  | launch code token language =>
      apply answered_transition
      intro answer b' done
      obtain ⟨named, name, face, after⟩ := launch_ok (view_eq_none_iff.mp fresh) done
      rw [after]
      exact .launch name face
  | update id code token language =>
      apply answered_transition
      intro answer b' done
      obtain ⟨record, named, found, name, face, after⟩ := updateBot_ok done
      rw [after]
      exact .update (view_of_find? found) name face
  | restart id =>
      apply answered_transition
      intro answer b' done
      obtain ⟨record, found, face, after⟩ := restart_ok done
      rw [after]
      exact .restart (view_of_find? found) face
  | stop id =>
      apply answered_transition
      intro answer b' done
      obtain ⟨record, found, face, after⟩ := stop_ok done
      rw [after]
      exact .stop (view_of_find? found) face
  | delete id =>
      change b.view.Transition least none none (b.operate config (.delete id)).view
      unfold operate
      dsimp only
      split
      · rename_i done
        obtain ⟨record, found, after⟩ := delete_ok done
        rw [after]
        exact .delete (view_of_find? found)
      · exact .same ..
  | shutdown => contradiction
  | send id text => exact send_transition ..
  | press id button =>
      change b.view.Transition least none none (b.operate config (.press id button)).view
      unfold operate
      dsimp only
      split
      · exact send_transition ..
      · exact .same ..

/-! ## Resumptions -/

/-- What is not resumed acts on no bot, and unwinding it changes nothing. -/
theorem view_unwind (sound : b.view.Sound least) {task : Nat} (routine : Routine)
    (off : b.view.acting task = none) : (b.unwind task routine).view = b.view := by
  have untouched (id : Int) : (b.leaveTicker id task).view = b.view := by
    rw [view_leaveTicker, if_neg]
    intro entry
    obtain ⟨⟨slept, acts⟩, -⟩ := sound.ticker entry
    rw [off] at acts
    contradiction
  have finished {b' : Bench} (same : b'.view = b.view) : (b'.finish task none).view = b.view := by
    rw [view_finish, same]
    exact View.proceed_self off
  unfold unwind
  dsimp only
  split
  · exact finished (untouched _)
  · exact finished rfl

/-- A verdict that lets its task do nothing more ends what the task does. -/
theorem view_obey_aside (config : Config) (b : Bench) (task : Nat) {verdict : Verdict}
    (aside : verdict.aside) : (b.obey config task verdict).view = b.view.proceed task none := by
  cases verdict with
  | sleep span routine => contradiction
  | wait target routine => exact view_wait aside target
  | finish answer => exact view_finish b task answer

/-- What a bench looks like after a task has been resumed. -/
theorem resume_of_queued (config : Config) {task : Nat} {found : Task}
    (present : b.tasks[task]? = some found) (queued : found.state = .queued)
    (kept : found.cancelled = false) :
    b.resume config task = (b.perform config task found.routine).1.obey config task
      (b.perform config task found.routine).2 := by
  unfold resume
  rw [present]
  simp [queued, kept]

/-- A task that is not queued is not resumed. -/
theorem resume_of_not_queued (config : Config) {task : Nat} {found : Task}
    (present : b.tasks[task]? = some found) (state : found.state ≠ .queued) :
    b.resume config task = b := by
  unfold resume
  rw [present]
  simp [state]

/-- A task that does not wait is not told anything. -/
theorem notify_of_not_waiting {task : Nat} {found : Task} (present : b.tasks[task]? = some found)
    (state : found.state ≠ .waiting) : b.notify task = b := by
  unfold notify
  rw [present]
  simp [state]

theorem tasks_after_update (config : Config) (b : Bench) (id : Int) (log : Option String)
    (changes : List Change) : (b.after (b.update config id log changes)).tasks = b.tasks := by
  unfold update
  cases b.registry.update config.settings (b.now config) id log changes with
  | error refusal => rfl
  | ok result => rfl

theorem tasks_tick (config : Config) (b : Bench) (id : Int) :
    (b.tick config id).2.tasks = b.tasks := by
  unfold tick
  split
  · rfl
  · split
    · rfl
    · dsimp only
      split
      · exact tasks_after_update ..
      · exact tasks_after_update ..

/-- A ticker that pauses has still to act. -/
theorem view_pause (config : Config) (id : Int) {task : Nat} {found : Task}
    (present : b.tasks[task]? = some found) (kept : found.cancelled = false) :
    ((b.tickerPause config).2.sleep config task (b.tickerPause config).1
      (.ticker id true)).view = b.view.proceed task (some (.ticker id true)) := by
  have paused : (b.tickerPause config).2.tasks[task]? = some found := present
  exact view_sleep paused kept rfl _

/-- A ticker that is resumed for the first time goes to sleep; later on it ticks, and goes to sleep
again or ends with its bot. -/
theorem resume_ticker_transition (config : Config) (sound : b.view.Sound least) {task : Nat}
    {found : Task} {id : Int} {slept : Bool} (present : b.tasks[task]? = some found)
    (queued : found.state = .queued) (kept : found.cancelled = false)
    (ticks : found.routine = .ticker id slept) :
    b.view.Transition least none none (b.resume config task).view := by
  have acts : b.view.acting task = some (.ticker id slept) :=
    acting?_eq_some_iff.mpr ⟨found, present, by simp [queued], kept, rfl, ticks⟩
  rw [resume_of_queued config present queued kept, ticks]
  cases slept with
  | false =>
      change b.view.Transition least none none ((b.tickerPause config).2.sleep config task
        (b.tickerPause config).1 (.ticker id true)).view
      rw [view_pause config id present kept]
      exact .begin acts
  | true =>
      have entry := sound.watcher acts
      rw [perform_ticker]
      rcases tick_cases config b id with
        ⟨record, cpuUsage, ramUsage, seen, running, goesOn, after⟩ |
        ⟨record, seen, running, ended, after⟩ | ⟨idle, ended, after⟩
      · rw [if_pos goesOn]
        change b.view.Transition least none none (((b.tick config id).2.tickerPause config).2.sleep
          config task ((b.tick config id).2.tickerPause config).1 (.ticker id true)).view
        rw [view_pause config id (tasks_tick config b id ▸ present) kept, after]
        exact .tick acts seen running
      · rw [ended, if_neg (by simp)]
        change b.view.Transition least none none
          (((b.tick config id).2.leaveTicker id task).finish task none).view
        have stands : (b.tick config id).2.view.ticker id = some task := by
          rw [after]
          exact entry
        rw [view_leaveTicker_finish stands, after, View.dropTicker_write]
        exact .halt acts seen running
      · obtain ⟨-, record, seen, running⟩ := sound.ticker entry
        exact absurd running (idle record seen)

theorem resumed?_callback {task place : Nat} {found : Task}
    (queue : b.ready[place]? = some (.resume task)) (present : b.tasks[task]? = some found)
    (queued : found.state = .queued) (kept : found.cancelled = false) :
    b.resumed? (.callback place) = some (task, found.routine) := by
  unfold resumed?
  dsimp only
  rw [queue]
  dsimp only
  rw [present]
  simp [queued, kept]

theorem of_resumed? {place : Nat} {pair : Nat × Routine}
    (resumed : b.resumed? (.callback place) = some pair) :
    ∃ task found, b.ready[place]? = some (.resume task) ∧ b.tasks[task]? = some found ∧
      found.state = .queued ∧ found.cancelled = false ∧ pair = (task, found.routine) := by
  unfold resumed? at resumed
  dsimp only at resumed
  split at resumed
  · rename_i task queue
    split at resumed
    · rename_i found present
      split at resumed
      · rename_i alive
        simp only [Bool.and_eq_true, beq_iff_eq, Bool.not_eq_true'] at alive
        exact ⟨task, found, queue, present, alive.1, alive.2, (Option.some.inj resumed).symm⟩
      · contradiction
    · contradiction
  · contradiction

theorem step_of_queue {task place : Nat} (queue : b.ready[place]? = some (.resume task)) :
    b.step config (.callback place) = (b.taken (.callback place)).resume config task := by
  change b.runAt config place = _
  unfold runAt
  rw [queue]
  rfl

theorem passage?_eq_none {place task : Nat} {routine : Routine}
    (resumed : b.resumed? (.callback place) = some (task, routine))
    (apart : routine.sequence? = none) : b.passage? config (.callback place) = none := by
  unfold passage?
  simp only [resumed, Option.bind_some, apart, Option.map_none]

/-- A sequence that is resumed goes its leg, and its passage says so. The log of its bot is extended
by the lines of the leg, and all the other bots are left alone. -/
theorem sequence_resumed (sound : b.view.Sound config.settings.minTokenPrefix)
    {task place : Nat} {found : Task} {id generation : Int}
    (queue : b.ready[place]? = some (.resume task))
    (present : b.tasks[task]? = some found) (queued : found.state = .queued)
    (kept : found.cancelled = false)
    (belongs : found.routine.sequence? = some (id, generation)) :
    ∃ record updated, b.registry.find? id = some record ∧ record.generation = generation ∧
      let leg := found.routine.leg (isTokenValid record.token config.settings.minTokenPrefix)
      (b.step config (.callback place)).view = b.view.goLeg task id record.unlogged leg ∧
        b.passage? config (.callback place) = some
          { bot := id, generation, lines := leg.lines, before := some record.status
            after := some (leg.outcome.getD record.status) } ∧
        (b.step config (.callback place)).registry.find? id = some updated ∧
        updated.logs = extendLog config.settings.logLimit (b.now config) record.logs leg.lines ∧
        ∀ other, other ≠ id →
          (b.step config (.callback place)).registry.find? other = b.registry.find? other := by
  have acts : b.view.acting task = some found.routine :=
    acting?_eq_some_iff.mpr ⟨found, present, by simp [queued], kept,
      Routine.acts_of_sequence? belongs, rfl⟩
  obtain ⟨entry, seen, shown, backs⟩ := sound.sequence acts belongs
  obtain ⟨record, there, rfl⟩ := find?_of_view shown
  have unwatched := sound.unwatched acts belongs
  have stepped (config : Config) : b.step config (.callback place) =
      (b.taken (.callback place)).resume config task := step_of_queue queue
  obtain ⟨viewed, ⟨updated, stored, status, extended⟩, others⟩ := view_resume_sequence
    (b := b.taken (.callback place)) config present queued kept belongs there backs.current
    unwatched
  obtain ⟨-, ⟨whole, kept', -, logs⟩, -⟩ := view_resume_sequence (b := b.taken (.callback place))
    config.unwindowed present queued kept belongs there backs.current unwatched
  let leg := found.routine.leg (isTokenValid record.token config.settings.minTokenPrefix)
  -- the move is compared with itself under the set-up that keeps logs whole
  have written : b.linesWritten config (.callback place) id = leg.lines := by
    unfold linesWritten
    rw [there, stepped, kept']
    dsimp only
    rw [logs]
    change ((extendLog 0 _ record.logs leg.lines).drop record.logs.length).map lineText = _
    rw [extendLog_zero]
    simp [Function.comp_def]
  have before : b.status? id = some record.status := by
    unfold status?
    rw [there]
    rfl
  have after : (b.step config (.callback place)).status? id =
      some (leg.outcome.getD record.status) := by
    unfold status?
    rw [stepped, stored, Option.map_some, status]
  refine ⟨record, updated, there, backs.current, ?_, ?_, ?_, extended, ?_⟩
  · rw [stepped, viewed]
    rfl
  · unfold passage?
    rw [resumed?_callback queue present queued kept]
    simp only [Option.bind_some, belongs, Option.map_some, written, before, after]
    rfl
  · rw [stepped]
    exact stored
  · rw [stepped]
    exact others

/-- A sequence that is resumed makes the transition of its leg. -/
theorem resume_sequence_transition (sound : b.view.Sound config.settings.minTokenPrefix)
    {task place : Nat} {found : Task} {id generation : Int}
    (queue : b.ready[place]? = some (.resume task))
    (present : b.tasks[task]? = some found) (queued : found.state = .queued)
    (kept : found.cancelled = false)
    (belongs : found.routine.sequence? = some (id, generation)) :
    b.view.Transition config.settings.minTokenPrefix none
      (b.passage? config (.callback place)) (b.step config (.callback place)).view := by
  have acts : b.view.acting task = some found.routine :=
    acting?_eq_some_iff.mpr ⟨found, present, by simp [queued], kept,
      Routine.acts_of_sequence? belongs, rfl⟩
  obtain ⟨record, -, there, -, viewed, passage, -⟩ :=
    sequence_resumed sound queue present queued kept belongs
  rw [passage, viewed]
  exact .leg acts belongs (view_of_find? there) rfl

/-- A passage is logged by a move when its generation is the one that its bot has, its lines are
those by which the log of the bot is extended, and all the other bots are left alone. -/
def Logged (config : Config) (b : Bench) (move : Move) (passage : Passage) : Prop :=
  ∃ record updated, b.registry.find? passage.bot = some record ∧
    record.generation = passage.generation ∧
    (b.step config move).registry.find? passage.bot = some updated ∧
    updated.logs = extendLog config.settings.logLimit (b.now config) record.logs passage.lines ∧
    ∀ other, other ≠ passage.bot →
      (b.step config move).registry.find? other = b.registry.find? other

/-- A move makes a passage only if it resumes a sequence, and the passage is logged. -/
theorem logged_of_passage? (sound : b.view.Sound config.settings.minTokenPrefix) {move : Move}
    {passage : Passage} (made : b.passage? config move = some passage) :
    b.Logged config move passage := by
  cases move with
  | callback place =>
      cases resumed : b.resumed? (.callback place) with
      | none =>
          unfold passage? at made
          rw [resumed] at made
          contradiction
      | some pair =>
          obtain ⟨task, found, queue, present, queued, kept, rfl⟩ := of_resumed? resumed
          cases belongs : found.routine.sequence? with
          | none =>
              rw [passage?_eq_none resumed belongs] at made
              contradiction
          | some owner =>
              obtain ⟨record, updated, there, current, -, passage', stored, logs, others⟩ :=
                sequence_resumed sound queue present queued kept belongs
              rw [made, Option.some.injEq] at passage'
              subst passage'
              exact ⟨record, updated, there, current, stored, logs, others⟩
  | _ => contradiction

/-- A call that is begun carries out its operation. -/
theorem resume_serve_transition (sound : b.view.Sound least) {task place : Nat} {found : Task}
    {call : Call} (queue : b.ready[place]? = some (.resume task))
    (present : b.tasks[task]? = some found) (queued : found.state = .queued)
    (kept : found.cancelled = false) (serves : found.routine = .serve call) :
    b.view.Transition least (b.event? config (.callback place)) none
      (b.step config (.callback place)).view := by
  have operation : b.operation? (.callback place) = call.operation? := by
    unfold operation?
    dsimp only
    rw [resumed?_callback queue present queued kept, serves]
  obtain ⟨operated, aside⟩ := serve_operates config (b.taken (.callback place)) call
  have stepped : (b.step config (.callback place)).view =
      ((b.taken (.callback place)).serve config call).1.view := by
    have resumed : b.step config (.callback place) =
        ((b.taken (.callback place)).serve config call).1.obey config task
          ((b.taken (.callback place)).serve config call).2 := by
      rw [step_of_queue queue,
        resume_of_queued (b := b.taken (.callback place)) config present queued kept, serves]
      rfl
    rw [resumed, view_obey_aside config _ task aside]
    apply View.proceed_self
    have law := task_law task (motive := fun task => task.routine.acts = false)
      (fun _ idle => idle) fun _ idle => idle
    have before : ∃ found, (b.taken (.callback place)).tasks[task]? = some found ∧
        found.routine.acts = false := ⟨found, present, by rw [serves]; rfl⟩
    obtain ⟨found', present', idle⟩ : ∃ found,
        ((b.taken (.callback place)).serve config call).1.tasks[task]? = some found ∧
          found.routine.acts = false := law.serve before
    change Option.bind _ Task.acting? = none
    rw [present']
    simp [Task.acting?, idle]
  rw [stepped, operated]
  unfold event?
  rw [operation]
  cases carried : call.operation? with
  | none => exact .same ..
  | some operation =>
      have goesOn : operation ≠ .shutdown := by
        rintro rfl
        cases call <;> simp [Call.operation?] at carried
      exact operate_transition (b := b.taken (.callback place)) config sound.record_nextId goesOn

theorem event?_eq_none {place task : Nat} {routine : Routine}
    (resumed : b.resumed? (.callback place) = some (task, routine))
    (apart : ∀ call, routine ≠ .serve call) : b.event? config (.callback place) = none := by
  have idle : b.operation? (.callback place) = none := by
    unfold operation?
    dsimp only
    rw [resumed]
    cases routine with
    | serve call => exact absurd rfl (apart call)
    | _ => rfl
  unfold event?
  rw [idle]
  rfl

/-- A task that is resumed makes the transition of its kind. -/
theorem resumed_transition (sound : b.view.Sound config.settings.minTokenPrefix)
    {task place : Nat} {found : Task} (queue : b.ready[place]? = some (.resume task))
    (present : b.tasks[task]? = some found) (queued : found.state = .queued)
    (kept : found.cancelled = false) :
    b.view.Transition config.settings.minTokenPrefix (b.event? config (.callback place))
      (b.passage? config (.callback place)) (b.step config (.callback place)).view := by
  have resumed := resumed?_callback queue present queued kept
  have unmoved_of (aside : (b.taken (.callback place)).perform config task found.routine =
      (b.taken (.callback place), ((b.taken (.callback place)).perform config task
        found.routine).2))
      (verdict : ((b.taken (.callback place)).perform config task found.routine).2.aside)
      (idle : found.routine.acts = false) :
      (b.step config (.callback place)).view = b.view := by
    rw [step_of_queue queue,
      resume_of_queued (b := b.taken (.callback place)) config present queued kept, aside,
      view_obey_aside config _ task verdict]
    apply View.proceed_self
    change Option.bind b.tasks[task]? Task.acting? = none
    rw [present]
    simp [Task.acting?, idle]
  cases routine : found.routine with
  | connect bot generation stage =>
      rw [event?_eq_none resumed (by simp [routine])]
      exact resume_sequence_transition sound queue present queued kept (by rw [routine]; rfl)
  | redeploy bot generation line slept =>
      rw [event?_eq_none resumed (by simp [routine])]
      exact resume_sequence_transition sound queue present queued kept (by rw [routine]; rfl)
  | ticker bot slept =>
      rw [event?_eq_none resumed (by simp [routine]),
        passage?_eq_none resumed (by rw [routine]; rfl), step_of_queue queue]
      exact resume_ticker_transition (b := b.taken (.callback place)) config sound present queued
        kept routine
  | awaitIdle bot waited =>
      have unmoved : (b.step config (.callback place)).view = b.view := by
        apply unmoved_of
        · rw [routine]
          unfold perform
          dsimp only
          split <;> rfl
        · rw [routine]
          unfold perform
          dsimp only
          split
          · exact rfl
          · trivial
        · rw [routine]
          rfl
      rw [event?_eq_none resumed (by simp [routine]),
        passage?_eq_none resumed (by rw [routine]; rfl), unmoved]
      exact .same ..
  | serve call =>
      rw [passage?_eq_none resumed (by rw [routine]; rfl)]
      exact resume_serve_transition sound queue present queued kept routine
  | report status bot =>
      have unmoved : (b.step config (.callback place)).view = b.view := by
        apply unmoved_of
        · rw [routine]
          rfl
        · rw [routine]
          trivial
        · rw [routine]
          rfl
      rw [event?_eq_none resumed (by simp [routine]),
        passage?_eq_none resumed (by rw [routine]; rfl), unmoved]
      exact .same ..

/-- A callback that resumes no task to let it go on leaves the view as it is. -/
theorem unresumed_step (sound : b.view.Sound least) {place : Nat}
    (still : b.resumed? (.callback place) = none) :
    (b.step config (.callback place)).view = b.view := by
  unfold resumed? at still
  dsimp only at still
  cases queue : b.ready[place]? with
  | none =>
      change (b.runAt config place).view = _
      unfold runAt
      rw [queue]
  | some callback =>
      cases callback with
      | notify task =>
          change (b.runAt config place).view = _
          unfold runAt
          rw [queue]
          exact view_notify ..
      | resume task =>
          rw [queue] at still
          dsimp only at still
          have taken : (b.taken (.callback place)).tasks = b.tasks := rfl
          rw [step_of_queue queue]
          unfold resume
          rw [taken]
          cases present : b.tasks[task]? with
          | none => rfl
          | some found =>
              rw [present] at still
              dsimp only at still ⊢
              split
              · rfl
              · rename_i state
                have queued : found.state = .queued := by simpa using state
                have ended : found.cancelled = true := by simpa [queued] using still
                rw [if_pos ended]
                apply view_unwind (b := b.taken (.callback place)) sound
                change Option.bind b.tasks[task]? Task.acting? = none
                rw [present]
                simp [Task.acting?, ended]

/-- Every move but a shutdown makes a transition of the view, brings about its event and makes its
passage. -/
theorem move_transition (sound : b.view.Sound config.settings.minTokenPrefix) {move : Move}
    (goesOn : move ≠ .operate .shutdown) :
    b.view.Transition config.settings.minTokenPrefix (b.event? config move)
      (b.passage? config move) (b.step config move).view := by
  cases move with
  | operate operation =>
      refine operate_transition config sound.record_nextId ?_
      rintro rfl
      exact goesOn rfl
  | call call =>
      change b.view.Transition _ none none (b.spawn (.serve call)).2.view
      rw [view_spawn_of_not_acts b rfl]
      exact .idle (Nat.le_succ _)
  | awaitIdle bot =>
      change b.view.Transition _ none none (b.spawn (.awaitIdle bot false)).2.view
      rw [view_spawn_of_not_acts b rfl]
      exact .idle (Nat.le_succ _)
  | callback place =>
      cases resumed : b.resumed? (.callback place) with
      | none =>
          have unmoved : (b.step config (.callback place)).view = b.view :=
            unresumed_step sound resumed
          unfold event? operation? passage?
          dsimp only
          rw [resumed, unmoved]
          exact .same ..
      | some pair =>
          obtain ⟨task, found, queue, present, queued, kept, -⟩ := of_resumed? resumed
          exact resumed_transition sound queue present queued kept
  | wake task =>
      change b.view.Transition _ none none (b.wake task).view
      rw [view_wake]
      exact .same ..
  | clock time => exact .same ..

end Bench

end BotBench
