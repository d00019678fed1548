import BotBench.Proofs.Bench.Resting
import BotBench.Proofs.Bench.Roster
import BotBench.Proofs.Bench.Undisturbed
import Mathlib.Algebra.Order.Ring.Rat

/-! # Counting a sequence down

A sequence on its way is queued, or asleep until its timer is due, and what is then still ahead of it
takes the rest of the time until it is over. Every move that is made on time keeps this up, or is
the last leg of the sequence and is made at the very time at which it was to be over
(`BotBench.Bench.Underway.step`). -/

namespace BotBench

open Bench (isTokenValid)

/-! ## Delays -/

/-- How long a sleep for a span lasts. None is shorter than no time. -/
def Span.length : Span → Rat
  | .finite seconds => max 0 seconds
  | .endless => 0

/-- How long the sleep for a delay lasts. -/
def pause (delay : Float) : Rat := (Span.ofFloat delay).length

theorem Span.length_nonneg (span : Span) : 0 ≤ span.length := by
  cases span with
  | finite seconds => exact le_max_left 0 seconds
  | endless => exact le_refl 0

theorem pause_nonneg (delay : Float) : 0 ≤ pause delay := Span.length_nonneg _

/-- The delays of a deployment. -/
def Settings.deploymentDelays (settings : Settings) : List Float :=
  [settings.redeployDelay, settings.connectDelay, settings.validateDelay, settings.establishDelay,
    settings.runningDelay]

/-- How long a sequence takes from a stage to its end, for a token that is valid or not. -/
def Stage.ahead (settings : Settings) (valid : Bool) : Stage → Rat
  | .attempt =>
      pause settings.connectDelay + pause settings.validateDelay +
        if valid then pause settings.establishDelay + pause settings.runningDelay else 0
  | .validate =>
      pause settings.validateDelay +
        if valid then pause settings.establishDelay + pause settings.runningDelay else 0
  | .check => if valid then pause settings.establishDelay + pause settings.runningDelay else 0
  | .establish => pause settings.runningDelay
  | .finish => 0

/-- How long a sequence takes from where it goes on to its end. -/
def Routine.ahead (settings : Settings) (valid : Bool) : Routine → Rat
  | .connect _ _ stage => stage.ahead settings valid
  | .redeploy _ _ _ slept =>
      (if slept then 0 else pause settings.redeployDelay) + Stage.ahead settings valid .attempt
  | _ => 0

theorem Stage.ahead_nonneg (settings : Settings) (valid : Bool) (stage : Stage) :
    0 ≤ stage.ahead settings valid := by
  have checked : 0 ≤ if valid then pause settings.establishDelay + pause settings.runningDelay
      else 0 := by
    split
    · exact add_nonneg (pause_nonneg _) (pause_nonneg _)
    · exact le_refl 0
  cases stage with
  | attempt => exact add_nonneg (add_nonneg (pause_nonneg _) (pause_nonneg _)) checked
  | validate => exact add_nonneg (pause_nonneg _) checked
  | check => exact checked
  | establish => exact pause_nonneg _
  | finish => exact le_refl 0

theorem Routine.ahead_nonneg (settings : Settings) (valid : Bool) (routine : Routine) :
    0 ≤ routine.ahead settings valid := by
  cases routine with
  | connect bot generation stage => exact stage.ahead_nonneg settings valid
  | redeploy bot generation line slept =>
      refine add_nonneg ?_ (Stage.ahead_nonneg ..)
      split
      · exact le_refl 0
      · exact pause_nonneg _
  | _ => exact le_refl 0

/-- A leg that leads on is followed by its delay, and what is ahead then takes the rest. -/
theorem Routine.ahead_of_next (settings : Settings) {valid : Bool} {routine next : Routine}
    (goes : (routine.leg valid).next = some next) :
    routine.delay settings ∈ settings.deploymentDelays ∧
      routine.ahead settings valid =
        pause (routine.delay settings) + next.ahead settings valid := by
  cases routine with
  | connect bot generation stage =>
      cases stage with
      | attempt =>
          cases goes
          exact ⟨by simp [delay, Stage.delay, Settings.deploymentDelays], add_assoc ..⟩
      | validate =>
          cases goes
          exact ⟨by simp [delay, Stage.delay, Settings.deploymentDelays], rfl⟩
      | check =>
          simp only [leg, Stage.leg] at goes
          split at goes
          · rename_i accepted
            cases goes
            refine ⟨by simp [delay, Stage.delay, Settings.deploymentDelays], ?_⟩
            simp only [ahead, Stage.ahead, accepted, ↓reduceIte, delay, Stage.delay]
          · contradiction
      | establish =>
          cases goes
          exact ⟨by simp [delay, Stage.delay, Settings.deploymentDelays], (add_zero _).symm⟩
      | finish => contradiction
  | redeploy bot generation line slept =>
      cases slept with
      | false =>
          cases goes
          refine ⟨by simp [delay, Settings.deploymentDelays], ?_⟩
          simp [ahead, delay]
      | true =>
          cases goes
          refine ⟨by simp [delay, Settings.deploymentDelays], ?_⟩
          simp [ahead, Stage.ahead, delay, add_assoc]
  | _ => contradiction

/-- With the leg after which nothing is ahead the bot runs or fails, as its token is valid or not. -/
theorem Routine.outcome_of_over (settings : Settings) {valid : Bool} {routine : Routine}
    {bot generation : Int} (belongs : routine.sequence? = some (bot, generation))
    (passed : routine.checked = true → valid = true) (ended : (routine.leg valid).next = none) :
    (routine.leg valid).outcome = some (if valid then .running else .error) ∧
      routine.ahead settings valid = 0 := by
  cases routine with
  | connect bot generation stage =>
      cases stage with
      | attempt | validate | establish => contradiction
      | check =>
          simp only [leg, Stage.leg] at ended ⊢
          split at ended
          · contradiction
          · rename_i refused
            simp [ahead, Stage.ahead, refused]
      | finish =>
          rw [passed rfl]
          exact ⟨rfl, rfl⟩
  | redeploy bot generation line slept => cases slept <;> contradiction
  | _ => contradiction

namespace Bench

variable {config : Config} {b b' : Bench} {bot : Int} {task : Nat} {valid : Bool}
  {deadline time : Rat}

/-! ## On time -/

/-- Whether a move is made on time: a task wakes when its timer is due, and time passes while the
queue is empty only, and no further than to the earliest timer. -/
def OnTime (b : Bench) : Move → Prop
  | .clock time => b.clock ≤ time ∧
      (b.clock < time → b.ready = [] ∧
        ∀ timer ∈ b.timers, timer.due.before (.finite time) = false)
  | .wake task =>
      ∃ timer ∈ b.timers, timer.task = task ∧ (Span.finite b.clock).before timer.due = false
  | _ => True

/-- A task in a state will be resumed at a time: now, if it is queued, or when its timer is due. -/
def ResumedAt (b : Bench) (task : Nat) (state : TaskState) (time : Rat) : Prop :=
  (state = .queued ∧ .resume task ∈ b.ready ∧ b.clock = time) ∨
    (state = .asleep ∧ ⟨.finite time, task⟩ ∈ b.timers ∧ b.clock ≤ time)

/-- A sequence of a bot is on its way, and will be over at a time: what is ahead of it takes the
time from its next resumption to the end. -/
structure Underway (config : Config) (bot : Int) (task : Nat) (valid : Bool) (deadline : Rat)
    (b : Bench) : Prop where
  token : ∃ seen, b.view.record bot = some seen ∧
    isTokenValid seen.token config.settings.minTokenPrefix = valid
  going : ∃ found generation time, b.tasks[task]? = some found ∧ found.cancelled = false ∧
    found.routine.sequence? = some (bot, generation) ∧ b.ResumedAt task found.state time ∧
    time + found.routine.ahead config.settings valid = deadline

/-- The deployment of a bot is pending: the bot is stopped and does not tick, its sequence is not
over, and the loop has still to resume it by the deadline. -/
structure Pending (bot : Int) (task : Nat) (deadline : Rat) (b : Bench) : Prop where
  stopped : b.status? bot = some .stopped
  silent : b.isTicking bot = false
  entry : entry? b.sequencers bot = some task
  unfinished : b.isFinished task = false
  clock : b.clock ≤ deadline
  owed : .resume task ∈ b.ready ∨ ∃ due, ⟨.finite due, task⟩ ∈ b.timers ∧ due ≤ deadline

/-- The deployment of a bot comes to its end with a move: at the deadline, with the status that the
token leads to, and with a ticker if the bot runs. -/
structure Arrives (config : Config) (bot : Int) (task : Nat) (valid : Bool) (deadline : Rat)
    (b : Bench) (move : Move) : Prop where
  before : b.clock = deadline
  after : (b.step config move).clock = deadline
  finished : (b.step config move).isFinished task = true
  status : (b.step config move).status? bot = some (if valid then .running else .error)
  ticking : (b.step config move).isTicking bot = valid

theorem ResumedAt.state {state : TaskState} (resumed : b.ResumedAt task state time) :
    state ≠ .finished ∧ state ≠ .waiting := by
  rcases resumed with ⟨rfl, -⟩ | ⟨rfl, -⟩ <;> simp

theorem ResumedAt.clock_le {state : TaskState} (resumed : b.ResumedAt task state time) :
    b.clock ≤ time := by
  rcases resumed with ⟨-, -, now⟩ | ⟨-, -, later⟩
  · exact le_of_eq now
  · exact later

theorem ResumedAt.undisturbed {state : TaskState} (resumed : b.ResumedAt task state time)
    (undisturbed : Undisturbed task b b') (clock : b'.clock = b.clock) :
    b'.ResumedAt task state time := by
  rcases resumed with ⟨queued, member, now⟩ | ⟨asleep, member, later⟩
  · exact .inl ⟨queued, undisturbed.resumed member, clock.trans now⟩
  · exact .inr ⟨asleep, undisturbed.timer member, clock ▸ later⟩

theorem status?_eq_view (b : Bench) (bot : Int) :
    b.status? bot = (b.view.record bot).map (·.status) := by
  change _ = ((b.registry.find? bot).map Record.unlogged).map _
  rw [Option.map_map]
  rfl

theorem Underway.live (underway : Underway config bot task valid deadline b) :
    ∃ generation, b.LiveSequence bot generation task := by
  obtain ⟨found, generation, time, present, kept, belongs, resumed, -⟩ := underway.going
  exact ⟨generation, found, present, belongs, resumed.state.1, kept⟩

theorem Underway.pending (sound : b.view.Sound config.settings.minTokenPrefix)
    (underway : Underway config bot task valid deadline b) : Pending bot task deadline b := by
  obtain ⟨found, generation, time, present, kept, belongs, resumed, total⟩ := underway.going
  have live : b.LiveSequence bot generation task :=
    ⟨found, present, belongs, resumed.state.1, kept⟩
  obtain ⟨entry, silent, record, there, -, stopped, -⟩ := live.backed sound
  have by_then : time ≤ deadline :=
    total ▸ le_add_of_nonneg_right (Routine.ahead_nonneg ..)
  refine ⟨?_, silent, entry, ?_, resumed.clock_le.trans by_then, ?_⟩
  · unfold status?
    rw [there]
    exact congrArg some stopped
  · unfold isFinished
    rw [present]
    simpa using resumed.state.1
  · rcases resumed with ⟨-, member, -⟩ | ⟨-, member, -⟩
    · exact .inl member
    · exact .inr ⟨time, member, by_then⟩

/-- A sequence that is left undisturbed is as far on its way as before. -/
theorem Underway.undisturbed (underway : Underway config bot task valid deadline b)
    (undisturbed : Undisturbed task b b') (clock : b'.clock = b.clock)
    (record : b'.view.record bot = b.view.record bot) :
    Underway config bot task valid deadline b' where
  token := record ▸ underway.token
  going := by
    obtain ⟨found, generation, time, present, kept, belongs, resumed, total⟩ := underway.going
    obtain ⟨watchers, present'⟩ := undisturbed.task present
    exact ⟨_, generation, time, present', kept, belongs, resumed.undisturbed undisturbed clock,
      total⟩

/-! ## Moves for others -/

/-- A bot that a move does not delete is still there afterwards. -/
theorem record_of_undeleted (fresh : b.registry.find? b.registry.nextId = none) {move : Move}
    (there : b.view.record bot ≠ none) (undeleted : b.deleted? move ≠ some bot) :
    (b.step config move).view.record bot ≠ none := by
  have becomes := step_becomes config fresh move
  have listed : bot ∈ b.registry.numbers := by
    rw [← Registry.find?_isSome_iff, Option.isSome_iff_ne_none]
    exact fun missing => there (view_eq_none_iff.mpr missing)
  have still : bot ∈ (b.step config move).registry.numbers := by
    rw [becomes.numbers, List.mem_filter, decide_eq_true_iff, Option.mem_toList]
    exact ⟨List.mem_append_left _ listed, undeleted⟩
  rw [← Registry.find?_isSome_iff, Option.isSome_iff_ne_none] at still
  exact fun missing => still (view_eq_none_iff.mp missing)

/-- A bot that does not run rests when a move is no operation on the bot and does not resume a
sequence of the bot. -/
theorem rests_step (sound : b.view.Sound config.settings.minTokenPrefix) {move : Move}
    (goesOn : move ≠ .operate .shutdown) {record : Record}
    (there : b.registry.find? bot = some record) (idle : record.status ≠ .running)
    (unmoved : ∀ task generation, b.LiveSequence bot generation task →
      b.addressee? move ≠ some task)
    (spared : ∀ event, b.event? config move = some event → event.bot ≠ bot)
    (undeleted : b.deleted? move ≠ some bot) :
    View.Rests bot b.view (b.step config move).view := by
  have shown := view_of_find? there
  refine (move_transition sound goesOn).rests sound shown idle ?_ spared ?_
  · exact record_of_undeleted (view_eq_none_iff.mp sound.record_nextId) (by simp [shown]) undeleted
  · -- a passage is made by the sequence that is resumed
    rintro passage made rfl
    obtain ⟨⟨task, routine⟩, resumed, made⟩ := Option.bind_eq_some_iff.mp made
    obtain ⟨⟨id, generation⟩, belongs, rfl⟩ := Option.map_eq_some_iff.mp made
    cases move with
    | callback place =>
        obtain ⟨_, found, queue, present, queued, kept, same⟩ := of_resumed? resumed
        obtain ⟨rfl, rfl⟩ := Prod.mk.inj same
        exact unmoved task generation ⟨found, present, belongs, by simp [queued], kept⟩
          (by simp [addressee?, queue, Callback.task])
    | _ => contradiction

/-- What is done for other bots leaves a sequence as far on its way as it is. -/
theorem Underway.foreign (sound : b.view.Sound config.settings.minTokenPrefix)
    (underway : Underway config bot task valid deadline b) {move : Move}
    (goesOn : move ≠ .operate .shutdown) (still : ∀ time, move ≠ .clock time)
    (foreign : b.addressee? move ≠ some task) (unwoken : move ≠ .wake task)
    (spared : ∀ event, b.event? config move = some event → event.bot ≠ bot)
    (undeleted : b.deleted? move ≠ some bot) :
    Underway config bot task valid deadline (b.step config move) := by
  obtain ⟨generation, live⟩ := underway.live
  obtain ⟨entry, -, record, there, -, stopped, -⟩ := live.backed sound
  obtain ⟨routine, acts, belongs⟩ := liveSequence_iff.mp live
  have rests : View.Rests bot b.view (b.step config move).view := by
    refine rests_step sound goesOn there (by simp [stopped]) ?_ spared undeleted
    intro other generation' live'
    obtain rfl : task = other := Option.some.inj (entry.symm.trans (live'.backed sound).1)
    exact foreign
  rcases undisturbed_step config b foreign unwoken with ⟨found, present, cancelled⟩ | undisturbed
  · -- a sequence that has still to act is not cancelled
    obtain ⟨found', present', -, kept, -⟩ :=
      acting?_eq_some_iff.mp (rests.sequence acts belongs)
    obtain rfl := Option.some.inj (present.symm.trans present')
    rw [cancelled] at kept
    contradiction
  · exact underway.undisturbed undisturbed (clock_step config b still) rests.record

/-- A bot that has failed stays so until it is operated. -/
theorem failed_step (sound : b.view.Sound config.settings.minTokenPrefix) {move : Move}
    (failed : b.status? bot = some .error) (goesOn : move ≠ .operate .shutdown)
    (spared : ∀ event, b.event? config move = some event → event.bot ≠ bot)
    (undeleted : b.deleted? move ≠ some bot) :
    (b.step config move).status? bot = some .error := by
  obtain ⟨record, there, status⟩ := Option.map_eq_some_iff.mp failed
  have rests : View.Rests bot b.view (b.step config move).view := by
    refine rests_step sound goesOn there (by simp [status]) ?_ spared undeleted
    intro task generation live
    obtain ⟨-, -, record', there', -, stopped, -⟩ := live.backed sound
    obtain rfl := Option.some.inj (there.symm.trans there')
    rw [status] at stopped
    contradiction
  rw [status?_eq_view, rests.record, ← status?_eq_view, failed]

/-! ## Moves of the sequence itself -/

/-- A task that sleeps for a span is resumed when it is over, in exact arithmetic. -/
theorem resumedAt_sleep (exact : config.rounding = id) {found : Task}
    (present : b.tasks[task]? = some found) (seconds : Rat) (next : Routine) :
    ∃ state, (b.sleep config task (.finite seconds) next).tasks[task]? =
        some { found with routine := next, state } ∧
      (b.sleep config task (.finite seconds) next).ResumedAt task state
        (b.clock + max 0 seconds) := by
  have changed (state : TaskState) :
      (b.setTask task fun task => { task with routine := next, state }).tasks[task]? =
        some { found with routine := next, state } := by
    rw [getElem?_setTask, if_pos rfl, present]
    rfl
  unfold Bench.sleep
  dsimp only
  split
  · rename_i expired
    refine ⟨.queued, changed .queued, .inl ⟨rfl, List.mem_append_right _ (by simp), ?_⟩⟩
    rw [max_eq_left expired, add_zero]
    rfl
  · rename_i lasts
    have positive : 0 ≤ seconds := le_of_lt (not_le.mp lasts)
    refine ⟨.asleep, changed .asleep, .inr ⟨rfl, ?_, ?_⟩⟩
    · rw [max_eq_right positive, exact]
      exact List.mem_append_right _ (by simp)
    · rw [max_eq_right positive]
      exact le_add_of_nonneg_right positive

theorem isFinished_finish (b : Bench) (task : Nat) (answer : Option Answer) :
    (b.finish task answer).isFinished task = true := by
  unfold finish
  cases present : b.tasks[task]? with
  | none => simp [isFinished, present]
  | some found =>
      change (b.setTask task _).isFinished task = true
      unfold isFinished
      rw [getElem?_setTask, if_pos rfl, present]
      rfl

/-- What a bench becomes when a sequence is resumed, whose bot has a record with the token
`token`. -/
theorem step_sequence (sound : b.view.Sound config.settings.minTokenPrefix) {place : Nat}
    {found : Task} {generation : Int} {seen : Record} (queue : b.ready[place]? = some (.resume task))
    (present : b.tasks[task]? = some found) (queued : found.state = .queued)
    (kept : found.cancelled = false)
    (belongs : found.routine.sequence? = some (bot, generation))
    (shown : b.view.record bot = some seen) :
    let leg := found.routine.leg (isTokenValid seen.token config.settings.minTokenPrefix)
    (b.step config (.callback place)).view = b.view.goLeg task bot seen leg ∧
      (leg.next ≠ none → leg.outcome = none) ∧
      ∃ done : Bench, done.tasks = b.tasks ∧ done.clock = b.clock ∧
        b.step config (.callback place) =
          (if leg.outcome = some .running then done.startTicker bot else done).obey config task
            (leg.pace (found.routine.delay config.settings)).verdict := by
  obtain ⟨record, -, there, current, viewed, -⟩ :=
    sequence_resumed sound queue present queued kept belongs
  obtain rfl : record.unlogged = seen := Option.some.inj ((view_of_find? there).symm.trans shown)
  obtain ⟨done, wrote, performed⟩ := perform_sequence (b := b.taken (.callback place)) config
    belongs there current task
  refine ⟨viewed, ?_, done, wrote.tasks, wrote.clock, ?_⟩
  · intro ahead
    obtain ⟨next, goes⟩ := Option.ne_none_iff_exists'.mp ahead
    exact (Routine.leg_goes goes).1
  · rw [step_of_queue queue,
      resume_of_queued (b := b.taken (.callback place)) config present queued kept, performed]
    rfl

/-- A sequence on its way that is resumed is on its way from its next sleep, or it is over at the
time at which it was to be. -/
theorem Underway.leg (exact : config.rounding = id)
    (finite : ∀ delay ∈ config.settings.deploymentDelays, Span.ofFloat delay ≠ .endless)
    (sound : b.view.Sound config.settings.minTokenPrefix)
    (underway : Underway config bot task valid deadline b) {place : Nat}
    (queue : b.ready[place]? = some (.resume task)) :
    Underway config bot task valid deadline (b.step config (.callback place)) ∨
      Arrives config bot task valid deadline b (.callback place) := by
  obtain ⟨found, generation, time, present, kept, belongs, resumed, total⟩ := underway.going
  obtain ⟨seen, shown, rfl⟩ := underway.token
  have clock : (b.step config (.callback place)).clock = b.clock :=
    clock_step config b fun _ => by simp
  rcases resumed with ⟨queued, -, now⟩ | ⟨asleep, timer, later⟩
  · subst now
    let valid := isTokenValid seen.token config.settings.minTokenPrefix
    obtain ⟨viewed, silent, done, tasks, done_clock, stepped⟩ :=
      step_sequence sound queue present queued kept belongs shown
    have record : (b.step config (.callback place)).view.record bot =
        some (seen.marked (found.routine.leg valid).outcome) := by
      rw [viewed, View.record_goLeg, if_pos rfl]
    rw [← tasks] at present
    cases ahead : (found.routine.leg valid).next with
    | some next =>
        left
        obtain ⟨among, rest⟩ := Routine.ahead_of_next config.settings ahead
        obtain ⟨seconds, span⟩ : ∃ seconds,
            Span.ofFloat (found.routine.delay config.settings) = .finite seconds := by
          cases span : Span.ofFloat (found.routine.delay config.settings) with
          | finite seconds => exact ⟨seconds, rfl⟩
          | endless => exact absurd span (finite _ among)
        have slept : b.step config (.callback place) =
            done.sleep config task (.finite seconds) next := by
          rw [stepped, silent (by simp [valid, ahead])]
          unfold Leg.pace
          rw [ahead, ← span]
          rfl
        obtain ⟨state, present', resumed⟩ := resumedAt_sleep exact present seconds next
        rw [← slept, done_clock] at resumed
        rw [← slept] at present'
        refine ⟨⟨_, record, rfl⟩, _, generation, _, present', kept,
          (Routine.leg_goes ahead).2.trans belongs, resumed, ?_⟩
        rw [← total, rest, ← add_assoc]
        unfold pause
        rw [span]
        rfl
    | none =>
        right
        have acts : b.view.acting task = some found.routine :=
          acting?_eq_some_iff.mpr ⟨found, tasks ▸ present, by simp [queued], kept,
            Routine.acts_of_sequence? belongs, rfl⟩
        obtain ⟨-, _, shown', backs⟩ := sound.sequence acts belongs
        obtain rfl := Option.some.inj (shown.symm.trans shown')
        obtain ⟨outcome, rest⟩ := Routine.outcome_of_over config.settings belongs backs.valid ahead
        rw [rest, add_zero] at total
        refine ⟨total, clock.trans total, ?_, ?_, ?_⟩
        · rw [stepped]
          unfold Leg.pace
          rw [ahead]
          exact isFinished_finish ..
        · rw [status?_eq_view, record, outcome]
          rfl
        · have unwatched := sound.unwatched acts belongs
          rw [Bool.eq_iff_iff, isTicking_iff_entry (sound_step sound _), viewed]
          simp only [View.ticker_goLeg, outcome, unwatched, and_true]
          cases isTokenValid seen.token config.settings.minTokenPrefix <;> simp
  · -- a sequence that sleeps is not resumed
    left
    have awake : found.state ≠ .queued := by simp [asleep]
    rw [step_of_queue queue,
      resume_of_not_queued (b := b.taken (.callback place)) config present awake]
    exact ⟨⟨seen, shown, rfl⟩, found, generation, time, present, kept, belongs,
      .inr ⟨asleep, timer, later⟩, total⟩

/-- The clock moves no further than to the time of the next resumption. -/
theorem Underway.clock (underway : Underway config bot task valid deadline b)
    (onTime : b.OnTime (.clock time)) :
    Underway config bot task valid deadline (b.step config (.clock time)) := by
  obtain ⟨found, generation, due, present, kept, belongs, resumed, total⟩ := underway.going
  obtain ⟨forward, idle⟩ := onTime
  refine ⟨underway.token, found, generation, due, present, kept, belongs, ?_, total⟩
  change found.state = .queued ∧ .resume task ∈ b.ready ∧ time = due ∨
    found.state = .asleep ∧ ⟨.finite due, task⟩ ∈ b.timers ∧ time ≤ due
  rcases resumed with ⟨queued, member, now⟩ | ⟨asleep, timer, later⟩
  · rcases forward.eq_or_lt with same | passes
    · exact .inl ⟨queued, member, same ▸ now⟩
    · rw [(idle passes).1] at member
      contradiction
  · refine .inr ⟨asleep, timer, ?_⟩
    rcases forward.eq_or_lt with same | passes
    · exact same ▸ later
    · have undue := (idle passes).2 _ timer
      simpa [Span.before] using undue

/-- A sequence that sleeps wakes at the time of its next resumption. -/
theorem Underway.wake (timed : b.Timed) (underway : Underway config bot task valid deadline b)
    (onTime : b.OnTime (.wake task)) :
    Underway config bot task valid deadline (b.step config (.wake task)) := by
  obtain ⟨found, generation, time, present, kept, belongs, resumed, total⟩ := underway.going
  change Underway config bot task valid deadline (b.wake task)
  rcases resumed with ⟨queued, member, now⟩ | ⟨asleep, timer, later⟩
  · rw [wake_of_not_asleep present (by simp [queued])]
    exact underway
  · obtain ⟨other, inside, same, due⟩ := onTime
    obtain rfl : other = ⟨.finite time, task⟩ :=
      List.inj_on_of_nodup_map timed.distinct inside timer same
    have now : b.clock = time := le_antisymm later (by simpa [Span.before] using due)
    refine ⟨by rw [view_wake]; exact underway.token, { found with state := .queued }, generation,
      time, ?_, kept, belongs, ?_, total⟩
    · rw [wake_of_asleep present asleep, getElem?_setTask, if_pos rfl, present]
      rfl
    · rw [wake_of_asleep present asleep]
      exact .inl ⟨rfl, List.mem_append_right _ (by simp), now⟩

/-- A sequence on its way waits for no other task, so that it is told nothing. -/
theorem Underway.notified (underway : Underway config bot task valid deadline b) {place : Nat}
    (queue : b.ready[place]? = some (.notify task)) :
    Underway config bot task valid deadline (b.step config (.callback place)) := by
  obtain ⟨found, generation, time, present, kept, belongs, resumed, total⟩ := underway.going
  have unmoved : b.step config (.callback place) = { b with ready := b.ready.eraseIdx place } := by
    change b.runAt config place = _
    unfold runAt
    rw [queue]
    exact notify_of_not_waiting (b := { b with ready := b.ready.eraseIdx place }) present
      resumed.state.2
  rw [unmoved]
  exact underway.undisturbed (undisturbed_taken queue (by simp)) rfl rfl

/-- **A sequence is counted down.** A move that is made on time, that is not an operation on the bot
and not a shutdown, leaves the sequence of the bot on its way to be over at its time, or is the end
of it at this very time. -/
theorem Underway.step (exact : config.rounding = id)
    (finite : ∀ delay ∈ config.settings.deploymentDelays, Span.ofFloat delay ≠ .endless)
    (timed : b.Timed) (sound : b.view.Sound config.settings.minTokenPrefix)
    (underway : Underway config bot task valid deadline b) {move : Move} (onTime : b.OnTime move)
    (goesOn : move ≠ .operate .shutdown)
    (spared : ∀ event, b.event? config move = some event → event.bot ≠ bot)
    (undeleted : b.deleted? move ≠ some bot) :
    Underway config bot task valid deadline (b.step config move) ∨
      Arrives config bot task valid deadline b move := by
  cases move with
  | operate | call | awaitIdle =>
      exact .inl (underway.foreign sound goesOn (by simp) (by simp [addressee?]) (by simp) spared
        undeleted)
  | callback place =>
      by_cases addressed : b.addressee? (.callback place) = some task
      · obtain ⟨callback, queue, rfl⟩ := Option.map_eq_some_iff.mp addressed
        cases callback with
        | resume task => exact underway.leg exact finite sound queue
        | notify task => exact .inl (underway.notified queue)
      · exact .inl (underway.foreign sound goesOn (by simp) addressed (by simp) spared undeleted)
  | wake other =>
      by_cases own : other = task
      · subst own
        exact .inl (underway.wake timed onTime)
      · exact .inl (underway.foreign sound goesOn (by simp) (by simp [addressee?]) (by simpa using own)
          spared undeleted)
  | clock time => exact .inl (underway.clock onTime)

end Bench

end BotBench
