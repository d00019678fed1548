import BotBench.Http.Route
import BotBench.Proofs.Bench.Staleness
import BotBench.Proofs.Bench.Standing

/-! # Handlers of lifecycle calls

A lifecycle call is answered with its own success, or it is refused because the bot is unknown or
the token is blank. A call that is to wait looks its bot up again after waiting. If the bot has been
deleted by then the handler crashes, and that is the only way for it to crash
(`BotBench.Bench.handler_answers`). -/

namespace BotBench

open Text

/-- The status with which a lifecycle call is answered when it succeeds. -/
def Call.successStatus? : Call → Option Nat
  | .launch .. => some 201
  | .update .. | .stop _ | .restart .. => some 200
  | .delete _ => some 204
  | .list | .show _ | .send .. => none

/-- Whether a call is to wait for the sequence of its bot. -/
def Call.waits : Call → Bool
  | .launch _ _ _ wait | .update _ _ _ _ wait | .restart _ wait => wait
  | _ => false

/-- The bot that a call names. -/
def Call.bot? : Call → Option Int
  | .show bot | .update bot .. | .stop bot | .restart bot _ | .delete bot | .send bot _ => some bot
  | .list | .launch .. => none

/-- The token that a call brings along. -/
def Call.token? : Call → Option String
  | .launch _ token _ _ | .update _ _ token _ _ => some token
  | _ => none

/-- The answers that a lifecycle call may get: its success, that the bot it names is unknown, or
that its token is not acceptable. -/
inductive Call.Allows (call : Call) : Answer → Prop
  | success {status : Nat} (own : call.successStatus? = some status) (body : Json) :
      call.Allows (.success status body)
  | unknown {bot : Int} (named : call.bot? = some bot) :
      call.Allows (.problem 404 (.str (Refusal.unknownBot bot).message))
  | invalid {token : String} (brought : call.token? = some token)
      (blank : isAllBlank token = true) :
      call.Allows (.problem 422 (.str Refusal.blankToken.message))

/-- The bot over whose absence a handler has crashed. -/
def Answer.lostBot? : Answer → Option Int
  | .crash (.unknownBot bot) => some bot
  | _ => none

theorem Answer.eq_crash_of_lostBot? {answer : Answer} {bot : Int}
    (lost : answer.lostBot? = some bot) : answer = .crash (.unknownBot bot) := by
  unfold lostBot? at lost
  split at lost
  · rw [Option.some.inj lost]
  · contradiction

namespace Bench

variable {config : Config} {b b' : Bench}

/-! ## Refusals -/

theorem requireToken_cases (token : String) :
    isAllBlank token = true ∧ requireToken token = .error .blankToken ∨
      requireToken token = .ok () := by
  unfold requireToken
  cases isAllBlank token <;> simp

theorem ofJson_name (language : Language) :
    Language.ofJson (.str language.name) = .ok language := by
  simp [Language.ofJson, Language.ofName?_name]

/-- A launch is refused for its token only. -/
theorem launch_cases (config : Config) (fresh : b.registry.find? b.registry.nextId = none)
    (code token : String) (language : Language) :
    isAllBlank token = true ∧
        b.launch config code token (.str language.name) = .error .blankToken ∨
      ∃ result, b.launch config code token (.str language.name) = .ok result := by
  rcases requireToken_cases token with ⟨blank, refused⟩ | accepted
  · exact .inl ⟨blank, by simp [launch, refused, bind, Except.bind]⟩
  · right
    have placed : (b.registry.create (b.now config) code token language).2.find?
        b.registry.nextId = some (b.registry.create (b.now config) code token language).1 := by
      rw [Registry.find?_create, fresh]
      simp
    have numbered : (b.registry.create (b.now config) code token language).1.id =
        b.registry.nextId := rfl
    unfold launch
    simp only [accepted, ofJson_name, bind, Except.bind, appendLog]
    generalize b.registry.create (b.now config) code token language = created at placed numbered ⊢
    obtain ⟨record, registry⟩ := created
    have applied : Change.applyAll record [] = .ok record := rfl
    have kept : ({ b with registry }.note .info ("Launching " ++ record.name)).registry.find?
        record.id = some record := by
      rw [numbered]
      exact placed
    obtain ⟨updated, same, -, -⟩ := update_spec config kept applied "Deployment initiated..."
    simp [same, pure, Except.pure]

/-- An update is refused for its token or because there is no such bot. -/
theorem updateBot_cases (config : Config) (b : Bench) (id : Int) (code token : String)
    (language : Language) :
    isAllBlank token = true ∧
        b.updateBot config id code token (.str language.name) = .error .blankToken ∨
      b.updateBot config id code token (.str language.name) = .error (.unknownBot id) ∨
      ∃ result, b.updateBot config id code token (.str language.name) = .ok result := by
  rcases requireToken_cases token with ⟨blank, refused⟩ | accepted
  · exact .inl ⟨blank, by simp [updateBot, refused, bind, Except.bind]⟩
  · right
    unfold updateBot
    simp only [accepted, ofJson_name, bind, Except.bind]
    cases found : b.registry.find? id with
    | none => simp [interrupt_of_missing found]
    | some record =>
        have applied : Change.applyAll record [.code code, .token token, .language language,
            .status .stopped, .cpuUsage 0, .ramUsage 0, .messages [],
            .generation (record.generation + 1)] =
            .ok (record.reconfigured code token language) := rfl
        have kept := (find?_interrupted b id id).trans found
        obtain ⟨updated, same, -, -⟩ := update_spec config kept applied "Bot update initiated..."
        simp [interrupt_of_find? found, same, pure, Except.pure]

theorem restart_cases (config : Config) (b : Bench) (id : Int) :
    b.restart config id = .error (.unknownBot id) ∨ ∃ result, b.restart config id = .ok result := by
  unfold restart
  cases found : b.registry.find? id with
  | none => simp [interrupt_of_missing found, bind, Except.bind]
  | some record =>
      have applied : Change.applyAll record [.status .stopped, .cpuUsage 0, .ramUsage 0,
          .messages [], .generation (record.generation + 1)] = .ok record.renewed := rfl
      have kept := (find?_interrupted b id id).trans found
      obtain ⟨updated, same, -, -⟩ := update_spec config kept applied "Restarting bot..."
      simp [interrupt_of_find? found, bind, Except.bind, same, pure, Except.pure]

theorem stop_cases (config : Config) (b : Bench) (id : Int) :
    b.stop config id = .error (.unknownBot id) ∨ ∃ result, b.stop config id = .ok result := by
  unfold stop
  cases found : b.registry.find? id with
  | none => simp [interrupt_of_missing found, bind, Except.bind]
  | some record =>
      have applied : Change.applyAll record [.status .stopped, .cpuUsage 0, .ramUsage 0,
          .generation (record.generation + 1)] = .ok record.halted := rfl
      have kept : (((b.stopSequencer id).stopTicker id).note .info
          s!"Stopping bot {id}").registry.find? id = some record :=
        (find?_interrupted b id id).trans found
      obtain ⟨updated, same, -, -⟩ := update_spec config kept applied "Bot stopped by user."
      simp only [interrupt_of_find? found, bind, Except.bind]
      rw [same]
      exact .inr ⟨_, rfl⟩

theorem delete_cases (b : Bench) (id : Int) :
    b.delete id = .error (.unknownBot id) ∨ ∃ b', b.delete id = .ok b' := by
  unfold delete
  cases found : b.registry.find? id with
  | none => simp [interrupt_of_missing found, bind, Except.bind]
  | some record =>
      have kept := (find?_interrupted b id id).trans found
      have removed := Registry.remove_eq_ok_iff.mpr ⟨kept, rfl⟩
      simp only [interrupt_of_find? found, bind, Except.bind]
      rw [removed]
      exact .inr ⟨_, rfl⟩

/-! ## The start of a handler -/

theorem reportAnswer_of_find? {id : Int} {record : Record}
    (found : b.registry.find? id = some record) (status : Nat) :
    b.reportAnswer status id = .success status record.toJson := by
  unfold reportAnswer
  rw [Registry.get_of_find? found]

theorem reportAnswer_of_missing {id : Int} (missing : b.registry.find? id = none) (status : Nat) :
    b.reportAnswer status id = .crash (.unknownBot id) := by
  unfold reportAnswer
  rw [Registry.get_of_missing missing]

theorem waitOrReport_of_find? {id : Int} {record : Record}
    (found : b.registry.find? id = some record) (wait : Bool) (status : Nat) :
    b.waitOrReport wait status id = .finish (some (.success status record.toJson)) ∨
      wait = true ∧ ∃ target, b.waitOrReport wait status id = .wait target (.report status id) := by
  unfold waitOrReport
  cases wait with
  | false => simp [reportAnswer_of_find? found]
  | true =>
      cases entry? b.sequencers id with
      | none => simp [reportAnswer_of_find? found]
      | some target => simp

/-- What a handler comes to by its first step: an answer that its call may get, or waiting for a bot
that is there. -/
def Begins (b : Bench) (call : Call) (status : Nat) (verdict : Verdict) : Prop :=
  (∃ answer, verdict = .finish (some answer) ∧ call.Allows answer) ∨
    ∃ bot target record, call.waits = true ∧ (∀ named, call.bot? = some named → bot = named) ∧
      verdict = .wait target (.report status bot) ∧ b.registry.find? bot = some record

theorem begins_waitOrReport {call : Call} {status : Nat} (own : call.successStatus? = some status)
    {bot : Int} {face : Record} (there : b.view.record bot = some face)
    (named : ∀ named, call.bot? = some named → bot = named) :
    b.Begins call status (b.waitOrReport call.waits status bot) := by
  obtain ⟨record, found, -⟩ := find?_of_view there
  rcases waitOrReport_of_find? found call.waits status with answered | ⟨waits, target, waiting⟩
  · exact .inl ⟨_, answered, .success own _⟩
  · exact .inr ⟨bot, target, record, waits, named, waiting, found⟩

theorem begins_unknown {call : Call} {bot : Int} (named : call.bot? = some bot) (status : Nat) :
    b.Begins call status (.finish (some (refusalAnswer (.unknownBot bot)))) :=
  .inl ⟨_, rfl, .unknown named⟩

theorem begins_invalid {call : Call} {token : String} (brought : call.token? = some token)
    (blank : isAllBlank token = true) (status : Nat) :
    b.Begins call status (.finish (some (refusalAnswer .blankToken))) :=
  .inl ⟨_, rfl, .invalid brought blank⟩

/-- A lifecycle call that is begun is answered as it may be, or waits for a bot that is there. -/
theorem serve_begins (config : Config) (listed : b.view.Listed) {call : Call} {status : Nat}
    (own : call.successStatus? = some status) :
    (b.serve config call).1.Begins call status (b.serve config call).2 := by
  cases call with
  | list | «show» | send => simp [Call.successStatus?] at own
  | launch code token language wait =>
      have fresh : b.registry.find? b.registry.nextId = none := by
        cases found : b.registry.find? b.registry.nextId with
        | none => rfl
        | some record => exact absurd (listed _ _ (view_of_find? found)) (Int.lt_irrefl _)
      rcases launch_cases config fresh code token language with
        ⟨blank, refused⟩ | ⟨⟨answer, b'⟩, done⟩
      · simp only [serve, refused]
        exact begins_invalid rfl blank status
      · obtain ⟨named, -, face, after⟩ := launch_ok fresh done
        -- the record of the new bot is the one that the handler is to answer with
        have there : b'.view.record answer.id =
            some (.newcomer b.view.nextId code token named) := by
          rw [after, show answer.id = b.view.nextId from congrArg Record.id face]
          exact Function.update_self ..
        cases own
        simp only [serve, done]
        exact begins_waitOrReport rfl there fun _ same => by cases same
  | update id code token language wait =>
      rcases updateBot_cases config b id code token language with
        ⟨blank, refused⟩ | missing | ⟨⟨answer, b'⟩, done⟩
      · simp only [serve, refused]
        exact begins_invalid rfl blank status
      · simp only [serve, missing]
        exact begins_unknown rfl status
      · obtain ⟨record, named, -, -, -, after⟩ := updateBot_ok done
        have there : b'.view.record id = some (record.unlogged.reconfigured code token named) := by
          rw [after]
          exact Function.update_self ..
        cases own
        simp only [serve, done]
        exact begins_waitOrReport rfl there fun _ same => Option.some.inj same
  | restart id wait =>
      rcases restart_cases config b id with missing | ⟨⟨answer, b'⟩, done⟩
      · simp only [serve, missing]
        exact begins_unknown rfl status
      · obtain ⟨record, -, -, after⟩ := restart_ok done
        have there : b'.view.record id = some record.unlogged.renewed := by
          rw [after]
          exact Function.update_self ..
        cases own
        simp only [serve, done]
        exact begins_waitOrReport rfl there fun _ same => Option.some.inj same
  | stop id =>
      rcases stop_cases config b id with missing | ⟨⟨answer, b'⟩, done⟩
      · simp only [serve, missing]
        exact begins_unknown rfl status
      · simp only [serve, done]
        cases own
        exact .inl ⟨_, rfl, .success rfl _⟩
  | delete id =>
      rcases delete_cases b id with missing | ⟨b', done⟩
      · simp only [serve, missing]
        exact begins_unknown rfl status
      · simp only [serve, done]
        cases own
        exact .inl ⟨_, rfl, .success rfl _⟩

/-! ## A handler on its way -/

/-- How far a handler has got with its call. -/
inductive Phase (b : Bench) (id : Nat) (call : Call) (task : Task) : Prop
  /-- It has not begun yet. -/
  | pending (unanswered : task.answer = none) (routine : task.routine = .serve call)
      (state : task.state = .queued) (queued : .resume id ∈ b.ready)
  /-- It has carried out its call and is to look its bot up again. -/
  | waiting {status : Nat} {bot : Int} (unanswered : task.answer = none)
      (own : call.successStatus? = some status) (waits : call.waits = true)
      (named : ∀ named, call.bot? = some named → bot = named)
      (issued : bot < b.registry.nextId) (routine : task.routine = .report status bot)
      (woken : task.state = .queued ∧ .resume id ∈ b.ready ∨ task.state = .waiting ∧ b.Tended id)
  /-- It has given an answer that its call may get. -/
  | answered {answer : Answer} (state : task.state = .finished)
      (given : task.answer = some answer) (allowed : call.Allows answer)
  /-- Its bot was gone when it looked it up again. -/
  | crashed {bot : Int} (waits : call.waits = true)
      (named : ∀ named, call.bot? = some named → bot = named)
      (issued : bot < b.registry.nextId) (gone : b.registry.find? bot = none)
      (state : task.state = .finished) (given : task.answer = some (.crash (.unknownBot bot)))

/-- A task handles a call: nobody has cancelled it, nothing that is to wake it is missing, and it
has got somewhere with the call. -/
def Handles (b : Bench) (id : Nat) (call : Call) : Prop :=
  ∃ task, b.Stands id task ∧ task.cancelled = false ∧ b.Phase id call task

variable {id : Nat} {call : Call} {task : Task}

/-- A bot that is gone stays gone. -/
theorem find?_of_precedes (passed : b.view.Precedes b'.view) {bot : Int}
    (issued : bot < b.registry.nextId) (gone : b.registry.find? bot = none) :
    b'.registry.find? bot = none := by
  cases found : b'.registry.find? bot with
  | none => rfl
  | some record =>
      have later := (passed.issued (view_eq_none_iff.mpr gone) (view_of_find? found)).1
      exact absurd issued (Int.not_lt.mpr later)

/-- A handler stays as far as it has got, if nothing is lost that it is to be woken by. -/
theorem Phase.of_precedes (passed : b.view.Precedes b'.view)
    (resumed : task.state = .queued → .resume id ∈ b.ready → .resume id ∈ b'.ready)
    (tended : task.state = .waiting → b.Tended id → b'.Tended id)
    (phase : b.Phase id call task) : b'.Phase id call task := by
  have numbers : b.registry.nextId ≤ b'.registry.nextId := passed.numbers
  cases phase with
  | pending unanswered routine state queued =>
      exact .pending unanswered routine state (resumed state queued)
  | waiting unanswered own waits named issued routine woken =>
      refine .waiting unanswered own waits named (Int.lt_of_lt_of_le issued numbers) routine ?_
      exact woken.imp (fun ⟨state, member⟩ => ⟨state, resumed state member⟩)
        fun ⟨state, told⟩ => ⟨state, tended state told⟩
  | answered state given allowed => exact .answered state given allowed
  | crashed waits named issued gone state given =>
      exact .crashed waits named (Int.lt_of_lt_of_le issued numbers)
        (find?_of_precedes passed issued gone) state given

theorem Phase.not_asleep (phase : b.Phase id call task) : task.state ≠ .asleep := by
  cases phase with
  | pending unanswered routine state queued => simp [state]
  | waiting unanswered own waits named issued routine woken =>
      rcases woken with ⟨state, -⟩ | ⟨state, -⟩ <;> simp [state]
  | answered state given allowed => simp [state]
  | crashed waits named issued gone state given => simp [state]

/-- A handler that is resumed for the first time is answered or waits. -/
theorem handles_serve (listed : b.view.Listed) (stands : b.Stands id task)
    (kept : task.cancelled = false) (unanswered : task.answer = none) {status : Nat}
    (own : call.successStatus? = some status) (routine : task.routine = .serve call)
    (state : task.state = .queued) :
    (b.resume config id).Handles id call := by
  have began := serve_begins config listed own
  have performed : (b.serve config call).1.Stands id task :=
    ((kept_law id task b).serve (.refl stands)).stands
  have enters := (perform_precedes config listed id (.serve call)).listed listed
  rw [resume_of_queued config stands.present state kept, routine]
  change ((b.serve config call).1.obey config id (b.serve config call).2).Handles id call
  have member {target : Nat} {next : Routine} :
      (b.serve config call).2 = .wait target next → target ∈ (b.serve config call).1.listed :=
    listed_of_serve
  change (b.serve config call).1.view.Listed at enters
  -- from here on only the verdict counts, and what holds of the bench that it is given on
  generalize (b.serve config call).2 = verdict at began member ⊢
  generalize (b.serve config call).1 = b' at began member performed enters ⊢
  rcases began with ⟨answer, rfl, allowed⟩ | ⟨bot, target, record, waits, named, rfl, found⟩
  · exact ⟨_, performed.ended (some answer), kept, .answered rfl rfl allowed⟩
  · obtain ⟨paused, tended⟩ := performed.paused (member rfl) (.report status bot)
    refine ⟨_, paused, kept, .waiting unanswered own waits named ?_ rfl (.inr ⟨rfl, tended⟩)⟩
    rw [registry_obey]
    exact enters _ _ (view_of_find? found)

theorem answer?_of_stands {answer : Option Answer} (stands : b.Stands id task)
    (given : task.answer = answer) : b.answer? id = answer := by
  unfold answer?
  rw [stands.present]
  exact given

/-- A handler that is to look its bot up again gives its answer when it is resumed. -/
theorem resume_report (config : Config) (stands : b.Stands id task)
    (kept : task.cancelled = false) {status : Nat} {bot : Int}
    (routine : task.routine = .report status bot) (state : task.state = .queued) :
    (b.resume config id).Stands id
      { task with state := .finished, answer := some (b.reportAnswer status bot) } ∧
      (b.resume config id).registry = b.registry := by
  have resumed := resume_of_queued config stands.present state kept
  rw [routine] at resumed
  rw [resumed]
  exact ⟨stands.ended _, registry_finish ..⟩

theorem handles_report (stands : b.Stands id task) (kept : task.cancelled = false) {status : Nat}
    {bot : Int} (own : call.successStatus? = some status) (waits : call.waits = true)
    (named : ∀ named, call.bot? = some named → bot = named) (issued : bot < b.registry.nextId)
    (routine : task.routine = .report status bot) (state : task.state = .queued) :
    (b.resume config id).Handles id call := by
  obtain ⟨ended, registry⟩ := resume_report config stands kept routine state
  refine ⟨_, ended, kept, ?_⟩
  cases found : b.registry.find? bot with
  | some record =>
      exact .answered rfl (congrArg some (reportAnswer_of_find? found status)) (.success own _)
  | none =>
      refine .crashed waits named ?_ ?_ rfl
        (congrArg some (reportAnswer_of_missing found status))
      · rw [registry]
        exact issued
      · rw [registry]
        exact found

/-- A waiting task that is told that its wait is over is queued. -/
theorem Stands.notified (stands : b.Stands id task) (state : task.state = .waiting) :
    (b.notify id).Stands id { task with state := .queued } ∧ .resume id ∈ (b.notify id).ready ∧
      (b.notify id).registry = b.registry := by
  unfold Bench.notify
  rw [stands.present]
  simp only [state, beq_self_eq_true, if_true]
  refine ⟨⟨(getElem?_setTask ..).trans ?_, stands.unlisted⟩, by simp, rfl⟩
  rw [if_pos rfl, stands.present]
  rfl

/-- The callback that is for a handler makes it go on. -/
theorem Handles.callback (listed : b.view.Listed) (handles : b.Handles id call) {status : Nat}
    (own : call.successStatus? = some status) {place : Nat} {callback : Callback}
    (queued : b.ready[place]? = some callback) (addressed : callback.task = id) :
    ({ b with ready := b.ready.eraseIdx place }.runCallback config callback).Handles id call := by
  obtain ⟨task, stands, kept, phase⟩ := handles
  have taken : { b with ready := b.ready.eraseIdx place }.Stands id task :=
    ⟨stands.present, stands.unlisted⟩
  have remains {other : Callback} (apart : other ≠ callback) (member : other ∈ b.ready) :
      other ∈ b.ready.eraseIdx place := mem_eraseIdx_of_ne queued apart member
  have same : b.view.Precedes { b with ready := b.ready.eraseIdx place }.view :=
    .of_same rfl rfl
  cases callback with
  | resume addressee =>
      obtain rfl : addressee = id := addressed
      change (resume config _ _).Handles _ call
      by_cases state : task.state = .queued
      · cases phase with
        | pending unanswered routine _ _ =>
            exact handles_serve listed taken kept unanswered own routine state
        | waiting _ own waits named issued routine _ =>
            exact handles_report taken kept own waits named issued routine state
        | answered ended _ _ => simp [ended] at state
        | crashed _ _ _ _ ended _ => simp [ended] at state
      · -- nothing happens to a handler that waits or has ended
        rw [resume_of_not_queued config taken.present state]
        exact ⟨task, taken, kept, phase.of_precedes same (fun queued => absurd queued state)
          fun _ => Or.imp_left (remains (by simp))⟩
  | notify addressee =>
      obtain rfl : addressee = id := addressed
      change (notify _ _).Handles _ call
      by_cases state : task.state = .waiting
      · obtain ⟨told, resumed, registry⟩ := taken.notified state
        refine ⟨_, told, kept, ?_⟩
        cases phase with
        | pending _ _ pending _ => simp [pending] at state
        | waiting unanswered own waits named issued routine _ =>
            refine .waiting unanswered own waits named ?_ routine (.inl ⟨rfl, resumed⟩)
            rw [registry]
            exact issued
        | answered ended _ _ => simp [ended] at state
        | crashed _ _ _ _ ended _ => simp [ended] at state
      · rw [notify_of_not_waiting taken.present state]
        exact ⟨task, taken, kept, phase.of_precedes same (fun _ => remains (by simp))
          fun waiting => absurd waiting state⟩

theorem Handles.step (listed : b.view.Listed) (handles : b.Handles id call) {status : Nat}
    (own : call.successStatus? = some status) (move : Move) :
    (b.step config move).Handles id call := by
  by_cases foreign : b.addressee? move = some id
  · cases move with
    | callback place =>
        obtain ⟨callback, queued, addressed⟩ := Option.map_eq_some_iff.mp foreign
        change (b.runAt config place).Handles id call
        unfold runAt
        rw [queued]
        exact handles.callback listed own queued addressed
    | _ => simp [addressee?] at foreign
  · -- a move that is not the handler's own can only take its bot away from it
    obtain ⟨task, stands, kept, phase⟩ := handles
    obtain ⟨stands, resumed, tended⟩ := stands.step config phase.not_asleep foreign
    exact ⟨task, stands, kept, phase.of_precedes (step_precedes config listed move)
      (fun _ => resumed) fun _ => tended⟩

theorem Handles.run (listed : b.view.Listed) (handles : b.Handles id call) {status : Nat}
    (own : call.successStatus? = some status) (moves : List Move) :
    (b.run config moves).Handles id call := by
  have both : (b.run config moves).view.Listed ∧ (b.run config moves).Handles id call := by
    apply run_keeps (motive := fun b => b.view.Listed ∧ b.Handles id call)
    · rintro b move - ⟨listed, handles⟩
      exact ⟨(step_precedes config listed move).listed listed, handles.step listed own move⟩
    · exact ⟨listed, handles⟩
  exact both.2

/-- What a handler that has answered has answered with. -/
theorem Phase.answer (phase : b.Phase id call task) {answer : Answer}
    (given : task.answer = some answer) :
    call.Allows answer ∨
      call.waits = true ∧ ∃ bot, (∀ named, call.bot? = some named → bot = named) ∧
        answer = .crash (.unknownBot bot) ∧ b.registry.find? bot = none := by
  cases phase with
  | pending unanswered _ _ _ => simp [unanswered] at given
  | waiting unanswered _ _ _ _ _ _ => simp [unanswered] at given
  | answered _ given' allowed =>
      rw [given', Option.some.injEq] at given
      exact .inl (given ▸ allowed)
  | crashed waits named _ gone _ given' =>
      rw [given', Option.some.injEq] at given
      exact .inr ⟨waits, _, named, given.symm, gone⟩

theorem not_allows_crash (call : Call) (refusal : Refusal) : ¬call.Allows (.crash refusal) := by
  intro allowed
  cases allowed

/-- A handler that looks its bot up again answers as it may exactly if the bot is there. -/
theorem allows_reportAnswer_iff {status : Nat} (own : call.successStatus? = some status)
    (bot : Int) :
    call.Allows (b.reportAnswer status bot) ↔ ∃ record, b.registry.find? bot = some record := by
  cases found : b.registry.find? bot with
  | some record =>
      rw [reportAnswer_of_find? found]
      exact ⟨fun _ => ⟨record, rfl⟩, fun _ => .success own _⟩
  | none =>
      rw [reportAnswer_of_missing found]
      simp [not_allows_crash]

/-- **A handler crashes exactly if its bot is deleted while it waits.** In every run a lifecycle
call gets a handler that nobody cancels and that is never left without something to wake it. It is
answered with its own success or as refused, unless it is to wait and its bot is gone for good. A
handler that has waited answers as it may if and only if its bot is there when it is resumed. -/
theorem handler_answers (config : Config) (draws : Draws) (before later : List Move) (call : Call)
    {status : Nat} (own : call.successStatus? = some status) :
    let id := ((opening draws).run config before).tasks.length
    let b := (opening draws).run config (before ++ .call call :: later)
    b.Handles id call ∧
      (∀ answer, b.answer? id = some answer → call.Allows answer ∨
        call.waits = true ∧ ∃ bot, (∀ named, call.bot? = some named → bot = named) ∧
          answer = .crash (.unknownBot bot) ∧ b.registry.find? bot = none) ∧
      ∀ place bot task, b.tasks[id]? = some task → task.state = .queued →
        task.routine = .report status bot → b.ready[place]? = some (.resume id) →
          (b.step config (.callback place)).answer? id = some (b.reportAnswer status bot) ∧
            (call.Allows (b.reportAnswer status bot) ↔
              ∃ record, b.registry.find? bot = some record) := by
  intro id b
  have listed := listed_run config draws before
  have started : (((opening draws).run config before).step config (.call call)).Handles id call :=
    ⟨_, stands_spawn (numbered_run config draws before) (.serve call), rfl,
      .pending rfl rfl rfl (List.mem_append_right _ (List.mem_singleton.mpr rfl))⟩
  have handles : b.Handles id call := by
    change ((opening draws).run config (before ++ .call call :: later)).Handles id call
    rw [run_append, run_cons]
    exact started.run ((step_precedes config listed (.call call)).listed listed) own later
  refine ⟨handles, fun answer given => ?_, fun place bot task present state routine queued => ?_⟩
  · obtain ⟨task, stands, -, phase⟩ := handles
    rw [answer?_of_stands stands rfl] at given
    exact phase.answer given
  · obtain ⟨handler, stands, kept, -⟩ := handles
    rw [stands.present, Option.some.injEq] at present
    subst present
    have taken : { b with ready := b.ready.eraseIdx place }.Stands id handler :=
      ⟨stands.present, stands.unlisted⟩
    have ended := (resume_report config taken kept routine state).1
    refine ⟨?_, allows_reportAnswer_iff own bot⟩
    change (b.runAt config place).answer? id = _
    unfold runAt
    rw [queued]
    exact answer?_of_stands ended rfl

/-- A launch that is to wait for the sequence of its bot. -/
def awaitedLaunch : Call := .launch "print()" "123456:token" .python true

/-- The handler of a launch waits until the sequence of the bot has come to its end. -/
def awaiting : List Move :=
  [.callback 0, .callback 0, .wake 1, .callback 0, .wake 1, .callback 0, .wake 1, .callback 0,
    .wake 1, .callback 0, .callback 1]

/-- A handler that has waited for the whole sequence answers with the record of the bot. -/
theorem handler_answers_awaitedLaunch :
    let b := (opening (.ofLists [] [])).run .silent ([] ++ .call awaitedLaunch :: awaiting)
    b.Handles 0 awaitedLaunch ∧ ∃ record, b.registry.find? 1 = some record ∧
      (b.step .silent (.callback 1)).answer? 0 = some (.success 201 record.toJson) := by
  obtain ⟨handles, -, resumed⟩ :=
    handler_answers .silent (.ofLists [] []) [] awaiting awaitedLaunch rfl
  have count : ((opening (.ofLists [] [])).run .silent []).tasks.length = 0 := rfl
  rw [count] at handles resumed
  have waited : (fun b : Bench => (b.registry.find? 1).isSome && b.ready[1]? == some (.resume 0) &&
      b.tasks[0]?.any fun task => task.state == .queued && task.routine == .report 201 1)
        ((opening (.ofLists [] [])).run .silent ([] ++ .call awaitedLaunch :: awaiting)) =
      true := by
    decide +kernel
  generalize (opening (.ofLists [] [])).run .silent ([] ++ .call awaitedLaunch :: awaiting) = b
    at handles resumed waited ⊢
  simp only [Bool.and_eq_true, beq_iff_eq, Option.any_eq_true, Option.isSome_iff_exists]
    at waited
  obtain ⟨⟨⟨record, found⟩, queued⟩, task, present, state, routine⟩ := waited
  refine ⟨handles, record, found, ?_⟩
  rw [(resumed 1 1 task present state routine queued).1, reportAnswer_of_find? found]

/-- A launch that waits, and a deletion of its bot that comes in the meantime. -/
def interrupted : List Move :=
  [.call awaitedLaunch, .callback 0, .call (.delete 1), .callback 0, .callback 0, .callback 0,
    .callback 0, .callback 0]

/-- A handler whose bot is deleted while it waits crashes, where it would have to tell that there is
no such bot. -/
theorem handler_crashes_interrupted :
    ∃ answer, ((opening (.ofLists [] [])).run .silent interrupted).answer? 0 = some answer ∧
      answer = .crash (.unknownBot 1) ∧ (Http.statusAndBody answer).1 = 500 ∧
      ¬awaitedLaunch.Allows answer := by
  have lost : (((opening (.ofLists [] [])).run .silent interrupted).answer? 0).bind
      Answer.lostBot? = some 1 := by
    decide +kernel
  obtain ⟨answer, answered, lost⟩ := Option.bind_eq_some_iff.mp lost
  obtain rfl := Answer.eq_crash_of_lostBot? lost
  exact ⟨_, answered, rfl, rfl, not_allows_crash _ _⟩

end Bench

end BotBench
