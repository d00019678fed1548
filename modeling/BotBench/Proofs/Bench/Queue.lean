import BotBench.Proofs.Bench.History

/-! # What happens to the queue

Operations and the steps of tasks touch tasks, timers and tables in a few ways only, and each of
them for one bot: they change the record of the bot and start and end its sequence and its ticker. A
property that all of this keeps is therefore kept by whatever is done for the bot
(`UpkeepLaw.operate`, `UpkeepLaw.perform`). A property of the tasks, the timers and the tables that
is kept whichever bot it is done for is kept by every operation (`TableLaw.operate`) and by every
step that a task makes before its verdict is obeyed (`TableLaw.perform`). Where the tables do not
matter it is enough that the property is kept when a task starts and when one is cancelled
(`QueueLaw.tables`). -/

namespace BotBench

/-- The bot that a sequence or a ticker belongs to. -/
def Routine.owner? : Routine → Option Int
  | .connect bot .. | .redeploy bot .. | .ticker bot _ => some bot
  | .awaitIdle .. | .serve _ | .report .. => none

/-- The bot that an operation is carried out for. A launch is for the bot that it creates, to which
the number `next` is given. -/
def Operation.client? (next : Int) : Operation → Option Int
  | .launch .. => some next
  | .update bot .. | .restart bot | .stop bot | .delete bot | .send bot _ | .press bot _ => some bot
  | .shutdown => none

/-- The bot that a call is made for. -/
def Call.client? (next : Int) : Call → Option Int
  | .launch .. => some next
  | .show bot | .update bot .. | .stop bot | .restart bot _ | .delete bot | .send bot _ => some bot
  | .list => none

/-- The bot that a task is resumed for. -/
def Routine.client? (next : Int) : Routine → Option Int
  | .connect bot .. | .redeploy bot .. | .ticker bot _ | .awaitIdle bot _ | .report _ bot =>
      some bot
  | .serve call => call.client? next

/-- A call carries out an operation for its own bot. -/
theorem Call.client?_of_operation? {call : Call} {operation : Operation}
    (carried : call.operation? = some operation) (next : Int) :
    operation.client? next = call.client? next := by
  cases call with
  | send bot text =>
      unfold Call.operation? at carried
      dsimp only at carried
      split at carried
      · contradiction
      · cases carried
        rfl
  | list | «show» => contradiction
  | _ =>
      cases carried
      rfl

end BotBench

namespace BotBench.Bench

/-- A property that is kept by what is done for a bot: its record is changed, its sequence and its
ticker start and end. The draws and the bench's own log do not matter to it. -/
structure UpkeepLaw (bot : Int) (motive : Bench → Prop) : Prop where
  frame : ∀ {b b' : Bench}, motive b → b'.registry = b.registry → b'.tasks = b.tasks →
    b'.timers = b.timers → b'.ready = b.ready → b'.sequencers = b.sequencers →
    b'.tickers = b.tickers → b'.clock = b.clock → motive b'
  store : ∀ {b : Bench} (record : Record), motive b → motive (b.store bot record)
  schedule : ∀ {b : Bench} {routine : Routine}, routine.owner? = some bot → motive b →
    motive (b.schedule bot routine)
  startTicker : ∀ {b : Bench}, motive b → motive (b.startTicker bot)
  stopSequencer : ∀ {b : Bench}, motive b → motive (b.stopSequencer bot)
  stopTicker : ∀ {b : Bench}, motive b → motive (b.stopTicker bot)
  leaveTicker : ∀ {b : Bench} (task : Nat), motive b → motive (b.leaveTicker bot task)

/-- A property of the tasks, the timers, the queue, the tables and the clock that starting and ending
sequences and tickers keep. -/
structure TableLaw (motive : Bench → Prop) : Prop where
  frame : ∀ {b b' : Bench}, motive b → b'.tasks = b.tasks → b'.timers = b.timers →
    b'.ready = b.ready → b'.sequencers = b.sequencers → b'.tickers = b.tickers →
    b'.clock = b.clock → motive b'
  schedule : ∀ {b : Bench} (id : Int) (routine : Routine), motive b → motive (b.schedule id routine)
  startTicker : ∀ {b : Bench} (id : Int), motive b → motive (b.startTicker id)
  stopSequencer : ∀ {b : Bench} (id : Int), motive b → motive (b.stopSequencer id)
  stopTicker : ∀ {b : Bench} (id : Int), motive b → motive (b.stopTicker id)
  leaveTicker : ∀ {b : Bench} (id : Int) (task : Nat), motive b → motive (b.leaveTicker id task)
  stopSequencers : ∀ {b : Bench}, motive b →
    motive { (b.sequencers.map (·.2)).foldl Bench.cancel b with sequencers := [] }

/-- A property of the tasks and the timers that starting and cancelling a task keep. -/
structure QueueLaw (motive : Bench → Prop) : Prop where
  frame : ∀ {b b' : Bench}, motive b → b'.tasks = b.tasks → b'.timers = b.timers → motive b'
  spawn : ∀ {b : Bench} (routine : Routine), motive b → motive (b.spawn routine).2
  cancel : ∀ {b : Bench} (id : Nat), motive b → motive (b.cancel id)

theorem getElem?_setTask (b : Bench) (id other : Nat) (change : Task → Task) :
    (b.setTask id change).tasks[other]? =
      if id = other then b.tasks[other]?.map change else b.tasks[other]? := by
  change (b.tasks.modify id change)[other]? = _
  rw [List.getElem?_modify]
  split <;> simp

/-- What a task keeps when it is cancelled, it keeps while tasks start and are cancelled. -/
theorem task_law (id : Nat) {motive : Task → Prop}
    (cancel : ∀ task, motive task → motive { task with cancelled := true })
    (rouse : ∀ task, motive task → motive { task with cancelled := true, state := .queued }) :
    QueueLaw fun b => ∃ task, b.tasks[id]? = some task ∧ motive task where
  frame holds tasks _ := by
    rw [tasks]
    exact holds
  spawn routine holds := by
    obtain ⟨task, present, holds⟩ := holds
    refine ⟨task, ?_, holds⟩
    exact List.getElem?_append_left (List.getElem?_eq_some_iff.mp present).1 ▸ present
  cancel {b} other holds := by
    obtain ⟨task, present, holds⟩ := holds
    have changed (change : Task → Task) (kept : ∀ task, motive task → motive (change task)) :
        ∃ task, (b.setTask other change).tasks[id]? = some task ∧ motive task := by
      rw [getElem?_setTask]
      split
      · exact ⟨change task, by rw [present]; rfl, kept task holds⟩
      · exact ⟨task, present, holds⟩
    unfold Bench.cancel
    split
    · exact ⟨task, present, holds⟩
    · split
      · exact ⟨task, present, holds⟩
      · exact changed _ cancel
      · exact changed _ rouse
      · exact changed _ rouse

/-- A ticker that has slept ticks, and goes on or leaves its table. -/
theorem perform_ticker (config : Config) (b : Bench) (id : Nat) (bot : Int) :
    b.perform config id (.ticker bot true) =
      if (b.tick config bot).1 then
        (((b.tick config bot).2.tickerPause config).2,
          .sleep ((b.tick config bot).2.tickerPause config).1 (.ticker bot true))
      else ((b.tick config bot).2.leaveTicker bot id, .finish none) := rfl

/-- A change that is accepted stores the changed record. -/
theorem eq_store_of_update {config : Config} {b b' : Bench} {id : Int} {log : Option String}
    {changes : List Change} {record : Record}
    (done : b.update config id log changes = .ok (record, b')) : b' = b.store id record := by
  unfold Bench.update Registry.update at done
  cases found : b.registry.get id with
  | error refusal => simp [found, bind, Except.bind, Except.map] at done
  | ok old =>
      cases applied : Change.applyAll old changes with
      | error refusal => simp [found, applied, bind, Except.bind, Except.map] at done
      | ok changed =>
          simp only [found, applied, bind, Except.bind, pure, Except.pure, Except.map,
            Except.ok.injEq, Prod.mk.injEq] at done
          obtain ⟨rfl, rfl⟩ := done
          rfl

namespace UpkeepLaw

variable {bot : Int} {motive : Bench → Prop} (law : UpkeepLaw bot motive)
  {config : Config} {b b' : Bench}

include law

/-! ## Records -/

theorem update {log : Option String} {changes : List Change} {result : Record × Bench}
    (holds : motive b) (done : b.update config bot log changes = .ok result) : motive result.2 := by
  obtain ⟨record, b'⟩ := result
  rw [eq_store_of_update done]
  exact law.store record holds

theorem afterUpdate {log : Option String} {changes : List Change} (holds : motive b) :
    motive (b.after (b.update config bot log changes)) := by
  cases done : b.update config bot log changes with
  | error refusal => exact holds
  | ok result => exact law.update holds done

theorem afterMessage {message : Message} (holds : motive b) :
    motive (b.after (b.appendMessage config bot message)) := by
  cases found : b.registry.find? bot with
  | none =>
      rw [appendMessage_of_missing config found]
      exact holds
  | some record =>
      rw [appendMessage_of_find? config found]
      exact law.store _ holds

theorem appendLines {lines : List String} (holds : motive b) :
    motive (b.appendLines config bot lines) := by
  unfold Bench.appendLines
  induction lines generalizing b with
  | nil => exact holds
  | cons line lines ih =>
      rw [List.foldl_cons]
      exact ih (law.afterUpdate holds)

theorem note {level : LogLevel} {text : String} (holds : motive b) : motive (b.note level text) :=
  law.frame holds rfl rfl rfl rfl rfl rfl rfl

/-! ## Operations -/

theorem interrupt {result : Int × Bench} (holds : motive b)
    (done : b.interrupt bot = .ok result) : motive result.2 := by
  unfold Bench.interrupt at done
  cases found : b.registry.get bot with
  | error refusal => simp [found, bind, Except.bind] at done
  | ok record =>
      simp only [found, bind, Except.bind, pure, Except.pure, Except.ok.injEq] at done
      subst done
      exact law.stopTicker (law.stopSequencer holds)

/-- A launch creates the record of its bot, and the rest is done for that bot. -/
theorem launch {code token : String} {language : Json} {result : Record × Bench}
    (numbered : b.registry.nextId = bot) (fresh : b.registry.find? bot = none)
    (created : ∀ named, motive
      { b with registry := (b.registry.create (b.now config) code token named).2 })
    (done : b.launch config code token language = .ok result) : motive result.2 := by
  subst numbered
  unfold Bench.launch at done
  simp only [bind, Except.bind, pure, Except.pure] at done
  split at done
  · contradiction
  · split at done
    · contradiction
    · rename_i named _
      have placed : (b.registry.create (b.now config) code token named).2.find?
          b.registry.nextId = some (b.registry.create (b.now config) code token named).1 := by
        rw [Registry.find?_create, fresh]
        simp
      have first : (b.registry.create (b.now config) code token named).1.id = b.registry.nextId :=
        rfl
      have entered := created named
      generalize b.registry.create (b.now config) code token named = creation
        at done placed first entered
      obtain ⟨record, registry⟩ := creation
      dsimp only at done placed first entered
      rw [← first] at placed
      have applied : Change.applyAll record [] = .ok record := rfl
      have written : ({ b with registry }.note .info ("Launching " ++ record.name)).update
          config record.id (some "Deployment initiated...") [] = _ :=
        update_of_find? placed applied
      unfold appendLog at done
      rw [written] at done
      simp only [Except.ok.injEq] at done
      subst done
      dsimp only
      rw [first]
      exact law.schedule rfl (law.store _ (law.note entered))

theorem updateBot {code token : String} {language : Json} {result : Record × Bench}
    (holds : motive b) (done : b.updateBot config bot code token language = .ok result) :
    motive result.2 := by
  unfold Bench.updateBot at done
  simp only [bind, Except.bind, pure, Except.pure] at done
  split at done
  · contradiction
  · split at done
    · contradiction
    · split at done
      · contradiction
      · rename_i interrupted
        split at done
        · contradiction
        · rename_i updated
          simp only [Except.ok.injEq] at done
          subst done
          exact law.schedule rfl (law.note (law.update (law.interrupt holds interrupted) updated))

theorem restart {result : Record × Bench} (holds : motive b)
    (done : b.restart config bot = .ok result) : motive result.2 := by
  unfold Bench.restart at done
  simp only [bind, Except.bind, pure, Except.pure] at done
  split at done
  · contradiction
  · rename_i interrupted
    split at done
    · contradiction
    · rename_i updated
      simp only [Except.ok.injEq] at done
      subst done
      exact law.schedule rfl (law.note (law.update (law.interrupt holds interrupted) updated))

theorem stop {result : Record × Bench} (holds : motive b)
    (done : b.stop config bot = .ok result) : motive result.2 := by
  unfold Bench.stop at done
  simp only [bind, Except.bind] at done
  split at done
  · contradiction
  · rename_i interrupted
    exact law.update (law.note (law.interrupt holds interrupted)) done

/-- A deletion ends what is pending for its bot and takes the record away. -/
theorem delete (motive' : Bench → Prop) (holds : motive b) (done : b.delete bot = .ok b')
    (erased : ∀ {b : Bench} (log : List LogEntry), motive b → motive'
      { b with
        registry := { b.registry with slots := eraseEntry b.registry.slots bot }
        log }) : motive' b' := by
  unfold Bench.delete at done
  cases interrupted : b.interrupt bot with
  | error refusal => simp [interrupted, bind, Except.bind] at done
  | ok result =>
      simp only [interrupted, bind, Except.bind] at done
      split at done
      · contradiction
      · rename_i removed
        simp only [pure, Except.pure, Except.ok.injEq] at done
        obtain ⟨-, taken⟩ := Registry.remove_eq_ok_iff.mp removed
        rw [← done, taken]
        exact erased _ (law.interrupt holds interrupted)

theorem concludeTurn {message : Option Message} {line : String} {lineFirst : Bool}
    (holds : motive b) : motive (b.concludeTurn config bot message line lineFirst) := by
  unfold Bench.concludeTurn
  cases lineFirst with
  | true =>
      cases message with
      | none => exact law.appendLines holds
      | some message => exact law.afterMessage (law.appendLines holds)
  | false =>
      cases message with
      | none => exact law.appendLines holds
      | some message => exact law.appendLines (law.afterMessage holds)

theorem send {text : String} (holds : motive b) : motive (b.send config bot text).1 := by
  unfold Bench.send
  split
  · exact holds
  · split
    · exact law.note holds
    · rename_i record found running
      have opened : motive ((b.after (b.appendMessage config bot
          { sender := .user, text := .str text })).appendLines config bot
            (openingLines record.language text)) :=
        law.appendLines (law.afterMessage holds)
      dsimp only
      generalize (b.after (b.appendMessage config bot _)).appendLines config bot
        (openingLines record.language text) = asked at opened ⊢
      have logged (log : List LogEntry) : motive { asked with log } :=
        law.frame opened rfl rfl rfl rfl rfl rfl rfl
      split
      · dsimp only
        exact law.concludeTurn (law.note (logged _))
      · exact logged _
      · dsimp only
        exact law.concludeTurn (logged _)
      · dsimp only
        exact law.concludeTurn (logged _)

/-- What is done for a bot keeps the property. What a launch and a deletion do to the registry as a
whole is left to be shown. -/
theorem operate {operation : Operation} (made : operation.client? b.registry.nextId = some bot)
    (launched : ∀ code token language result, operation = .launch code token language →
      b.launch config code token language = .ok result → motive result.2)
    (deleted : ∀ b', operation = .delete bot → b.delete bot = .ok b' → motive b')
    (holds : motive b) : motive (b.operate config operation) := by
  cases operation with
  | launch code token language =>
      change motive (b.after (b.launch config code token language))
      cases done : b.launch config code token language with
      | error refusal => exact holds
      | ok result => exact launched code token language result rfl done
  | update id code token language =>
      obtain rfl := Option.some.inj made
      change motive (b.after (b.updateBot config id code token language))
      cases done : b.updateBot config id code token language with
      | error refusal => exact holds
      | ok result => exact law.updateBot holds done
  | restart id =>
      obtain rfl := Option.some.inj made
      change motive (b.after (b.restart config id))
      cases done : b.restart config id with
      | error refusal => exact holds
      | ok result => exact law.restart holds done
  | stop id =>
      obtain rfl := Option.some.inj made
      change motive (b.after (b.stop config id))
      cases done : b.stop config id with
      | error refusal => exact holds
      | ok result => exact law.stop holds done
  | delete id =>
      obtain rfl := Option.some.inj made
      unfold Bench.operate
      dsimp only
      split
      · rename_i done
        exact deleted _ rfl done
      · exact holds
  | shutdown => contradiction
  | send id text =>
      obtain rfl := Option.some.inj made
      exact law.send holds
  | press id button =>
      obtain rfl := Option.some.inj made
      unfold Bench.operate
      dsimp only
      split
      · exact law.send holds
      · exact holds

/-! ## Steps of tasks -/

theorem connect {generation : Int} {stage : Stage} (holds : motive b) :
    motive (b.connect config bot generation stage).1 := by
  unfold Bench.connect
  split
  · unfold connectStep
    cases stage with
    | attempt | validate | establish => exact law.afterUpdate holds
    | check =>
        dsimp only
        split
        · exact holds
        · split
          · exact law.afterUpdate holds
          · exact law.afterUpdate (law.note holds)
    | finish =>
        dsimp only
        split
        · exact holds
        · rename_i updated
          exact law.startTicker (law.note (law.update holds updated))
  · exact holds

theorem redeploy {generation : Int} {line : Option String} {slept : Bool} (holds : motive b) :
    motive (b.redeploy config bot generation line slept).1 := by
  unfold Bench.redeploy
  split
  · exact holds
  · split
    · apply law.connect
      split
      · exact holds
      · exact holds
      · exact law.afterUpdate holds
    · exact holds

theorem draw {draws : Draws} (holds : motive b) : motive { b with draws } :=
  law.frame holds rfl rfl rfl rfl rfl rfl rfl

theorem tick (holds : motive b) : motive (b.tick config bot).2 := by
  unfold Bench.tick
  split
  · exact holds
  · split
    · exact holds
    · dsimp only
      split
      · exact law.afterUpdate (law.note (law.draw holds))
      · apply law.afterUpdate
        exact law.draw (law.draw (law.draw (law.draw holds)))

/-- What a task does for a bot before its verdict is obeyed keeps the property. What a call does is
left to be shown. -/
theorem perform {id : Nat} {routine : Routine}
    (made : routine.client? b.registry.nextId = some bot)
    (served : ∀ call, routine = .serve call → motive (b.serve config call).1)
    (holds : motive b) : motive (b.perform config id routine).1 := by
  cases routine with
  | connect owner generation stage =>
      obtain rfl := Option.some.inj made
      exact law.connect holds
  | redeploy owner generation line slept =>
      obtain rfl := Option.some.inj made
      exact law.redeploy holds
  | ticker owner slept =>
      obtain rfl := Option.some.inj made
      cases slept with
      | false => exact law.draw holds
      | true =>
          have ticked : motive (b.tick config owner).2 := law.tick holds
          rw [perform_ticker]
          split
          · exact law.draw ticked
          · exact law.leaveTicker _ ticked
  | awaitIdle owner waited =>
      unfold Bench.perform
      dsimp only
      split
      · exact holds
      · exact holds
  | serve call => exact served call rfl
  | report status owner => exact holds

end UpkeepLaw

namespace TableLaw

variable {motive : Bench → Prop} (law : TableLaw motive) {config : Config} {b b' : Bench}

include law

/-- What does not depend on the bot is kept by what is done for any of them. -/
theorem upkeep (bot : Int) : UpkeepLaw bot motive where
  frame holds _ tasks timers ready sequencers tickers clock :=
    law.frame holds tasks timers ready sequencers tickers clock
  store _ holds := law.frame holds rfl rfl rfl rfl rfl rfl
  schedule _ holds := law.schedule bot _ holds
  startTicker holds := law.startTicker bot holds
  stopSequencer holds := law.stopSequencer bot holds
  stopTicker holds := law.stopTicker bot holds
  leaveTicker task holds := law.leaveTicker bot task holds

theorem launch {code token : String} {language : Json} {result : Record × Bench}
    (holds : motive b) (done : b.launch config code token language = .ok result) :
    motive result.2 := by
  unfold Bench.launch at done
  simp only [bind, Except.bind, pure, Except.pure] at done
  split at done
  · contradiction
  · split at done
    · contradiction
    · split at done
      · contradiction
      · rename_i updated
        simp only [Except.ok.injEq] at done
        subst done
        apply law.schedule
        refine (law.upkeep _).update ?_ updated
        exact law.frame holds (by rfl) (by rfl) (by rfl) (by rfl) (by rfl) (by rfl)

theorem delete {id : Int} (holds : motive b) (done : b.delete id = .ok b') : motive b' :=
  (law.upkeep id).delete motive holds done fun _ holds =>
    law.frame holds rfl rfl rfl rfl rfl rfl

theorem stopAllTickers (holds : motive b) : motive b.stopAllTickers :=
  List.foldlRecOn _ _ holds fun _ kept bot _ => law.stopTicker bot kept

theorem shutdown (holds : motive b) : motive b.shutdown :=
  law.stopAllTickers (law.stopSequencers holds)

/-- Every operation keeps what starting and ending sequences and tickers keep. -/
theorem operate {operation : Operation} (holds : motive b) :
    motive (b.operate config operation) := by
  cases made : operation.client? b.registry.nextId with
  | none =>
      have final : operation = .shutdown := by
        cases operation <;> simp_all [Operation.client?]
      rw [final]
      exact law.shutdown holds
  | some bot =>
      exact (law.upkeep bot).operate made (fun _ _ _ _ _ done => law.launch holds done)
        (fun _ _ done => law.delete holds done) holds

theorem serve {call : Call} (holds : motive b) : motive (b.serve config call).1 := by
  rw [(serve_operates config b call).1]
  split
  · exact law.operate holds
  · exact holds

/-- Every step that a task makes before its verdict is obeyed keeps what starting and ending
sequences and tickers keep. -/
theorem perform {id : Nat} (routine : Routine) (holds : motive b) :
    motive (b.perform config id routine).1 := by
  cases made : routine.client? b.registry.nextId with
  | none =>
      cases routine with
      | serve call => exact law.serve holds
      | _ => contradiction
  | some bot => exact (law.upkeep bot).perform made (fun _ _ => law.serve holds) holds

omit law

/-- A property that does not look at the tables is kept when starting and cancelling tasks keep it.
-/
theorem of_queue
    (frame : ∀ {b b' : Bench}, motive b → b'.tasks = b.tasks → b'.timers = b.timers →
      b'.ready = b.ready → b'.clock = b.clock → motive b')
    (spawn : ∀ {b : Bench} (routine : Routine), motive b → motive (b.spawn routine).2)
    (cancel : ∀ {b : Bench} (id : Nat), motive b → motive (b.cancel id)) : TableLaw motive where
  frame holds tasks timers ready _ _ clock := frame holds tasks timers ready clock
  schedule id routine holds := by
    have spawned := spawn routine holds
    exact frame spawned rfl rfl rfl rfl
  startTicker id holds := by
    unfold Bench.startTicker
    split
    · exact holds
    · have spawned := spawn (.ticker id false) holds
      exact frame spawned rfl rfl rfl rfl
  stopSequencer id holds := by
    unfold Bench.stopSequencer
    split
    · exact cancel _ (frame holds rfl rfl rfl rfl)
    · exact holds
  stopTicker id holds := by
    unfold Bench.stopTicker
    split
    · exact cancel _ (frame holds rfl rfl rfl rfl)
    · exact holds
  leaveTicker id task holds := by
    unfold Bench.leaveTicker
    split
    · exact frame holds rfl rfl rfl rfl
    · exact holds
  stopSequencers {b} holds := by
    have cancelled (tasks : List Nat) (b : Bench) (holds : motive b) :
        motive (tasks.foldl Bench.cancel b) := by
      induction tasks generalizing b with
      | nil => exact holds
      | cons first rest ih => exact ih (b.cancel first) (cancel first holds)
    exact frame (cancelled _ b holds) rfl rfl rfl rfl

end TableLaw

namespace QueueLaw

variable {motive : Bench → Prop} (law : QueueLaw motive) {config : Config} {b : Bench}

include law

/-- What starting and cancelling tasks keep does not depend on the tables. -/
theorem tables : TableLaw motive :=
  .of_queue (fun holds tasks timers _ _ => law.frame holds tasks timers) law.spawn law.cancel

theorem leaveTicker {id : Int} {task : Nat} (holds : motive b) : motive (b.leaveTicker id task) :=
  law.tables.leaveTicker id task holds

/-- Every operation keeps what starting and cancelling tasks keep. -/
theorem operate {operation : Operation} (holds : motive b) : motive (b.operate config operation) :=
  law.tables.operate holds

theorem serve {call : Call} (holds : motive b) : motive (b.serve config call).1 :=
  law.tables.serve holds

/-- Every step that a task makes before its verdict is obeyed keeps what starting and cancelling
tasks keep. -/
theorem perform {id : Nat} (routine : Routine) (holds : motive b) :
    motive (b.perform config id routine).1 :=
  law.tables.perform routine holds

end QueueLaw

/-! ## Time -/

@[simp] theorem clock_cancel (b : Bench) (task : Nat) : (b.cancel task).clock = b.clock := by
  unfold cancel
  split
  · rfl
  · split <;> rfl

@[simp] theorem clock_finish (b : Bench) (task : Nat) (answer : Option Answer) :
    (b.finish task answer).clock = b.clock := by
  unfold finish
  split <;> rfl

/-- No time passes while an operation is carried out or a task runs. -/
theorem clock_law (time : Rat) : TableLaw fun b => b.clock = time :=
  .of_queue (fun holds _ _ _ clock => clock.trans holds) (fun _ holds => holds)
    fun task holds => (clock_cancel _ task).trans holds

theorem clock_obey (config : Config) (b : Bench) (task : Nat) (verdict : Verdict) :
    (b.obey config task verdict).clock = b.clock := by
  cases verdict with
  | sleep span routine =>
      unfold obey sleep
      cases span with
      | finite seconds =>
          dsimp only
          split <;> rfl
      | endless => rfl
  | wait target routine =>
      unfold obey wait
      dsimp only
      split <;> rfl
  | finish answer => exact clock_finish b task answer

/-- Time passes only when the clock moves. -/
theorem clock_step (config : Config) (b : Bench) {move : Move} (still : ∀ time, move ≠ .clock time) :
    (b.step config move).clock = b.clock := by
  have law := clock_law b.clock
  cases move with
  | operate operation => exact law.operate rfl
  | call call => rfl
  | awaitIdle bot => rfl
  | callback place =>
      change (b.runAt config place).clock = b.clock
      unfold runAt
      split
      · rename_i callback _
        cases callback with
        | resume task =>
            change (resume config _ task).clock = b.clock
            unfold resume
            split
            · rfl
            · split
              · rfl
              · split
                · unfold unwind
                  dsimp only
                  rw [clock_finish]
                  split
                  · exact law.leaveTicker _ task rfl
                  · rfl
                · dsimp only
                  rw [clock_obey]
                  exact law.perform _ rfl
        | notify task =>
            change (notify _ task).clock = b.clock
            unfold notify
            split
            · rfl
            · split <;> rfl
      · rfl
  | wake task =>
      change (b.wake task).clock = b.clock
      unfold wake
      split
      · split <;> rfl
      · rfl
  | clock time => exact absurd rfl (still time)

end BotBench.Bench
