import BotBench.Proofs.Bench.Annals
import BotBench.Proofs.Bench.Shutdown

/-! # Records show windows of the annals

What a move writes down about a bot is read off the move before it is made
(`BotBench.Bench.writing?`). The writings of a run make up the annals of its bots, and at every
point of every run the log and the transcript of a record are the windows of the annals that the
settings ask for (`BotBench.Bench.records_show_windows`). -/

namespace BotBench

open Number

namespace Bench

variable {config : Config} {b b' b'' : Bench} {id : Int}

/-! ## What a move writes down -/

/-- What is written about a turn after the engine has been asked. -/
def answerEntries (time : Int) : Except SimulationFault (Option Reply) → List Entry
  | .ok (some reply) =>
      [.message reply.toMessage,
        .line time ("Simulation sent reply: \"" ++ reply.text.display ++ "\"")]
  | .ok none => [.line time "Code did not produce a reply for this message."]
  | .error (.sandbox problem) =>
      [.line time ("Error: " ++ problem),
        .message
          { sender := .bot
            text := .str ("Sorry, an error occurred in the simulation: " ++ problem) }]
  | .error _ => []

/-- What is written about a chat turn: nothing, unless the bot is there and runs. -/
def turnEntries (config : Config) (b : Bench) (id : Int) (text : String) : List Entry :=
  match b.registry.find? id with
  | some record =>
      if record.status == .running then
        .message { sender := .user, text := .str text } ::
          ((openingLines record.language text).map (Entry.line (b.now config)) ++
            answerEntries (b.now config)
              (config.engine record.language record.code record.token text).answer)
      else []
  | none => []

/-- What is written about a tick: nothing, unless the bot is there and runs. -/
def tickEntries (config : Config) (b : Bench) (id : Int) : List Entry :=
  match b.registry.find? id with
  | some record =>
      if record.status == .running then
        if drawnBelow b.drawNumber.1 config.settings.telemetryFailureRate then
          [.line (b.now config) haltLine]
        else [.line (b.now config) (b.drawNumber.2.choose healthLines).1]
      else []
  | none => []

/-- What is written about a sequence that goes on: the lines of its leg, unless its generation is
stale. -/
def sequenceEntries (config : Config) (b : Bench) (id generation : Int) (routine : Routine) :
    List Entry :=
  match b.registry.find? id with
  | some record =>
      if record.generation == generation then
        (routine.leg (isTokenValid record.token config.settings.minTokenPrefix)).lines.map
          (Entry.line (b.now config))
      else []
  | none => []

/-- What an operation writes down. -/
def operationWriting? (config : Config) (b : Bench) (operation : Operation) : Option Writing :=
  let accepted (about : Record → Writing) : Option Writing :=
    (b.accepted? config operation).map about
  match operation with
  | .launch .. =>
      accepted fun record =>
        ⟨record.id, [.created (b.now config), .line (b.now config) "Deployment initiated..."]⟩
  | .update bot .. =>
      accepted fun _ => ⟨bot, [.line (b.now config) "Bot update initiated...", .cleared]⟩
  | .restart bot => accepted fun _ => ⟨bot, [.line (b.now config) "Restarting bot...", .cleared]⟩
  | .stop bot => accepted fun _ => ⟨bot, [.line (b.now config) "Bot stopped by user."]⟩
  | .delete bot => (b.delete bot).toOption.map fun _ => ⟨bot, [.removed]⟩
  | .shutdown => none
  | .send bot text => some ⟨bot, b.turnEntries config bot text⟩
  | .press bot button =>
      match button.payload with
      | .str text => some ⟨bot, b.turnEntries config bot text⟩
      | _ => none

/-- What a task writes down when it is resumed, unless it begins a call. -/
def routineWriting? (config : Config) (b : Bench) (routine : Routine) : Option Writing :=
  match routine with
  | .ticker bot true => some ⟨bot, b.tickEntries config bot⟩
  | _ =>
      routine.sequence?.map fun (bot, generation) =>
        ⟨bot, b.sequenceEntries config bot generation routine⟩

/-- What a move writes down. -/
def writing? (config : Config) (b : Bench) (move : Move) : Option Writing :=
  match b.operation? move with
  | some operation => (b.taken move).operationWriting? config operation
  | none => (b.resumed? move).bind fun (_, routine) => b.routineWriting? config routine

/-- What a run writes down. -/
def writings (config : Config) (b : Bench) (moves : List Move) : List Writing :=
  chronicle config (writing? config) b moves

/-! ## Entries move the windows along -/

/-- The log and the transcript of a bot, if it is there. -/
def page? (b : Bench) (id : Int) : Option Page :=
  (b.registry.find? id).map fun record => ⟨record.logs, record.messages⟩

/-- The bench `b'` is the bench `b` after some entries about a bot. Wherever the records show
windows of some pages, they do so after the entries have been added to the page of the bot. -/
structure Penned (config : Config) (b : Bench) (id : Int) (entries : List Entry) (b' : Bench) :
    Prop where
  clock : b'.clock = b.clock
  others : ∀ other, other ≠ id → b'.page? other = b.page? other
  page : ∀ whole, b.page? id = whole.map (Page.windowed config.settings) →
    b'.page? id = (entries.foldl Page.add whole).map (Page.windowed config.settings)

theorem penned_nothing (config : Config) (b : Bench) (id : Int) : Penned config b id [] b :=
  ⟨rfl, fun _ _ => rfl, fun _ shown => shown⟩

namespace Penned

variable {entries more : List Entry}

theorem trans (first : Penned config b id entries b') (second : Penned config b' id more b'') :
    Penned config b id (entries ++ more) b'' := by
  refine ⟨second.clock.trans first.clock, ?_, ?_⟩
  · intro other apart
    exact (second.others other apart).trans (first.others other apart)
  · intro whole shown
    rw [List.foldl_append]
    exact second.page _ (first.page whole shown)

/-- What leaves the records and the time alone writes nothing down. -/
theorem of_registry (penned : Penned config b id entries b') (registry : b''.registry = b'.registry)
    (clock : b''.clock = b'.clock) : Penned config b id entries b'' := by
  have pages (other : Int) : b''.page? other = b'.page? other := by
    unfold page?
    rw [registry]
  refine ⟨clock.trans penned.clock, ?_, ?_⟩
  · intro other apart
    exact (pages other).trans (penned.others other apart)
  · intro whole shown
    exact (pages id).trans (penned.page whole shown)

theorem now (penned : Penned config b id entries b') : b'.now config = b.now config :=
  congrArg (milliseconds config.rounding) penned.clock

end Penned

theorem page?_store {old : Record} (found : b.registry.find? id = some old) (record : Record)
    (other : Int) : (b.store id record).page? other =
      if other = id then some ⟨record.logs, record.messages⟩ else b.page? other := by
  unfold page?
  change ((b.registry.put id record).find? other).map _ = _
  rw [Registry.find?_put]
  split
  · rw [found]
    rfl
  · rfl

/-- A changed record that is stored. -/
theorem penned_store {old record : Record} {entries : List Entry}
    (found : b.registry.find? id = some old)
    (shows : ∀ page : Page, old.logs = window config.settings.logLimit page.logs →
      old.messages = window config.settings.transcriptLimit page.messages →
      ∃ page', entries.foldl Page.add (some page) = some page' ∧
        record.logs = window config.settings.logLimit page'.logs ∧
        record.messages = window config.settings.transcriptLimit page'.messages) :
    Penned config b id entries (b.store id record) := by
  refine ⟨rfl, ?_, ?_⟩
  · intro other apart
    rw [page?_store found, if_neg apart]
  · intro whole shown
    rw [page?_store found, if_pos rfl]
    unfold page? at shown
    rw [found, Option.map_some, eq_comm, Option.map_eq_some_iff] at shown
    obtain ⟨page, rfl, same⟩ := shown
    have logs : old.logs = window config.settings.logLimit page.logs :=
      (congrArg Page.logs same).symm
    have messages : old.messages = window config.settings.transcriptLimit page.messages :=
      (congrArg Page.messages same).symm
    obtain ⟨page', added, logs', messages'⟩ := shows page logs messages
    rw [added, logs', messages']
    rfl

/-- A change of a bot with a line for its log, which keeps the transcript or clears it. -/
theorem penned_update {record changed answer : Record} {changes : List Change}
    (found : b.registry.find? id = some record)
    (applied : Change.applyAll record changes = .ok changed) {line : String}
    (done : b.update config id (some line) changes = .ok (answer, b')) {time : Int}
    (clock : b.now config = time) :
    (changed.messages = record.messages → Penned config b id [.line time line] b') ∧
      (changed.messages = [] → Penned config b id [.line time line, .cleared] b') := by
  subst clock
  rw [update_of_find? found applied, Except.ok.injEq, Prod.mk.injEq] at done
  obtain ⟨-, rfl⟩ := done
  refine ⟨?_, ?_⟩
  · intro kept
    refine penned_store found fun page logs messages => ⟨_, rfl, ?_, ?_⟩
    · change window _ (record.logs ++ _) = window _ (page.logs ++ _)
      rw [logs, window_append]
    · exact kept.trans messages
  · intro cleared
    refine penned_store found fun page logs messages => ⟨_, rfl, ?_, ?_⟩
    · change window _ (record.logs ++ _) = window _ (page.logs ++ _)
      rw [logs, window_append]
    · exact cleared.trans (window_nil _).symm

/-- About a bot that is not there nothing is written down. -/
theorem penned_missing {entries : List Entry} (config : Config)
    (missing : b.registry.find? id = none) (absent : entries.foldl Page.add none = none) :
    Penned config b id entries b := by
  refine ⟨rfl, fun _ _ => rfl, fun whole shown => ?_⟩
  have unwritten : b.page? id = none := by
    unfold page?
    rw [missing]
    rfl
  rw [unwritten] at shown ⊢
  rw [Option.map_eq_none_iff.mp shown.symm, absent]
  rfl

theorem penned_appendLog (config : Config) (b : Bench) (id : Int) (line : String) :
    Penned config b id [.line (b.now config) line] (b.after (b.appendLog config id line)) := by
  unfold appendLog
  cases found : b.registry.find? id with
  | none =>
      rw [update_of_missing found]
      exact penned_missing config found rfl
  | some record =>
      have applied : Change.applyAll record [] = .ok record := rfl
      have done : b.update config id (some line) [] = _ := update_of_find? found applied
      rw [done]
      exact (penned_update found applied done rfl).1 rfl

theorem penned_appendLines (config : Config) (b : Bench) (id : Int) (lines : List String) :
    Penned config b id (lines.map (Entry.line (b.now config)))
      (b.appendLines config id lines) := by
  unfold appendLines
  induction lines generalizing b with
  | nil => exact penned_nothing config b id
  | cons line lines ih =>
      have first := penned_appendLog config b id line
      have rest := ih (b.after (b.appendLog config id line))
      rw [first.now] at rest
      exact first.trans rest

theorem penned_appendMessage (config : Config) (b : Bench) (id : Int) (message : Message) :
    Penned config b id [.message message] (b.after (b.appendMessage config id message)) := by
  cases found : b.registry.find? id with
  | none =>
      rw [appendMessage_of_missing config found]
      exact penned_missing config found rfl
  | some record =>
      rw [appendMessage_of_find? config found]
      refine penned_store found fun page logs messages => ⟨_, rfl, logs, ?_⟩
      change window _ (record.messages ++ _) = window _ (page.messages ++ _)
      rw [messages, window_append]

/-! ## Operations -/

theorem penned_interrupted (config : Config) (b : Bench) (id : Int) :
    Penned config b id [] ((b.stopSequencer id).stopTicker id) := by
  refine (penned_nothing config b id).of_registry ?_ ?_
  · rw [registry_stopTicker, registry_stopSequencer]
  · exact (clock_law b.clock).stopTicker id ((clock_law b.clock).stopSequencer id rfl)

theorem penned_create (config : Config) (fresh : b.registry.find? b.registry.nextId = none)
    (code token : String) (language : Language) :
    Penned config b b.registry.nextId [.created (b.now config)]
      { b with registry := (b.registry.create (b.now config) code token language).2 } := by
  refine ⟨rfl, ?_, ?_⟩
  · intro other apart
    unfold page?
    dsimp only
    rw [Registry.find?_create, if_neg apart, Option.or_none]
  · intro whole _
    unfold page?
    dsimp only
    rw [Registry.find?_create, fresh, if_pos rfl]
    change some (Page.mk [stamped (b.now config) "Bot created."] []) =
      some (Page.mk (window _ [stamped (b.now config) "Bot created."]) (window _ []))
    rw [window_singleton, window_nil]

theorem penned_launch {code token : String} {language : Json} {answer : Record}
    (fresh : b.registry.find? b.registry.nextId = none)
    (done : b.launch config code token language = .ok (answer, b')) :
    Penned config b answer.id
      [.created (b.now config), .line (b.now config) "Deployment initiated..."] b' := by
  unfold launch at done
  cases required : requireToken token with
  | error refusal => simp [required, bind, Except.bind] at done
  | ok accepted =>
      cases name : Language.ofJson language with
      | error refusal => simp [required, name, bind, Except.bind] at done
      | ok named =>
          simp only [required, name, bind, Except.bind, appendLog] at done
          have created := penned_create config fresh code token named
          have placed : (b.registry.create (b.now config) code token named).2.find?
              b.registry.nextId = some (b.registry.create (b.now config) code token named).1 := by
            rw [Registry.find?_create, fresh]
            simp
          have numbered : (b.registry.create (b.now config) code token named).1.id =
              b.registry.nextId := rfl
          generalize b.registry.create (b.now config) code token named = creation
            at done created placed numbered
          obtain ⟨record, registry⟩ := creation
          dsimp only at done created placed numbered
          have applied : Change.applyAll record [] = .ok record := rfl
          have noted : Penned config b b.registry.nextId [.created (b.now config)]
              ({ b with registry }.note .info ("Launching " ++ record.name)) :=
            created.of_registry rfl rfl
          rw [← numbered] at noted placed
          have written : ({ b with registry }.note .info ("Launching " ++ record.name)).update
              config record.id (some "Deployment initiated...") [] = _ :=
            update_of_find? placed applied
          rw [written] at done
          simp only [pure, Except.pure, Except.ok.injEq, Prod.mk.injEq] at done
          obtain ⟨rfl, rfl⟩ := done
          have lined := (penned_update placed applied written noted.now).1 rfl
          exact (noted.trans lined).of_registry rfl rfl

theorem penned_stop {answer : Record} (done : b.stop config id = .ok (answer, b')) :
    Penned config b id [.line (b.now config) "Bot stopped by user."] b' := by
  unfold stop at done
  cases found : b.registry.find? id with
  | none => simp [interrupt_of_missing found, bind, Except.bind] at done
  | some record =>
      rw [interrupt_of_find? found] at done
      simp only [bind, Except.bind] at done
      have kept := (find?_interrupted b id id).trans found
      have noted : Penned config b id [] (((b.stopSequencer id).stopTicker id).note .info
          s!"Stopping bot {id}") := (penned_interrupted config b id).of_registry rfl rfl
      have applied : Change.applyAll record [.status .stopped, .cpuUsage 0, .ramUsage 0,
          .generation (record.generation + 1)] = .ok record.halted := rfl
      exact noted.trans ((penned_update (b := Bench.note _ _ _) kept applied done noted.now).1 rfl)

theorem penned_restart {answer : Record} (done : b.restart config id = .ok (answer, b')) :
    Penned config b id [.line (b.now config) "Restarting bot...", .cleared] b' := by
  unfold restart at done
  cases found : b.registry.find? id with
  | none => simp [interrupt_of_missing found, bind, Except.bind] at done
  | some record =>
      rw [interrupt_of_find? found] at done
      simp only [bind, Except.bind] at done
      have kept := (find?_interrupted b id id).trans found
      have ended := penned_interrupted config b id
      have applied : Change.applyAll record [.status .stopped, .cpuUsage 0, .ramUsage 0,
          .messages [], .generation (record.generation + 1)] = .ok record.renewed := rfl
      have written : Bench.update config _ id (some "Restarting bot...") _ = _ :=
        update_of_find? kept applied
      rw [written] at done
      simp only [pure, Except.pure, Except.ok.injEq, Prod.mk.injEq] at done
      obtain ⟨rfl, rfl⟩ := done
      have lined := (penned_update kept applied written ended.now).2 rfl
      exact (ended.trans lined).of_registry rfl rfl

theorem penned_updateBot {code token : String} {language : Json} {answer : Record}
    (done : b.updateBot config id code token language = .ok (answer, b')) :
    Penned config b id [.line (b.now config) "Bot update initiated...", .cleared] b' := by
  unfold updateBot at done
  cases required : requireToken token with
  | error refusal => simp [required, bind, Except.bind] at done
  | ok accepted =>
      cases name : Language.ofJson language with
      | error refusal => simp [required, name, bind, Except.bind] at done
      | ok named =>
          cases found : b.registry.find? id with
          | none => simp [required, name, interrupt_of_missing found, bind, Except.bind] at done
          | some record =>
              simp only [required, name, interrupt_of_find? found, bind, Except.bind] at done
              have kept := (find?_interrupted b id id).trans found
              have ended := penned_interrupted config b id
              have applied : Change.applyAll record [.code code, .token token, .language named,
                  .status .stopped, .cpuUsage 0, .ramUsage 0, .messages [],
                  .generation (record.generation + 1)] =
                  .ok (record.reconfigured code token named) := rfl
              have written : Bench.update config _ id (some "Bot update initiated...") _ = _ :=
                update_of_find? kept applied
              rw [written] at done
              simp only [pure, Except.pure, Except.ok.injEq, Prod.mk.injEq] at done
              obtain ⟨rfl, rfl⟩ := done
              have lined := (penned_update kept applied written ended.now).2 rfl
              exact (ended.trans lined).of_registry rfl rfl

theorem penned_delete (config : Config) (done : b.delete id = .ok b') :
    Penned config b id [.removed] b' := by
  unfold delete at done
  cases found : b.registry.find? id with
  | none => simp [interrupt_of_missing found, bind, Except.bind] at done
  | some record =>
      rw [interrupt_of_find? found] at done
      simp only [bind, Except.bind] at done
      have kept := (find?_interrupted b id id).trans found
      have ended := penned_interrupted config b id
      rw [Registry.remove_eq_ok_iff.mpr ⟨kept, rfl⟩] at done
      simp only [pure, Except.pure, Except.ok.injEq] at done
      subst done
      suffices removed : Penned config ((b.stopSequencer id).stopTicker id) id [.removed] _ from
        ended.trans removed
      refine ⟨rfl, ?_, ?_⟩
      · intro other apart
        unfold page?
        change ( entry? (eraseEntry _ id) other).map _ = _
        rw [entry?_eraseEntry, if_neg apart]
        rfl
      · intro whole _
        unfold page?
        change ( entry? (eraseEntry _ id) id).map _ = _
        rw [entry?_eraseEntry, if_pos rfl]
        rfl

/-! ## Turns, ticks and sequences -/

theorem penned_concludeTurn (config : Config) (b : Bench) (id : Int) (message : Option Message)
    (line : String) (lineFirst : Bool) :
    let said := message.toList.map Entry.message
    Penned config b id
      (if lineFirst then .line (b.now config) line :: said
      else said ++ [.line (b.now config) line])
      (b.concludeTurn config id message line lineFirst) := by
  have conclude {entries : List Entry} {appended : Bench → Bench}
      (said : ∀ b, Penned config b id entries (appended b)) :
      Penned config b id
        (if lineFirst then .line (b.now config) line :: entries
        else entries ++ [.line (b.now config) line])
        (if lineFirst then appended (b.appendLines config id [line])
        else (appended b).appendLines config id [line]) := by
    cases lineFirst with
    | true => exact (penned_appendLines config b id [line]).trans (said _)
    | false =>
        have lined := penned_appendLines config (appended b) id [line]
        rw [(said b).now] at lined
        exact (said b).trans lined
  cases message with
  | none => exact conclude fun b => penned_nothing config b id
  | some message => exact conclude fun b => penned_appendMessage config b id message

theorem penned_send (config : Config) (b : Bench) (id : Int) (text : String) :
    Penned config b id (b.turnEntries config id text) (b.send config id text).1 := by
  unfold turnEntries send
  cases found : b.registry.find? id with
  | none =>
      rw [Registry.get_of_missing found]
      exact penned_nothing config b id
  | some record =>
      rw [Registry.get_of_find? found]
      dsimp only
      by_cases running : record.status = .running
      · have runs : (record.status == .running) = true := by simp [running]
        have awake : ¬(record.status != .running) = true := by simp [running]
        rw [if_pos runs, if_neg awake]
        have asked := penned_appendMessage config b id { sender := .user, text := .str text }
        have opening := penned_appendLines config
          (b.after (b.appendMessage config id { sender := .user, text := .str text })) id
          (openingLines record.language text)
        rw [asked.now] at opening
        have opened := asked.trans opening
        generalize (b.after (b.appendMessage config id _)).appendLines config id
          (openingLines record.language text) = b₁ at opened ⊢
        have logged (log : List LogEntry) : Penned config b id _ { b₁ with log } :=
          opened.of_registry rfl rfl
        have conclude (log : List LogEntry) (message : Option Message) (line : String)
            (lineFirst : Bool) := by
          have concluded := penned_concludeTurn config { b₁ with log } id message line lineFirst
          rw [(logged log).now] at concluded
          exact (logged log).trans concluded
        generalize config.engine record.language record.code record.token text = simulation
        cases simulation.answer with
        | ok reply =>
            cases reply with
            | none => exact conclude _ none _ true
            | some reply => exact conclude _ (some reply.toMessage) _ false
        | error fault =>
            cases fault with
            | sandbox problem => exact conclude _ (some _) _ true
            | _ =>
                unfold answerEntries
                rw [List.append_nil]
                exact logged _
      · have rests : ¬(record.status == .running) = true := by simpa using running
        have idle : (record.status != .running) = true := by simpa using running
        rw [if_neg rests, if_pos idle]
        exact (penned_nothing config b id).of_registry rfl rfl

theorem penned_tick (config : Config) (b : Bench) (id : Int) :
    Penned config b id (b.tickEntries config id) (b.tick config id).2 := by
  unfold tickEntries tick
  cases found : b.registry.find? id with
  | none => exact penned_nothing config b id
  | some record =>
      dsimp only
      by_cases running : record.status = .running
      · have runs : (record.status == .running) = true := by simp [running]
        have awake : ¬(record.status != .running) = true := by simp [running]
        rw [if_pos runs, if_neg awake]
        have written (draws : Draws) (log : List LogEntry) (line : String)
            (changes : List Change) {changed : Record}
            (applied : Change.applyAll record changes = .ok changed)
            (kept : changed.messages = record.messages) :
            Penned config b id [.line (b.now config) line]
              (({ b with draws, log } : Bench).after
                (({ b with draws, log } : Bench).update config id (some line) changes)) := by
          have before : Penned config b id [] { b with draws, log } :=
            (penned_nothing config b id).of_registry rfl rfl
          have present : ({ b with draws, log } : Bench).registry.find? id = some record := found
          have done : Bench.update config _ id (some line) changes = _ :=
            update_of_find? present applied
          rw [done]
          exact before.trans ((penned_update present applied done rfl).1 kept)
        by_cases fails : drawnBelow b.drawNumber.1 config.settings.telemetryFailureRate = true
        · rw [if_pos fails, if_pos fails]
          exact written _ _ haltLine [.status .error] rfl rfl
        · rw [if_neg fails, if_neg fails]
          exact written _ _ _ [.cpuUsage _, .ramUsage _] rfl rfl
      · have rests : ¬(record.status == .running) = true := by simpa using running
        have idle : (record.status != .running) = true := by simpa using running
        rw [if_neg rests, if_pos idle]
        exact penned_nothing config b id

/-- What a leg has written are its lines. -/
theorem Wrote.penned {record : Record} {lines : List String} {outcome : Option Status}
    (wrote : Wrote config b id record lines outcome b')
    (found : b.registry.find? id = some record) :
    Penned config b id (lines.map (Entry.line (b.now config))) b' := by
  obtain ⟨updated, stored, face, logs⟩ := wrote.stored
  have messages : updated.messages = record.messages := (congrArg Record.messages face :)
  refine ⟨wrote.clock, ?_, ?_⟩
  · intro other apart
    unfold page?
    rw [wrote.others other apart]
  · intro whole shown
    unfold page? at shown ⊢
    rw [found, Option.map_some, eq_comm, Option.map_eq_some_iff] at shown
    obtain ⟨page, rfl, same⟩ := shown
    have logs' : record.logs = window config.settings.logLimit page.logs :=
      (congrArg Page.logs same).symm
    have messages' : record.messages = window config.settings.transcriptLimit page.messages :=
      (congrArg Page.messages same).symm
    rw [stored, Page.foldl_add_lines, Option.map_some, Option.map_some, Option.map_some, logs,
      logs', messages, messages', extendLog_window]
    rfl

/-! ## Moves -/

/-- Wherever the records of the bench `b` show windows of some pages, those of the bench `b'` do so
after something has been written down. -/
def Shows (config : Config) (b : Bench) (writing? : Option Writing) (b' : Bench) : Prop :=
  ∀ id whole, b.page? id = whole.map (Page.windowed config.settings) →
    b'.page? id = ((entriesAbout id writing?.toList).foldl Page.add whole).map
      (Page.windowed config.settings)

theorem Penned.shows {bot : Int} {entries : List Entry}
    (penned : Penned config b bot entries b') : Shows config b (some ⟨bot, entries⟩) b' := by
  intro id whole shown
  rw [Option.toList_some, entriesAbout_singleton]
  split
  · rename_i same
    subst same
    exact penned.page whole shown
  · rename_i apart
    rw [penned.others id (Ne.symm apart)]
    exact shown

theorem Shows.of_registry {writing? : Option Writing} (shows : Shows config b writing? b')
    (registry : b''.registry = b'.registry) : Shows config b writing? b'' := by
  intro id whole shown
  have same : b''.page? id = b'.page? id := by
    unfold page?
    rw [registry]
  rw [same]
  exact shows id whole shown

theorem shows_nothing (config : Config) (registry : b'.registry = b.registry) :
    Shows config b none b' := by
  have same : Shows config b none b := fun _ _ shown => shown
  exact same.of_registry registry

theorem operate_shows (config : Config) (fresh : b.registry.find? b.registry.nextId = none)
    (operation : Operation) :
    Shows config b (b.operationWriting? config operation) (b.operate config operation) := by
  cases operation with
  | launch code token language =>
      unfold operate operationWriting? accepted?
      dsimp only
      cases done : b.launch config code token language with
      | error refusal => exact shows_nothing config rfl
      | ok result => exact (penned_launch fresh done).shows
  | update bot code token language =>
      unfold operate operationWriting? accepted?
      dsimp only
      cases done : b.updateBot config bot code token language with
      | error refusal => exact shows_nothing config rfl
      | ok result => exact (penned_updateBot done).shows
  | restart bot =>
      unfold operate operationWriting? accepted?
      dsimp only
      cases done : b.restart config bot with
      | error refusal => exact shows_nothing config rfl
      | ok result => exact (penned_restart done).shows
  | stop bot =>
      unfold operate operationWriting? accepted?
      dsimp only
      cases done : b.stop config bot with
      | error refusal => exact shows_nothing config rfl
      | ok result => exact (penned_stop done).shows
  | delete bot =>
      unfold operate operationWriting?
      dsimp only
      cases done : b.delete bot with
      | error refusal => exact shows_nothing config rfl
      | ok result => exact (penned_delete config done).shows
  | shutdown => exact shows_nothing config (registry_shutdown b)
  | send bot text => exact (penned_send config b bot text).shows
  | press bot button =>
      unfold operate operationWriting?
      dsimp only
      cases button.payload with
      | str text => exact (penned_send config b bot text).shows
      | _ => exact shows_nothing config rfl

/-- A sequence that goes on writes its leg down, unless its generation is stale. -/
theorem sequence_shows (config : Config) (b : Bench) (task : Nat) {routine : Routine}
    {generation : Int} (belongs : routine.sequence? = some (id, generation)) :
    Shows config b (some ⟨id, b.sequenceEntries config id generation routine⟩)
      (b.perform config task routine).1 := by
  have stale (not : b.isCurrent id generation = false) :
      Shows config b (some ⟨id, []⟩) (b.perform config task routine).1 := by
    rw [perform_of_not_current config belongs not]
    exact (penned_nothing config b id).shows
  unfold sequenceEntries
  cases found : b.registry.find? id with
  | none =>
      apply stale
      unfold isCurrent
      rw [found]
  | some record =>
      by_cases current : record.generation = generation
      · obtain ⟨done, wrote, performed⟩ := perform_sequence config belongs found current task
        dsimp only
        rw [performed, if_pos (by simpa using current)]
        refine (wrote.penned found).shows.of_registry ?_
        dsimp only
        split
        · exact registry_startTicker ..
        · rfl
      · dsimp only
        rw [if_neg (by simpa using current)]
        apply stale
        unfold isCurrent
        rw [found]
        simpa using current

theorem perform_shows (config : Config) (b : Bench) (task : Nat) {routine : Routine}
    (apart : ∀ call, routine ≠ .serve call) :
    Shows config b (b.routineWriting? config routine) (b.perform config task routine).1 := by
  cases routine with
  | connect bot generation stage => exact sequence_shows config b task rfl
  | redeploy bot generation line slept => exact sequence_shows config b task rfl
  | ticker bot slept =>
      cases slept with
      | false => exact shows_nothing config rfl
      | true =>
          have ticked : Shows config b _ (b.tick config bot).2 := (penned_tick config b bot).shows
          rw [perform_ticker]
          split
          · exact ticked.of_registry rfl
          · exact ticked.of_registry (registry_leaveTicker ..)
  | awaitIdle bot waited =>
      apply shows_nothing
      unfold perform
      dsimp only
      split <;> rfl
  | serve call => exact absurd rfl (apart call)
  | report status bot => exact shows_nothing config rfl

/-- What a move writes down is what the records show after it. -/
theorem step_shows (config : Config) (fresh : b.registry.find? b.registry.nextId = none)
    (move : Move) : Shows config b (b.writing? config move) (b.step config move) := by
  have done := registry_step config b move
  unfold writing?
  cases carried : b.operation? move with
  | some operation =>
      rw [carried] at done
      refine Shows.of_registry ?_ done
      cases move with
      | callback place => exact operate_shows (b := b.taken (.callback place)) config fresh operation
      | _ => exact operate_shows config fresh operation
  | none =>
      cases resumed : b.resumed? move with
      | none =>
          rw [carried, resumed] at done
          exact shows_nothing config done
      | some pair =>
          obtain ⟨task, routine⟩ := pair
          rw [carried, resumed] at done
          refine Shows.of_registry ?_ done
          cases move with
          | callback place =>
              cases routine with
              | serve call =>
                  rw [perform_unasked config carried resumed]
                  exact shows_nothing config rfl
              | _ => exact perform_shows config (b.taken (.callback place)) task (by simp)
          | _ => contradiction

/-! ## What is written down is in order -/

theorem orderly_turnEntries (config : Config) (b : Bench) (id : Int) (text : String) :
    Page.Orderly (b.turnEntries config id text) := by
  let asked : Message := { sender := .user, text := .str text }
  let unanswered : Turn := ⟨asked, none, rfl, by simp⟩
  have answered (answer : Message) (bot : answer.sender = .bot) :
      ∃ turn : Turn, turn.asked = asked ∧ turn.answer? = some answer :=
    ⟨⟨asked, some answer, rfl, by simpa using bot⟩, rfl, rfl⟩
  unfold turnEntries
  split
  · rename_i record found
    split
    · generalize (config.engine record.language record.code record.token text).answer = answer
      let opening := openingLines record.language text
      have ended (turn : Turn) (same : turn.asked = asked) (before after : List String) :=
        same ▸ Page.orderly_turn turn (b.now config) opening before after
      cases answer with
      | ok reply =>
          cases reply with
          | none => exact ended unanswered rfl ["Code did not produce a reply for this message."] []
          | some reply =>
              obtain ⟨turn, same, said⟩ := answered reply.toMessage rfl
              have ordered := ended turn same []
                ["Simulation sent reply: \"" ++ reply.text.display ++ "\""]
              rw [said] at ordered
              exact ordered
      | error fault =>
          cases fault with
          | sandbox problem =>
              obtain ⟨turn, same, said⟩ := answered
                { sender := .bot
                  text := .str ("Sorry, an error occurred in the simulation: " ++ problem) } rfl
              have ordered := ended turn same ["Error: " ++ problem] []
              rw [said] at ordered
              exact ordered
          | _ => exact ended unanswered rfl [] []
    · exact .nil
  · exact .nil

theorem orderly_operation {operation : Operation} {writing : Writing}
    (written : b.operationWriting? config operation = some writing) :
    Page.Orderly writing.entries := by
  have line (text : String) : Page.Orderly [.line (b.now config) text] :=
    Page.orderly_lines (b.now config) [text]
  unfold operationWriting? at written
  cases operation with
  | launch code token language =>
      obtain ⟨record, -, rfl⟩ := Option.map_eq_some_iff.mp written
      exact (Page.orderly_created _).append (line _)
  | update bot code token language =>
      obtain ⟨record, -, rfl⟩ := Option.map_eq_some_iff.mp written
      exact (line _).append Page.orderly_cleared
  | restart bot =>
      obtain ⟨record, -, rfl⟩ := Option.map_eq_some_iff.mp written
      exact (line _).append Page.orderly_cleared
  | stop bot =>
      obtain ⟨record, -, rfl⟩ := Option.map_eq_some_iff.mp written
      exact line _
  | delete bot =>
      obtain ⟨deleted, -, rfl⟩ := Option.map_eq_some_iff.mp written
      exact Page.orderly_removed
  | shutdown => contradiction
  | send bot text =>
      obtain rfl := Option.some.inj written
      exact orderly_turnEntries config b bot text
  | press bot button =>
      dsimp only at written
      split at written
      · obtain rfl := Option.some.inj written
        exact orderly_turnEntries config b bot _
      · contradiction

theorem orderly_routine {routine : Routine} {writing : Writing}
    (written : b.routineWriting? config routine = some writing) :
    Page.Orderly writing.entries := by
  have ticked (bot : Int) : Page.Orderly (b.tickEntries config bot) := by
    unfold tickEntries
    split
    · split
      · split
        · exact Page.orderly_lines (b.now config) [haltLine]
        · exact Page.orderly_lines (b.now config) [_]
      · exact .nil
    · exact .nil
  have told (bot generation : Int) :
      Page.Orderly (b.sequenceEntries config bot generation routine) := by
    unfold sequenceEntries
    split
    · split
      · exact Page.orderly_lines (b.now config) _
      · exact .nil
    · exact .nil
  unfold routineWriting? at written
  split at written
  · obtain rfl := Option.some.inj written
    exact ticked _
  · obtain ⟨owner, -, rfl⟩ := Option.map_eq_some_iff.mp written
    exact told owner.1 owner.2

theorem orderly_writing {move : Move} {writing : Writing}
    (written : b.writing? config move = some writing) : Page.Orderly writing.entries := by
  unfold writing? at written
  split at written
  · exact orderly_operation written
  · obtain ⟨pair, -, written⟩ := Option.bind_eq_some_iff.mp written
    exact orderly_routine written

/-! ## Runs -/

/-- The records of a bench show windows of annals that are in order. -/
structure Chronicled (config : Config) (b : Bench) (writings : List Writing) : Prop where
  page : ∀ id, b.page? id = (annals? id writings).map (Page.windowed config.settings)
  order : ∀ id page, annals? id writings = some page → page.InOrder

theorem Chronicled.step {writings : List Writing} (chronicled : Chronicled config b writings)
    (fresh : b.registry.find? b.registry.nextId = none) (move : Move) :
    Chronicled config (b.step config move) (writings ++ (b.writing? config move).toList) := by
  refine ⟨?_, ?_⟩
  · intro id
    rw [annals?_append]
    exact step_shows config fresh move id _ (chronicled.page id)
  · intro id
    rw [annals?_append]
    cases written : b.writing? config move with
    | none => exact chronicled.order id
    | some writing =>
        rw [Option.toList_some, entriesAbout_singleton]
        split
        · exact orderly_writing written _ (chronicled.order id)
        · exact chronicled.order id

theorem chronicled_run (config : Config) {b : Bench} {before : List Writing}
    (sound : b.view.Sound config.settings.minTokenPrefix)
    (chronicled : Chronicled config b before) (moves : List Move) :
    Chronicled config (b.run config moves) (before ++ b.writings config moves) := by
  induction moves generalizing b before with
  | nil => simpa [writings, chronicle] using chronicled
  | cons move moves ih =>
      have fresh := view_eq_none_iff.mp sound.record_nextId
      have rest := ih (sound_step sound move) (chronicled.step fresh move)
      rw [List.append_assoc] at rest
      exact rest

/-- **Logs and transcripts are windows of the annals.** At every point of every run, the log of a
bot that is there shows the last lines of its annals and the transcript the last messages, as many
as the settings ask for, and all of them where a limit is not positive. The annals of the bot begin
with the line of its creation, and its messages are turns: each a user's message, and perhaps a
bot's one that answers it. In the transcript, a message of the bot that is not the first one stands
right behind a message of the user. -/
theorem records_show_windows (config : Config) (draws : Draws) (moves : List Move) (id : Int)
    (record : Record)
    (found : ((opening draws).run config moves).registry.find? id = some record) :
    ∃ page, annals? id ((opening draws).writings config moves) = some page ∧
      record.logs = window config.settings.logLimit page.logs ∧
      record.messages = window config.settings.transcriptLimit page.messages ∧
      (∃ time lines, page.logs = stamped time "Bot created." :: lines) ∧
      (∃ turns : List Turn, page.messages = turns.flatMap Turn.messages) ∧
      ∀ place message, record.messages[place + 1]? = some message → message.sender = .bot →
        ∃ asked, record.messages[place]? = some asked ∧ asked.sender = .user := by
  have start : Chronicled config (opening draws) [] :=
    ⟨fun _ => rfl, fun _ _ none => by contradiction⟩
  have chronicled := chronicled_run config (.opening draws) start moves
  rw [List.nil_append] at chronicled
  have shown := chronicled.page id
  unfold page? at shown
  rw [found, Option.map_some, eq_comm, Option.map_eq_some_iff] at shown
  obtain ⟨page, written, same⟩ := shown
  obtain ⟨created, turns, spoken⟩ := chronicled.order id page written
  have messages : record.messages = window config.settings.transcriptLimit page.messages :=
    (congrArg Page.messages same).symm
  refine ⟨page, written, (congrArg Page.logs same).symm, messages, created, ⟨turns, spoken⟩, ?_⟩
  intro place message there bot
  -- the transcript is a tail of the turns, so that what precedes a message does so there, too
  obtain ⟨count, tail⟩ := window_eq_drop config.settings.transcriptLimit page.messages
  rw [messages, tail, spoken, List.getElem?_drop] at there ⊢
  obtain ⟨before, asked, behind, found, user⟩ := Turn.asked_before turns there bot
  have same : before = count + place := by omega
  rw [same] at found
  exact ⟨asked, found, user⟩

/-- A set-up with narrow windows and an engine that always says the same. -/
def narrow : Config :=
  { Config.silent with
    settings := { logLimit := 2, transcriptLimit := 3 }
    engine := fun _ _ _ _ => { answer := .ok (some { text := .str "hi" }) } }

/-- After two turns the transcript begins with the bot's message of the first one. -/
theorem records_show_windows_greeting :
    let moves := Move.firstLaunch ++ [.operate (.send 1 "/a"), .operate (.send 1 "/b")]
    let b := (opening (.ofLists [] [])).run narrow moves
    ∃ record, b.registry.find? 1 = some record ∧
      record.messages.map (·.sender) = [.bot, .user, .bot] ∧
      ∃ page, annals? 1 ((opening (.ofLists [] [])).writings narrow moves) = some page ∧
        record.logs = window 2 page.logs ∧ record.messages = window 3 page.messages := by
  intro moves b
  have present : (b.registry.find? 1).any (fun record =>
      record.messages.map (·.sender) == [.bot, .user, .bot]) = true := by
    decide +kernel
  cases found : b.registry.find? 1 with
  | none => simp [found] at present
  | some record =>
      rw [found] at present
      obtain ⟨page, written, logs, messages, -⟩ :=
        records_show_windows narrow (.ofLists [] []) moves 1 record found
      exact ⟨record, rfl, by simpa using present, page, written, logs, messages⟩

end Bench

end BotBench
