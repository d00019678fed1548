import BotBench.Proofs.Bench.View

/-! # The effect of an operation

What each operation of a user, each chat turn and each tick makes of the view. -/

namespace BotBench

/-- The record of a bot that has just been created. -/
def Record.newcomer (id : Int) (code token : String) (language : Language) : Record :=
  { id, name := s!"Bot #{id}", status := .stopped, code, token, language }

/-- The record after a user has stopped its bot: the next generation begins. -/
def Record.halted (record : Record) : Record :=
  { record with
    status := .stopped, cpuUsage := 0, ramUsage := 0, generation := record.generation + 1 }

/-- The record after a user has restarted its bot. -/
def Record.renewed (record : Record) : Record := { record.halted with messages := [] }

/-- The record after a user has updated its bot. -/
def Record.reconfigured (record : Record) (code token : String) (language : Language) : Record :=
  { record.renewed with code, token, language }

@[simp] theorem Record.status_halted (record : Record) : record.halted.status = .stopped := rfl

@[simp] theorem Record.status_renewed (record : Record) : record.renewed.status = .stopped := rfl

@[simp] theorem Record.status_reconfigured (record : Record) (code token : String)
    (language : Language) : (record.reconfigured code token language).status = .stopped := rfl

namespace Bench

/-! ## Records and queues side by side -/

@[simp] theorem registry_cancel (b : Bench) (id : Nat) : (b.cancel id).registry = b.registry := by
  unfold cancel
  split
  · rfl
  · split <;> rfl

@[simp] theorem registry_stopSequencer (b : Bench) (id : Int) :
    (b.stopSequencer id).registry = b.registry := by
  unfold stopSequencer
  split
  · exact registry_cancel ..
  · rfl

@[simp] theorem registry_stopTicker (b : Bench) (id : Int) :
    (b.stopTicker id).registry = b.registry := by
  unfold stopTicker
  split
  · exact registry_cancel ..
  · rfl

/-- A change of a bot that is there is accepted, and writes the changed record. -/
theorem update_spec (config : Config) {b : Bench} {id : Int} {changes : List Change}
    {record changed : Record} (found : b.registry.find? id = some record)
    (applied : Change.applyAll record changes = .ok changed) (line : String) :
    ∃ updated, b.update config id (some line) changes = .ok (updated, b.store id updated) ∧
      updated.unlogged = changed.unlogged ∧
      (b.store id updated).view = b.view.write id changed.unlogged := by
  refine ⟨_, update_of_find? found applied, Record.unlogged_logs .., ?_⟩
  rw [view_store found, Record.unlogged_logs]

/-- A change of a bot that is there, on a bench that differs from another one only in what the view
leaves out. -/
theorem view_after_update (config : Config) {b b' : Bench} {id : Int} {changes : List Change}
    {record changed : Record} (records : b'.registry = b.registry) (same : b'.view = b.view)
    (found : b.registry.find? id = some record)
    (applied : Change.applyAll record changes = .ok changed) (line : String) :
    (b'.after (b'.update config id (some line) changes)).view =
      b.view.write id changed.unlogged := by
  rw [← records] at found
  obtain ⟨updated, accepted, -, written⟩ := update_spec config found applied line
  rw [accepted, ← same]
  exact written

/-! ## Lifecycle operations -/

theorem interrupt_of_find? {b : Bench} {id : Int} {record : Record}
    (found : b.registry.find? id = some record) :
    b.interrupt id = .ok (record.generation + 1, (b.stopSequencer id).stopTicker id) := by
  unfold interrupt
  rw [Registry.get_of_find? found]
  rfl

theorem interrupt_of_missing {b : Bench} {id : Int} (missing : b.registry.find? id = none) :
    b.interrupt id = .error (.unknownBot id) := by
  unfold interrupt
  rw [Registry.get_of_missing missing]
  rfl

theorem view_interrupted (b : Bench) (id : Int) :
    ((b.stopSequencer id).stopTicker id).view = b.view.interrupt id := by
  rw [view_stopTicker, view_stopSequencer]
  rfl

theorem find?_interrupted (b : Bench) (id other : Int) :
    ((b.stopSequencer id).stopTicker id).registry.find? other = b.registry.find? other := by
  rw [registry_stopTicker, registry_stopSequencer]

/-- A stop that is accepted ends what is pending and halts the bot. -/
theorem stop_ok {config : Config} {b b' : Bench} {id : Int} {answer : Record}
    (done : b.stop config id = .ok (answer, b')) :
    ∃ record, b.registry.find? id = some record ∧ answer.unlogged = record.unlogged.halted ∧
      b'.view = (b.view.interrupt id).write id record.unlogged.halted := by
  unfold stop at done
  cases found : b.registry.find? id with
  | none => simp [interrupt_of_missing found, bind, Except.bind] at done
  | some record =>
      rw [interrupt_of_find? found] at done
      simp only [bind, Except.bind] at done
      have applied : Change.applyAll record [.status .stopped, .cpuUsage 0, .ramUsage 0,
          .generation (record.generation + 1)] = .ok record.halted := rfl
      have kept : (((b.stopSequencer id).stopTicker id).note .info
          s!"Stopping bot {id}").registry.find? id = some record :=
        (find?_interrupted b id id).trans found
      obtain ⟨updated, same, face, after⟩ :=
        update_spec config kept applied "Bot stopped by user."
      rw [same, Except.ok.injEq, Prod.mk.injEq] at done
      obtain ⟨rfl, rfl⟩ := done
      refine ⟨record, rfl, face, ?_⟩
      rw [after, ← view_interrupted]
      rfl

/-- A restart that is accepted ends what is pending and schedules a redeployment of the renewed
bot. -/
theorem restart_ok {config : Config} {b b' : Bench} {id : Int} {answer : Record}
    (done : b.restart config id = .ok (answer, b')) :
    ∃ record, b.registry.find? id = some record ∧ answer.unlogged = record.unlogged.renewed ∧
      b'.view = ((b.view.interrupt id).write id record.unlogged.renewed).schedule id
        (.redeploy id (record.generation + 1) none false) := by
  unfold restart at done
  cases found : b.registry.find? id with
  | none => simp [interrupt_of_missing found, bind, Except.bind] at done
  | some record =>
      rw [interrupt_of_find? found] at done
      simp only [bind, Except.bind] at done
      have applied : Change.applyAll record [.status .stopped, .cpuUsage 0, .ramUsage 0,
          .messages [], .generation (record.generation + 1)] = .ok record.renewed := rfl
      have kept := (find?_interrupted b id id).trans found
      obtain ⟨updated, same, face, after⟩ := update_spec config kept applied "Restarting bot..."
      rw [same] at done
      simp only [pure, Except.pure, Except.ok.injEq, Prod.mk.injEq] at done
      obtain ⟨rfl, rfl⟩ := done
      refine ⟨record, rfl, face, ?_⟩
      rw [view_schedule, ← view_interrupted]
      exact congrArg (View.schedule · id _) after

/-- An update that is accepted ends what is pending and schedules a redeployment of the bot in its
new configuration. -/
theorem updateBot_ok {config : Config} {b b' : Bench} {id : Int} {code token : String}
    {language : Json} {answer : Record}
    (done : b.updateBot config id code token language = .ok (answer, b')) :
    ∃ record named, b.registry.find? id = some record ∧ Language.ofJson language = .ok named ∧
      answer.unlogged = record.unlogged.reconfigured code token named ∧
      b'.view = ((b.view.interrupt id).write id
        (record.unlogged.reconfigured code token named)).schedule id
          (.redeploy id (record.generation + 1) (some "Redeploying with new configuration...")
            false) := by
  unfold updateBot at done
  cases required : requireToken token with
  | error refusal => simp [required, bind, Except.bind] at done
  | ok accepted =>
      cases name : Language.ofJson language with
      | error refusal => simp [required, name, bind, Except.bind] at done
      | ok named =>
          cases found : b.registry.find? id with
          | none => simp [required, name, interrupt_of_missing found, bind, Except.bind] at done
          | some record =>
              simp only [required, name, interrupt_of_find? found, bind, Except.bind] at done
              have applied : Change.applyAll record [.code code, .token token, .language named,
                  .status .stopped, .cpuUsage 0, .ramUsage 0, .messages [],
                  .generation (record.generation + 1)] =
                  .ok (record.reconfigured code token named) := rfl
              have kept := (find?_interrupted b id id).trans found
              obtain ⟨updated, same, face, after⟩ :=
                update_spec config kept applied "Bot update initiated..."
              rw [same] at done
              simp only [pure, Except.pure, Except.ok.injEq, Prod.mk.injEq] at done
              obtain ⟨rfl, rfl⟩ := done
              refine ⟨record, named, rfl, rfl, face, ?_⟩
              rw [view_schedule, ← view_interrupted]
              exact congrArg (View.schedule · id _) after

/-- The registry with a new bot. -/
theorem view_create {b : Bench} (fresh : b.registry.find? b.registry.nextId = none) (time : Int)
    (code token : String) (language : Language) :
    { b with registry := (b.registry.create time code token language).2 }.view =
      b.view.enter (.newcomer b.view.nextId code token language) := by
  ext1
  case record =>
    funext other
    change ((b.registry.create time code token language).2.find? other).map Record.unlogged = _
    rw [Registry.find?_create]
    by_cases same : other = b.registry.nextId
    · subst same
      rw [fresh]
      simp only [View.enter, view, Option.none_or, ↓reduceIte, Option.map_some]
      rw [Function.update_self]
      rfl
    · simp [same, View.enter, view]
  all_goals rfl

/-- A launch that is accepted gives the next number to a new bot and schedules its sequence. -/
theorem launch_ok {config : Config} {b b' : Bench} {code token : String} {language : Json}
    {answer : Record} (fresh : b.registry.find? b.registry.nextId = none)
    (done : b.launch config code token language = .ok (answer, b')) :
    ∃ named, Language.ofJson language = .ok named ∧
      answer.unlogged = .newcomer b.view.nextId code token named ∧
      b'.view = (b.view.enter (.newcomer b.view.nextId code token named)).schedule b.view.nextId
        (.connect b.view.nextId 0 .attempt) := by
  unfold launch at done
  cases required : requireToken token with
  | error refusal => simp [required, bind, Except.bind] at done
  | ok accepted =>
      cases name : Language.ofJson language with
      | error refusal => simp [required, name, bind, Except.bind] at done
      | ok named =>
          simp only [required, name, bind, Except.bind, appendLog] at done
          have entered := view_create fresh (b.now config) code token named
          have placed : (b.registry.create (b.now config) code token named).2.find?
              b.registry.nextId = some (b.registry.create (b.now config) code token named).1 := by
            rw [Registry.find?_create, fresh]
            simp
          have face : (b.registry.create (b.now config) code token named).1.unlogged =
              .newcomer b.view.nextId code token named := rfl
          have numbered : (b.registry.create (b.now config) code token named).1.id =
              b.view.nextId := rfl
          have first : (b.registry.create (b.now config) code token named).1.generation = 0 := rfl
          generalize b.registry.create (b.now config) code token named = created
            at done entered placed face numbered first
          obtain ⟨record, registry⟩ := created
          dsimp only at done entered placed face numbered first
          have applied : Change.applyAll record [] = .ok record := rfl
          have kept : ({ b with registry }.note .info ("Launching " ++ record.name)).registry.find?
              record.id = some record := by
            rw [numbered]
            exact placed
          obtain ⟨updated, same, unlogged, after⟩ :=
            update_spec config kept applied "Deployment initiated..."
          rw [same] at done
          simp only [pure, Except.pure, Except.ok.injEq, Prod.mk.injEq] at done
          obtain ⟨rfl, rfl⟩ := done
          refine ⟨named, rfl, unlogged.trans face, ?_⟩
          have noted : ({ b with registry }.note .info ("Launching " ++ record.name)).view =
              b.view.enter (.newcomer b.view.nextId code token named) := entered
          have id : updated.id = b.view.nextId := (congrArg Record.id unlogged).trans numbered
          have generation : updated.generation = 0 :=
            (congrArg Record.generation unlogged).trans first
          rw [view_schedule, after, id, generation, numbered, face, noted]
          rw [View.write_self (Function.update_self ..)]

/-- A deletion that is accepted ends what is pending and takes the bot away. -/
theorem delete_ok {b b' : Bench} {id : Int} (done : b.delete id = .ok b') :
    ∃ record, b.registry.find? id = some record ∧
      b'.view = (b.view.interrupt id).erase id := by
  unfold delete at done
  cases found : b.registry.find? id with
  | none => simp [interrupt_of_missing found, bind, Except.bind] at done
  | some record =>
      rw [interrupt_of_find? found] at done
      simp only [bind, Except.bind] at done
      have kept := (find?_interrupted b id id).trans found
      rw [Registry.remove_eq_ok_iff.mpr ⟨kept, rfl⟩] at done
      simp only [pure, Except.pure, Except.ok.injEq] at done
      subst done
      refine ⟨record, rfl, ?_⟩
      rw [← view_interrupted]
      ext1
      case record =>
        funext other
        change ( entry? (eraseEntry _ id) other).map Record.unlogged = _
        rw [entry?_eraseEntry]
        by_cases same : other = id
        · simp [same, View.erase]
        · simp only [same, ↓reduceIte, View.erase, ne_eq, not_false_eq_true, Function.update_of_ne]
          rfl
      all_goals rfl

theorem view_cancelAll (b : Bench) (tasks : List Nat) :
    (tasks.foldl cancel b).view =
      { b.view with acting := fun task => if task ∈ tasks then none else b.view.acting task } := by
  induction tasks generalizing b with
  | nil => simp
  | cons first rest ih =>
      rw [List.foldl_cons, ih, view_cancel]
      ext1
      case acting =>
        funext task
        by_cases same : task = first
        · simp [same, View.proceed]
        · simp [same, View.proceed]
      all_goals rfl

theorem tickers_cancelAll (b : Bench) (tasks : List Nat) :
    (tasks.foldl cancel b).tickers = b.tickers := by
  induction tasks generalizing b with
  | nil => rfl
  | cons first rest ih =>
      rw [List.foldl_cons, ih]
      unfold cancel
      split
      · rfl
      · split <;> rfl

theorem view_stopTickers (b : Bench) (ids : List Int) :
    (ids.foldl stopTicker b).view = ids.foldl View.dropTicker b.view := by
  induction ids generalizing b with
  | nil => rfl
  | cons first rest ih => rw [List.foldl_cons, ih, view_stopTicker, List.foldl_cons]

theorem mem_map_of_entry {α : Type} {table : List (Int × α)} {key : Int} {value : α}
    (found : entry? table key = some value) :
    key ∈ table.map (·.1) ∧ value ∈ table.map (·.2) := by
  obtain ⟨entry, present, rfl⟩ := Option.map_eq_some_iff.mp found
  have member := List.mem_of_find?_eq_some present
  have same : entry.1 = key := by simpa using List.find?_some present
  exact ⟨List.mem_map.mpr ⟨entry, member, same⟩, List.mem_map.mpr ⟨entry, member, rfl⟩⟩

/-- A shutdown empties both tables, and what had stood in one of them has nothing more to do. -/
theorem view_shutdown (b : Bench) :
    ∃ acting, b.shutdown.view =
        { b.view with sequencer := fun _ => none, ticker := fun _ => none, acting } ∧
      ∀ task routine, acting task = some routine → b.view.acting task = some routine ∧
        ∀ id, b.view.sequencer id ≠ some task ∧ b.view.ticker id ≠ some task := by
  let cancelled : Bench := (b.sequencers.map (·.2)).foldl cancel b
  have quiet : ({ cancelled with sequencers := [] } : Bench).view =
      { b.view with
        sequencer := fun _ => none
        acting := fun task =>
          if task ∈ b.sequencers.map (·.2) then none else b.view.acting task } := by
    have same := view_cancelAll b (b.sequencers.map (·.2))
    ext1
    case record => exact (congrArg View.record same :)
    case nextId => exact (congrArg View.nextId same :)
    case sequencer => rfl
    case ticker => exact (congrArg View.ticker same :)
    case acting => exact (congrArg View.acting same :)
    case count => exact (congrArg View.count same :)
  have stopped : b.shutdown.view = (b.tickers.map (·.1)).foldl View.dropTicker
      ({ cancelled with sequencers := [] } : Bench).view := by
    rw [← view_stopTickers, ← tickers_cancelAll b (b.sequencers.map (·.2))]
    rfl
  obtain ⟨acting, same, spared⟩ := View.foldl_dropTicker (b.tickers.map (·.1))
    ({ cancelled with sequencers := [] } : Bench).view
  refine ⟨acting, ?_, ?_⟩
  · rw [stopped, same, quiet]
    ext1
    case ticker =>
      funext id
      dsimp only
      split
      · rfl
      · rename_i absent
        cases entry : b.view.ticker id with
        | none => rfl
        | some task => exact absurd (mem_map_of_entry entry).1 absent
    all_goals rfl
  · intro task routine left
    obtain ⟨before, apart⟩ := spared task routine left
    rw [quiet] at before apart
    dsimp only at before apart
    split at before
    · contradiction
    · rename_i absent
      refine ⟨before, ?_⟩
      intro id
      refine ⟨fun entry => absent (mem_map_of_entry entry).2, fun entry => ?_⟩
      exact apart id (mem_map_of_entry entry).1 entry

/-! ## Chat turns -/

theorem converses_appendMessage (config : Config) {b : Bench} {id : Int} {seen : Record}
    (found : b.view.record id = some seen) (message : Message) :
    View.Converses id b.view (b.after (b.appendMessage config id message)).view :=
  ⟨seen, _, found, view_appendMessage config found message⟩

theorem converses_concludeTurn (config : Config) {b : Bench} {id : Int} {seen : Record}
    (found : b.view.record id = some seen) (message : Option Message) (line : String)
    (lineFirst : Bool) :
    View.Converses id b.view (b.concludeTurn config id message line lineFirst).view := by
  unfold concludeTurn
  cases lineFirst with
  | true =>
      have kept := view_appendLines config b id [line]
      cases message with
      | none =>
          change View.Converses id b.view (b.appendLines config id [line]).view
          rw [kept]
          exact .refl found
      | some message =>
          rw [← kept] at found ⊢
          exact converses_appendMessage config found message
  | false =>
      dsimp only
      rw [if_neg (by simp), view_appendLines]
      cases message with
      | none => exact .refl found
      | some message => exact converses_appendMessage config found message

/-- A chat turn changes at most the transcript of a running bot. -/
theorem view_send (config : Config) (b : Bench) (id : Int) (text : String) :
    (b.send config id text).1.view = b.view ∨
      (∃ record, b.view.record id = some record ∧ record.status = .running) ∧
        View.Converses id b.view (b.send config id text).1.view := by
  unfold send
  cases found : b.registry.find? id with
  | none =>
      rw [Registry.get_of_missing found]
      exact .inl rfl
  | some record =>
      rw [Registry.get_of_find? found]
      dsimp only
      split
      · exact .inl rfl
      · rename_i running
        have status : record.status = .running := by simpa using running
        refine .inr ⟨⟨record.unlogged, view_of_find? found, status⟩, ?_⟩
        have asked : View.Converses id b.view ((b.after (b.appendMessage config id
            { sender := .user, text := .str text })).appendLines config id
              (openingLines record.language text)).view := by
          rw [view_appendLines]
          exact converses_appendMessage config (view_of_find? found) _
        generalize (b.after (b.appendMessage config id _)).appendLines config id
          (openingLines record.language text) = opened at asked ⊢
        obtain ⟨seen, there⟩ := asked.found
        have conclude (b' : Bench) (same : b'.view = opened.view) (message : Option Message)
            (line : String) (lineFirst : Bool) :
            View.Converses id b.view (b'.concludeTurn config id message line lineFirst).view := by
          rw [← same] at asked there
          exact asked.trans (converses_concludeTurn config there message line lineFirst)
        split
        · exact conclude _ (by rfl) _ _ _
        · exact asked
        · exact conclude _ (by rfl) _ _ _
        · exact conclude _ (by rfl) _ _ _

/-! ## Ticks -/

/-- A tick lets a running bot fail, gives it new usage figures, or finds no running bot. -/
theorem tick_cases (config : Config) (b : Bench) (id : Int) :
    (∃ record cpu ram, b.view.record id = some record ∧ record.status = .running ∧
        (b.tick config id).1 = true ∧
        (b.tick config id).2.view =
          b.view.write id { record with cpuUsage := cpu, ramUsage := ram }) ∨
      (∃ record, b.view.record id = some record ∧ record.status = .running ∧
        (b.tick config id).1 = false ∧
        (b.tick config id).2.view = b.view.write id { record with status := .error }) ∨
      ((∀ record, b.view.record id = some record → record.status ≠ .running) ∧
        (b.tick config id).1 = false ∧ (b.tick config id).2.view = b.view) := by
  unfold tick
  cases found : b.registry.find? id with
  | none =>
      refine .inr (.inr ⟨?_, rfl, rfl⟩)
      intro record present
      rw [view_eq_none_iff.mpr found] at present
      contradiction
  | some record =>
      have seen := view_of_find? found
      dsimp only
      split
      · rename_i idle
        refine .inr (.inr ⟨?_, rfl, rfl⟩)
        intro other present
        rw [seen, Option.some.injEq] at present
        subst present
        have other : record.status ≠ .running := by simpa using idle
        exact other
      · rename_i running
        have status : record.status = .running := by simpa using running
        split
        · have applied : Change.applyAll record [.status .error] =
              .ok { record with status := .error } := rfl
          exact .inr (.inl ⟨record.unlogged, seen, status, rfl,
            view_after_update config (by rfl) (by rfl) found applied haltLine⟩)
        · have applied (cpu ram : Rat) : Change.applyAll record [.cpuUsage cpu, .ramUsage ram] =
              .ok { record with cpuUsage := cpu, ramUsage := ram } := rfl
          exact .inl ⟨record.unlogged, _, _, seen, status, rfl,
            view_after_update config (by rfl) (by rfl) found (applied _ _) _⟩

end Bench

end BotBench
