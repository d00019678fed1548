import BotBench.Proofs.Bench.Effect

/-! # Refused requests leave no trace

The operations of the bench and of its registry answer with a new bench or with a refusal. Here they
are taken apart into the steps that they make one after the other on a bench that changes in place:
a check that fails ends the procedure, and what has been changed before stays changed. The steps
come to the same (`BotBench.Bench.refused_request_leaves_no_trace`): whatever is wrong with a
request is found before its first change, so that a refused request leaves the whole bench as it
was, and a request is refused for the causes that `BotBench.Bench.Request.refusal?` lists and for no
others. -/

namespace BotBench

open Text

namespace Bench

variable {α β : Type} {config : Config} {b : Bench}

/-! ## Causes of a refusal -/

/-- A blank token is refused. -/
def tokenRefusal? (token : String) : Option Refusal :=
  if isAllBlank token then some .blankToken else none

/-- What names neither of the two languages is refused. -/
def languageRefusal? (given : Json) : Option Refusal :=
  match given with
  | .str "python" | .str "javascript" => none
  | _ => some (.unknownLanguage given)

/-- A bot that is not there is refused. -/
def botRefusal? (registry : Registry) (bot : Int) : Option Refusal :=
  if (registry.find? bot).isNone then some (.unknownBot bot) else none

/-- The first field that no record has is refused. -/
def fieldRefusal? (changes : List Change) : Option Refusal :=
  changes.findSome? fun
    | .unknown field => some (.unknownField field)
    | _ => none

/-! ## Procedures -/

/-- A procedure changes the bench in place, and keeps what it has changed when it is refused. -/
abbrev Procedure (α : Type) : Type := EStateM Refusal Bench α

namespace Procedure

/-- Ask something of the bench that may be refused. -/
def ask (question : Bench → Except Refusal α) : Procedure α := fun b =>
  match question b with
  | .ok answer => .ok answer b
  | .error refusal => .error refusal b

/-- Create a record: the number is given out first. -/
def create (config : Config) (code token : String) (language : Language) : Procedure Record := do
  let id ← modifyGet fun b =>
    (b.registry.nextId, { b with registry := { b.registry with nextId := b.registry.nextId + 1 } })
  let time := (← get).now config
  let record := { Record.newcomer id code token language with
    logs := [stamped time "Bot created."] }
  modify fun b =>
    { b with registry := { b.registry with slots := b.registry.slots ++ [(id, record)] } }
  return record

/-- Take a record out of the registry. -/
def remove (bot : Int) : Procedure Record := do
  let record ← ask fun b => b.registry.get bot
  modify fun b =>
    { b with registry := { b.registry with slots := eraseEntry b.registry.slots bot } }
  return record

/-- Change a record and store it. -/
def change (config : Config) (bot : Int) (log : Option String) (changes : List Change) :
    Procedure Record := do
  let record ← ask fun b => b.registry.get bot
  let changed ← ask fun _ => Change.applyAll record changes
  let time := (← get).now config
  let updated :=
    match log with
    | some text =>
        { changed with
          logs := window config.settings.logLimit (record.logs ++ [stamped time text]) }
    | none => changed
  modify fun b => b.store bot updated
  return updated

/-- Write a line into the log of a bot. -/
def appendLog (config : Config) (bot : Int) (text : String) : Procedure Record :=
  change config bot (some text) []

/-- Append a message to the transcript of a bot, which is looked up twice. -/
def appendMessage (config : Config) (bot : Int) (message : Message) : Procedure Record := do
  let record ← ask fun b => b.registry.get bot
  change config bot none
    [.messages (window config.settings.transcriptLimit (record.messages ++ [message]))]

/-- End the sequence of a bot and then its ticker, and return the next generation. -/
def interrupt (bot : Int) : Procedure Int := do
  let record ← ask fun b => b.registry.get bot
  modify fun b => b.stopSequencer bot
  modify fun b => b.stopTicker bot
  return record.generation + 1

/-- Launch a new bot. -/
def launch (config : Config) (code token : String) (language : Json) : Procedure Record := do
  ask fun _ => requireToken token
  let language ← ask fun _ => Language.ofJson language
  let created ← create config code token language
  modify fun b => b.note .info ("Launching " ++ created.name)
  let record ← appendLog config created.id "Deployment initiated..."
  modify fun b => b.schedule record.id (.connect record.id record.generation .attempt)
  return record

/-- Give a bot a new source, token and language. -/
def update (config : Config) (bot : Int) (code token : String) (language : Json) :
    Procedure Record := do
  ask fun _ => requireToken token
  let language ← ask fun _ => Language.ofJson language
  let generation ← interrupt bot
  let record ← change config bot (some "Bot update initiated...")
    [.code code, .token token, .language language, .status .stopped, .cpuUsage 0, .ramUsage 0,
      .messages [], .generation generation]
  modify fun b => b.note .info ("Updating " ++ record.name)
  modify fun b => b.schedule bot
    (.redeploy bot generation (some "Redeploying with new configuration...") false)
  return record

/-- Deploy a bot anew as it is. -/
def restart (config : Config) (bot : Int) : Procedure Record := do
  let generation ← interrupt bot
  let record ← change config bot (some "Restarting bot...")
    [.status .stopped, .cpuUsage 0, .ramUsage 0, .messages [], .generation generation]
  modify fun b => b.note .info ("Restarting " ++ record.name)
  modify fun b => b.schedule bot (.redeploy bot generation none false)
  return record

/-- Stop a bot. -/
def stop (config : Config) (bot : Int) : Procedure Record := do
  let generation ← interrupt bot
  modify fun b => b.note .info s!"Stopping bot {bot}"
  change config bot (some "Bot stopped by user.")
    [.status .stopped, .cpuUsage 0, .ramUsage 0, .generation generation]

/-- Delete a bot. -/
def delete (bot : Int) : Procedure Unit := do
  let _ ← interrupt bot
  let record ← remove bot
  modify fun b => b.note .info ("Deleted " ++ record.name)

theorem bind_of_ok {first : Procedure α} {next : α → Procedure β} {answer : α} {b b' : Bench}
    (done : first.run b = .ok answer b') : (first >>= next).run b = (next answer).run b' := by
  change EStateM.bind first next b = _
  unfold EStateM.bind
  change first b = _ at done
  rw [done]
  rfl

theorem bind_of_error {first : Procedure α} {next : α → Procedure β} {refusal : Refusal}
    {b b' : Bench} (refused : first.run b = .error refusal b') :
    (first >>= next).run b = .error refusal b' := by
  change EStateM.bind first next b = _
  unfold EStateM.bind
  change first b = _ at refused
  rw [refused]

theorem ask_of_ok {question : Bench → Except Refusal α} {answer : α} {b : Bench}
    (granted : question b = .ok answer) : (ask question).run b = .ok answer b := by
  change ask question b = _
  unfold ask
  rw [granted]

theorem ask_of_error {question : Bench → Except Refusal α} {refusal : Refusal} {b : Bench}
    (refused : question b = .error refusal) : (ask question).run b = .error refusal b := by
  change ask question b = _
  unfold ask
  rw [refused]

end Procedure

/-! ## Procedures that leave no trace -/

/-- A procedure agrees with an answer of the bench. Where there is a cause, both are refused for it
and the procedure leaves the bench as it was; where there is none, both come to the same. -/
def Traceless (b : Bench) (procedure : Procedure α) (outcome : Except Refusal (α × Bench))
    (cause : Option Refusal) : Prop :=
  match cause with
  | some refusal => procedure.run b = .error refusal b ∧ outcome = .error refusal
  | none => ∃ answer b', procedure.run b = .ok answer b' ∧ outcome = .ok (answer, b')

theorem Traceless.map {procedure : Procedure α} {outcome : Except Refusal (α × Bench)}
    {cause : Option Refusal} (agrees : b.Traceless procedure outcome cause) (f : α → β) :
    b.Traceless (f <$> procedure) (outcome.map fun (answer, b') => (f answer, b')) cause := by
  change b.Traceless (procedure >>= fun answer => pure (f answer)) _ cause
  cases cause with
  | some refusal =>
      obtain ⟨refused, rfl⟩ := agrees
      exact ⟨Procedure.bind_of_error refused, rfl⟩
  | none =>
      obtain ⟨answer, b', done, rfl⟩ := agrees
      exact ⟨f answer, b', Procedure.bind_of_ok done, rfl⟩

/-- What a procedure asks first is asked before anything has been changed. -/
theorem Traceless.ask {question : Bench → Except Refusal α} {next : α → Procedure β}
    {rest : α → Except Refusal (β × Bench)} {first later : Option Refusal}
    (refused : ∀ refusal, first = some refusal → question b = .error refusal)
    (granted : first = none → ∃ answer, question b = .ok answer ∧
      b.Traceless (next answer) (rest answer) later) :
    b.Traceless (Procedure.ask question >>= next) (question b >>= rest) (first.or later) := by
  cases first with
  | some refusal =>
      have missed := refused refusal rfl
      exact ⟨Procedure.bind_of_error (Procedure.ask_of_error missed), by rw [missed]; rfl⟩
  | none =>
      obtain ⟨answer, found, agrees⟩ := granted rfl
      have same : (Procedure.ask question >>= next).run b = (next answer).run b :=
        Procedure.bind_of_ok (Procedure.ask_of_ok found)
      have follows : (question b >>= rest) = rest answer := by rw [found]; rfl
      change b.Traceless _ _ later
      unfold Traceless at agrees ⊢
      rw [same, follows]
      exact agrees

/-! ## Checks -/

theorem requireToken_of_refusal {token : String} {refusal : Refusal}
    (cause : tokenRefusal? token = some refusal) : requireToken token = .error refusal := by
  unfold tokenRefusal? at cause
  unfold requireToken
  split at cause
  · rename_i blank
    rw [if_pos blank, Option.some.inj cause]
  · contradiction

theorem requireToken_of_none {token : String} (fine : tokenRefusal? token = none) :
    requireToken token = .ok () := by
  unfold tokenRefusal? at fine
  unfold requireToken
  split at fine
  · contradiction
  · rename_i spelled
    rw [if_neg spelled]

theorem ofJson_of_refusal {given : Json} {refusal : Refusal}
    (cause : languageRefusal? given = some refusal) : Language.ofJson given = .error refusal := by
  unfold languageRefusal? at cause
  split at cause
  · contradiction
  · contradiction
  · rename_i python javascript
    rw [← Option.some.inj cause]
    unfold Language.ofJson
    split
    · rename_i name
      have unnamed : Language.ofName? name = none := by
        unfold Language.ofName?
        rw [if_neg, if_neg]
        · simpa using fun same => javascript (congrArg Json.str same)
        · simpa using fun same => python (congrArg Json.str same)
      rw [unnamed]
    · rfl

theorem ofJson_of_none {given : Json} (fine : languageRefusal? given = none) :
    ∃ language, Language.ofJson given = .ok language := by
  unfold languageRefusal? at fine
  split at fine
  · exact ⟨.python, rfl⟩
  · exact ⟨.javascript, rfl⟩
  · contradiction

theorem get_of_refusal {bot : Int} {refusal : Refusal}
    (cause : botRefusal? b.registry bot = some refusal) :
    b.registry.get bot = .error refusal := by
  unfold botRefusal? at cause
  split at cause
  · rename_i missing
    rw [Registry.get_of_missing (Option.isNone_iff_eq_none.mp missing), Option.some.inj cause]
  · contradiction

theorem find?_of_none {bot : Int} (fine : botRefusal? b.registry bot = none) :
    ∃ record, b.registry.find? bot = some record := by
  unfold botRefusal? at fine
  split at fine
  · contradiction
  · rename_i found
    exact Option.ne_none_iff_exists'.mp (mt Option.isNone_iff_eq_none.mpr found)

theorem looked_up {bot : Int} {record : Record} (found : b.registry.find? bot = some record) :
    (Procedure.ask fun b => b.registry.get bot).run b = .ok record b :=
  Procedure.ask_of_ok (Registry.get_of_find? found)

theorem botRefusal?_of_find? {bot : Int} {record : Record}
    (found : b.registry.find? bot = some record) : botRefusal? b.registry bot = none := by
  unfold botRefusal?
  rw [found]
  rfl

/-- Changes are refused for the first field that no record has. -/
theorem applyAll_cases (changes : List Change) (record : Record) :
    match fieldRefusal? changes with
    | some refusal => Change.applyAll record changes = .error refusal
    | none => ∃ changed, Change.applyAll record changes = .ok changed := by
  induction changes generalizing record with
  | nil => exact ⟨record, rfl⟩
  | cons first rest ih =>
      cases first with
      | unknown field => rfl
      | _ => exact ih _

/-! ## Operations of the registry -/

theorem traceless_get (b : Bench) (bot : Int) :
    b.Traceless (Procedure.ask fun b => b.registry.get bot)
      ((b.registry.get bot).map fun record => (record, b)) (botRefusal? b.registry bot) := by
  cases cause : botRefusal? b.registry bot with
  | some refusal =>
      have refused := get_of_refusal cause
      exact ⟨Procedure.ask_of_error refused, by rw [refused]; rfl⟩
  | none =>
      obtain ⟨record, found⟩ := find?_of_none cause
      have granted := Registry.get_of_find? found
      exact ⟨record, b, Procedure.ask_of_ok granted, by rw [granted]; rfl⟩

theorem traceless_remove (b : Bench) (bot : Int) :
    b.Traceless (Procedure.remove bot)
      ((b.registry.remove bot).map fun (record, registry) => (record, { b with registry }))
      (botRefusal? b.registry bot) := by
  cases cause : botRefusal? b.registry bot with
  | some refusal =>
      have refused := get_of_refusal cause
      refine ⟨Procedure.bind_of_error (Procedure.ask_of_error refused), ?_⟩
      unfold Registry.remove
      rw [refused]
      rfl
  | none =>
      obtain ⟨record, found⟩ := find?_of_none cause
      have granted := looked_up found
      have removed := Registry.remove_eq_ok_iff.mpr ⟨found, rfl⟩
      exact ⟨record, _, Procedure.bind_of_ok granted, by rw [removed]; rfl⟩

theorem traceless_change (config : Config) (b : Bench) (bot : Int) (log : Option String)
    (changes : List Change) :
    b.Traceless (Procedure.change config bot log changes) (b.update config bot log changes)
      ((botRefusal? b.registry bot).or (fieldRefusal? changes)) := by
  have looked : b.update config bot log changes = (b.registry.get bot >>= fun record =>
      (Change.applyAll record changes >>= fun changed =>
        let updated :=
          match log with
          | some text =>
              { changed with
                logs := window config.settings.logLimit
                  (record.logs ++ [stamped (b.now config) text]) }
          | none => changed
        .ok (updated, b.store bot updated))) := by
    unfold update Registry.update
    cases b.registry.get bot with
    | error refusal => rfl
    | ok record =>
        simp only [bind, Except.bind]
        cases Change.applyAll record changes with
        | error refusal => rfl
        | ok changed => rfl
  rw [looked]
  unfold Procedure.change
  refine .ask (fun _ => get_of_refusal) fun present => ?_
  obtain ⟨record, found⟩ := find?_of_none present
  refine ⟨record, Registry.get_of_find? found, ?_⟩
  rw [← Option.or_none (o := fieldRefusal? changes)]
  have applied := applyAll_cases changes record
  refine .ask (fun refusal cause => ?_) fun fine => ?_
  · rw [cause] at applied
    exact applied
  · rw [fine] at applied
    obtain ⟨changed, applied⟩ := applied
    exact ⟨changed, applied, _, _, rfl, rfl⟩

theorem traceless_appendMessage (config : Config) (b : Bench) (bot : Int) (message : Message) :
    b.Traceless (Procedure.appendMessage config bot message) (b.appendMessage config bot message)
      (botRefusal? b.registry bot) := by
  have looked : b.appendMessage config bot message = (b.registry.get bot >>= fun record =>
      b.update config bot none
        [.messages (window config.settings.transcriptLimit (record.messages ++ [message]))]) := by
    unfold appendMessage Registry.appendMessage
    cases b.registry.get bot with
    | error refusal => rfl
    | ok record => rfl
  rw [looked, ← Option.or_none (o := botRefusal? b.registry bot)]
  unfold Procedure.appendMessage
  refine .ask (fun _ => get_of_refusal) fun present => ?_
  obtain ⟨record, found⟩ := find?_of_none present
  refine ⟨record, Registry.get_of_find? found, ?_⟩
  have changed := traceless_change config b bot none
    [.messages (window config.settings.transcriptLimit (record.messages ++ [message]))]
  rw [botRefusal?_of_find? found] at changed
  exact changed

/-- A change of a bot that is there is accepted when each of its fields is known. -/
theorem change_accepted (config : Config) {bot : Int} {record : Record}
    (found : b.registry.find? bot = some record) (log : Option String) (changes : List Change)
    (known : fieldRefusal? changes = none) :
    ∃ updated b', (Procedure.change config bot log changes).run b = .ok updated b' ∧
      b.update config bot log changes = .ok (updated, b') := by
  have agrees := traceless_change config b bot log changes
  rw [botRefusal?_of_find? found, known] at agrees
  exact agrees

/-! ## Lifecycle operations -/

/-- What begins by ending what is pending for a bot looks the bot up before that. -/
theorem Traceless.interrupt {bot : Int} {next : Int → Procedure β}
    {rest : Int × Bench → Except Refusal (β × Bench)}
    (accepted : ∀ record, b.registry.find? bot = some record →
      ∃ answer b', (next (record.generation + 1)).run ((b.stopSequencer bot).stopTicker bot) =
          .ok answer b' ∧
        rest (record.generation + 1, (b.stopSequencer bot).stopTicker bot) = .ok (answer, b')) :
    b.Traceless (Procedure.interrupt bot >>= next) (b.interrupt bot >>= rest)
      (botRefusal? b.registry bot) := by
  cases cause : botRefusal? b.registry bot with
  | some refusal =>
      have refused := get_of_refusal cause
      refine ⟨Procedure.bind_of_error
        (Procedure.bind_of_error (Procedure.ask_of_error refused)), ?_⟩
      unfold Bench.interrupt
      rw [refused]
      rfl
  | none =>
      obtain ⟨record, found⟩ := find?_of_none cause
      have granted := looked_up found
      have ended : (Procedure.interrupt bot).run b =
          .ok (record.generation + 1) ((b.stopSequencer bot).stopTicker bot) :=
        Procedure.bind_of_ok granted
      obtain ⟨answer, b', done, same⟩ := accepted record found
      refine ⟨answer, b', (Procedure.bind_of_ok ended).trans done, ?_⟩
      rw [interrupt_of_find? found]
      exact same

theorem traceless_stop (config : Config) (b : Bench) (bot : Int) :
    b.Traceless (Procedure.stop config bot) (b.stop config bot) (botRefusal? b.registry bot) := by
  refine .interrupt fun record found => ?_
  have kept := (find?_interrupted b bot bot).trans found
  exact change_accepted config
    (b := ((b.stopSequencer bot).stopTicker bot).note .info s!"Stopping bot {bot}") kept
    (some "Bot stopped by user.")
    [.status .stopped, .cpuUsage 0, .ramUsage 0, .generation (record.generation + 1)] rfl

theorem traceless_restart (config : Config) (b : Bench) (bot : Int) :
    b.Traceless (Procedure.restart config bot) (b.restart config bot)
      (botRefusal? b.registry bot) := by
  refine .interrupt fun record found => ?_
  have kept := (find?_interrupted b bot bot).trans found
  obtain ⟨updated, b', done, same⟩ := change_accepted config kept (some "Restarting bot...")
    [.status .stopped, .cpuUsage 0, .ramUsage 0, .messages [],
      .generation (record.generation + 1)] rfl
  refine ⟨updated, _, Procedure.bind_of_ok done, ?_⟩
  dsimp only
  rw [same]
  rfl

theorem traceless_update (config : Config) (b : Bench) (bot : Int) (code token : String)
    (language : Json) :
    b.Traceless (Procedure.update config bot code token language)
      (b.updateBot config bot code token language)
      ((tokenRefusal? token).or ((languageRefusal? language).or (botRefusal? b.registry bot))) := by
  refine .ask (fun _ => requireToken_of_refusal) fun spelled => ?_
  refine ⟨(), requireToken_of_none spelled, ?_⟩
  refine .ask (fun _ => ofJson_of_refusal) fun spoken => ?_
  obtain ⟨named, name⟩ := ofJson_of_none spoken
  refine ⟨named, name, .interrupt fun record found => ?_⟩
  have kept := (find?_interrupted b bot bot).trans found
  obtain ⟨updated, b', done, same⟩ := change_accepted config kept (some "Bot update initiated...")
    [.code code, .token token, .language named, .status .stopped, .cpuUsage 0, .ramUsage 0,
      .messages [], .generation (record.generation + 1)] rfl
  refine ⟨updated, _, Procedure.bind_of_ok done, ?_⟩
  dsimp only
  rw [same]
  rfl

theorem traceless_delete (b : Bench) (bot : Int) :
    b.Traceless (Procedure.delete bot) ((b.delete bot).map fun b' => ((), b'))
      (botRefusal? b.registry bot) := by
  have looked : ((b.delete bot).map fun b' => ((), b')) = (b.interrupt bot >>= fun ended =>
      (ended.2.registry.remove bot).map fun (record, registry) =>
        ((), { ended.2 with registry }.note .info ("Deleted " ++ record.name))) := by
    unfold delete
    cases b.interrupt bot with
    | error refusal => rfl
    | ok ended =>
        simp only [bind, Except.bind]
        cases ended.2.registry.remove bot with
        | error refusal => rfl
        | ok removed => rfl
  rw [looked]
  refine .interrupt fun record found => ?_
  have kept := (find?_interrupted b bot bot).trans found
  have granted := looked_up kept
  have removed : (Procedure.remove bot).run ((b.stopSequencer bot).stopTicker bot) = _ :=
    Procedure.bind_of_ok granted
  refine ⟨(), _, Procedure.bind_of_ok removed, ?_⟩
  dsimp only
  rw [Registry.remove_eq_ok_iff.mpr ⟨kept, rfl⟩]
  rfl

theorem traceless_launch (config : Config) (b : Bench) (code token : String) (language : Json) :
    b.Traceless (Procedure.launch config code token language)
      (b.launch config code token language)
      ((tokenRefusal? token).or (languageRefusal? language)) := by
  refine .ask (fun _ => requireToken_of_refusal) fun spelled => ?_
  refine ⟨(), requireToken_of_none spelled, ?_⟩
  rw [← Option.or_none (o := languageRefusal? language)]
  refine .ask (fun _ => ofJson_of_refusal) fun spoken => ?_
  obtain ⟨named, name⟩ := ofJson_of_none spoken
  refine ⟨named, name, ?_⟩
  have created : (Procedure.create config code token named).run b =
      .ok (b.registry.create (b.now config) code token named).1
        { b with registry := (b.registry.create (b.now config) code token named).2 } := rfl
  obtain ⟨record, placed⟩ : ∃ record,
      (b.registry.create (b.now config) code token named).2.find? b.registry.nextId =
        some record := by
    rw [Registry.find?_create, if_pos rfl]
    exact Option.isSome_iff_exists.mp (by simp)
  obtain ⟨updated, b', done, same⟩ := change_accepted config
    (b := { b with registry := (b.registry.create (b.now config) code token named).2 }.note .info
      ("Launching " ++ (b.registry.create (b.now config) code token named).1.name)) placed
    (some "Deployment initiated...") [] rfl
  refine ⟨updated, _, (Procedure.bind_of_ok created).trans (Procedure.bind_of_ok done), ?_⟩
  unfold appendLog
  dsimp only
  have first : (b.registry.create (b.now config) code token named).1.id = b.registry.nextId := rfl
  rw [first, same]
  rfl

/-! ## Requests -/

/-- A request to the bench or to its registry. -/
inductive Request
  | launch (code token : String) (language : Json)
  | update (bot : Int) (code token : String) (language : Json)
  | restart (bot : Int)
  | stop (bot : Int)
  | delete (bot : Int)
  | get (bot : Int)
  | remove (bot : Int)
  | change (bot : Int) (log : Option String) (changes : List Change)
  | appendLog (bot : Int) (text : String)
  | appendMessage (bot : Int) (message : Message)

namespace Request

/-- The procedure of a request. Each answers with a record but a deletion, which has no answer. -/
def perform (config : Config) : Request → Procedure (Option Record)
  | launch code token language => some <$> Procedure.launch config code token language
  | update bot code token language => some <$> Procedure.update config bot code token language
  | restart bot => some <$> Procedure.restart config bot
  | stop bot => some <$> Procedure.stop config bot
  | delete bot => (fun _ => none) <$> Procedure.delete bot
  | get bot => some <$> Procedure.ask fun b => b.registry.get bot
  | remove bot => some <$> Procedure.remove bot
  | change bot log changes => some <$> Procedure.change config bot log changes
  | appendLog bot text => some <$> Procedure.appendLog config bot text
  | appendMessage bot message => some <$> Procedure.appendMessage config bot message

/-- What the bench makes of a request: an answer and a new bench, or a refusal. -/
def outcome (config : Config) (b : Bench) : Request → Except Refusal (Option Record × Bench)
  | launch code token language =>
      (b.launch config code token language).map fun (record, b') => (some record, b')
  | update bot code token language =>
      (b.updateBot config bot code token language).map fun (record, b') => (some record, b')
  | restart bot => (b.restart config bot).map fun (record, b') => (some record, b')
  | stop bot => (b.stop config bot).map fun (record, b') => (some record, b')
  | delete bot => (b.delete bot).map fun b' => (none, b')
  | get bot => (b.registry.get bot).map fun record => (some record, b)
  | remove bot =>
      (b.registry.remove bot).map fun (record, registry) => (some record, { b with registry })
  | change bot log changes =>
      (b.update config bot log changes).map fun (record, b') => (some record, b')
  | appendLog bot text => (b.appendLog config bot text).map fun (record, b') => (some record, b')
  | appendMessage bot message =>
      (b.appendMessage config bot message).map fun (record, b') => (some record, b')

/-- Why a request is refused: for its token, else for its language, else for its bot, else for one
of its fields. -/
def refusal? (registry : Registry) : Request → Option Refusal
  | launch _ token language => (tokenRefusal? token).or (languageRefusal? language)
  | update bot _ token language =>
      (tokenRefusal? token).or ((languageRefusal? language).or (botRefusal? registry bot))
  | change bot _ changes => (botRefusal? registry bot).or (fieldRefusal? changes)
  | restart bot | stop bot | delete bot | get bot | remove bot | appendLog bot _
  | appendMessage bot _ => botRefusal? registry bot

end Request

theorem traceless_request (config : Config) (b : Bench) (request : Request) :
    b.Traceless (request.perform config) (request.outcome config b)
      (request.refusal? b.registry) := by
  have through {α β γ : Type} (outcome : Except Refusal α) (f : α → β) (g : β → γ) :
      (outcome.map f).map g = outcome.map fun answer => g (f answer) := by
    cases outcome <;> rfl
  cases request with
  | launch code token language => exact (traceless_launch config b code token language).map some
  | update bot code token language =>
      exact (traceless_update config b bot code token language).map some
  | restart bot => exact (traceless_restart config b bot).map some
  | stop bot => exact (traceless_stop config b bot).map some
  | delete bot =>
      have agrees := (traceless_delete b bot).map fun _ => (none : Option Record)
      rw [through] at agrees
      exact agrees
  | get bot =>
      have agrees := (traceless_get b bot).map some
      rw [through] at agrees
      exact agrees
  | remove bot =>
      have agrees := (traceless_remove b bot).map some
      rw [through] at agrees
      exact agrees
  | change bot log changes => exact (traceless_change config b bot log changes).map some
  | appendLog bot text =>
      have agrees := (traceless_change config b bot (some text) []).map some
      change b.Traceless _ _ ((botRefusal? b.registry bot).or none) at agrees
      rw [Option.or_none] at agrees
      exact agrees
  | appendMessage bot message => exact (traceless_appendMessage config b bot message).map some

/-- **Refused requests leave no trace.** On every bench, a request for whose refusal there is a
cause is refused for it, by the bench and step by step, and the steps leave the whole bench as it
was: the registry and the number it gives out next, the tasks and both tables. A request for whose
refusal there is no cause is accepted. A message to a bot that is not there leaves the bench as it
was, too. -/
theorem refused_request_leaves_no_trace (config : Config) (b : Bench) :
    (∀ (request : Request) (refusal : Refusal), request.refusal? b.registry = some refusal →
        (request.perform config).run b = .error refusal b ∧
          request.outcome config b = .error refusal) ∧
      (∀ request : Request, request.refusal? b.registry = none →
        ∃ answer b', (request.perform config).run b = .ok answer b' ∧
          request.outcome config b = .ok (answer, b')) ∧
      ∀ bot text, b.registry.find? bot = none →
        b.send config bot text = (b, .error (.refused (.unknownBot bot))) := by
  refine ⟨?_, ?_, ?_⟩
  · intro request refusal cause
    have agrees := traceless_request config b request
    rw [cause] at agrees
    exact agrees
  · intro request fine
    have agrees := traceless_request config b request
    rw [fine] at agrees
    exact agrees
  · intro bot text missing
    unfold send
    rw [Registry.get_of_missing missing]

/-- After the first launch the bot ticks, and goes on ticking when an update is refused that has a
blank token, names no language and means another bot. -/
theorem refused_request_leaves_no_trace_firstLaunch :
    let b := (opening (.ofLists [] [])).run .silent Move.firstLaunch
    let request : Request := .update 7 "print()" " " (.str "ruby")
    b.isTicking 1 = true ∧ request.refusal? b.registry = some .blankToken ∧
      (request.perform .silent).run b = .error .blankToken b ∧
      (Request.change 1 none [.code "", .unknown "owner"]).outcome .silent b =
        .error (.unknownField "owner") ∧
      (∃ answer b', ((Request.stop 1).perform .silent).run b = .ok answer b') ∧
      b.send .silent 7 "hi" = (b, .error (.refused (.unknownBot 7))) := by
  intro b request
  have missing : b.registry.find? 7 = none := by decide +kernel
  have found : (b.registry.find? 1).isNone = false := by decide +kernel
  have present : botRefusal? b.registry 1 = none := by
    unfold botRefusal?
    rw [found]
    rfl
  have blank : request.refusal? b.registry = some .blankToken := rfl
  have unknown : (Request.change 1 none [.code "", .unknown "owner"]).refusal? b.registry =
      some (.unknownField "owner") := by
    change (botRefusal? b.registry 1).or (some (.unknownField "owner")) = _
    rw [present]
    rfl
  obtain ⟨refused, accepted, unsent⟩ := refused_request_leaves_no_trace .silent b
  obtain ⟨answer, b', done, -⟩ := accepted (.stop 1) present
  exact ⟨by decide +kernel, blank, (refused request _ blank).1, (refused _ _ unknown).2,
    ⟨answer, b', done⟩, unsent 7 "hi" missing⟩

end Bench

end BotBench
