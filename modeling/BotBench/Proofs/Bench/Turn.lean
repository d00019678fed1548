import BotBench.Proofs.Bench.Effect
import BotBench.Proofs.Sandbox.Shape

/-! # Chat turns that come to no end

A chat turn with a running bot ends in a reply, in the note that there is none, or in a report of a
failure, provided that the engine's simulation is settled. It is not settled when the outcome of a
script cannot be read, and the turn then breaks off: the user's message is in the transcript and
nothing follows it (`BotBench.Bench.turn_ends_iff_readable`). -/

namespace BotBench

namespace Bench

/-- A turn with a running bot ends when its simulation is settled. Otherwise it breaks off behind
the user's message. -/
theorem send_of_running (config : Config) {b : Bench} {id : Int} {record : Record}
    (found : b.registry.find? id = some record) (running : record.status = .running)
    (text : String) :
    let simulation := config.engine record.language record.code record.token text
    ((∃ reply, (b.send config id text).2 = .ok reply) ↔ simulation.Settled) ∧
      (¬simulation.Settled →
        (∃ fault, (b.send config id text).2 = .error (.simulation fault)) ∧
          (b.send config id text).1.view = b.view.write id
            { record.unlogged with
              messages := window config.settings.transcriptLimit
                (record.messages ++ [{ sender := .user, text := .str text }]) }) := by
  intro simulation
  -- the engine is asked after the message and the opening lines have been written
  have asked : ((b.after (b.appendMessage config id
      { sender := .user, text := .str text })).appendLines config id
        (openingLines record.language text)).view = b.view.write id
          { record.unlogged with
            messages := window config.settings.transcriptLimit
              (record.messages ++ [{ sender := .user, text := .str text }]) } := by
    rw [view_appendLines]
    exact view_appendMessage config (view_of_find? found) _
  have awake : ¬(record.status != .running) = true := by simp [running]
  have read : config.engine record.language record.code record.token text = simulation := rfl
  unfold send Simulation.Settled
  rw [Registry.get_of_find? found]
  dsimp only
  rw [if_neg awake, read]
  generalize (b.after (b.appendMessage config id _)).appendLines config id
    (openingLines record.language text) = opened at asked ⊢
  cases simulation.answer with
  | ok reply => cases reply <;> simp
  | error fault =>
      cases fault with
      | sandbox problem => simp
      | _ =>
          dsimp only
          exact ⟨by simp, fun _ => ⟨⟨_, rfl⟩, asked⟩⟩

/-- **Turns end exactly when the outcome can be read.** A value that a script hands across settles
its simulation if and only if no number in its text is too long and, if it is the text of an object,
the object's fields are well-formed; what a run of the script engine hands across settles its
simulation if and only if the fields are well-formed. A turn whose engine hands across a value that
can be read ends, and any other turn with a value handed across breaks off with the user's message
as the last one of the transcript. -/
theorem turn_ends_iff_readable (raw : Json) :
    ((Outcome.decode raw).Settled ↔ Outcome.Readable raw) ∧
      (∀ settings source token message,
        (Sandbox.simulate settings source token message).Settled ↔
          ∀ data fields, Sandbox.rehearsal settings source token message = .ok (some data) →
            data.toJson = .obj fields → Outcome.WellFormed fields) ∧
      ∀ (config : Config) (b : Bench) (id : Int) (record : Record) (text : String),
        b.registry.find? id = some record → record.status = .running →
        (config.engine record.language record.code record.token text).answer =
          (Outcome.decode raw).answer →
        ((∃ reply, (b.send config id text).2 = .ok reply) ↔ Outcome.Readable raw) ∧
          (¬Outcome.Readable raw →
            (∃ fault, (b.send config id text).2 = .error (.simulation fault)) ∧
              ∃ record', (b.send config id text).1.registry.find? id = some record' ∧
                record'.messages = window config.settings.transcriptLimit
                  (record.messages ++ [{ sender := .user, text := .str text }])) := by
  refine ⟨Outcome.settled_decode_iff, ?_, ?_⟩
  · intro settings source token message
    unfold Sandbox.simulate
    split
    · rename_i data run
      rw [Outcome.settled_ofData_iff]
      constructor
      · intro formed data' fields handed written
        rw [run, Except.ok.injEq, Option.some.injEq] at handed
        exact formed fields (handed ▸ written)
      · intro formed fields written
        exact formed data fields run written
    · rename_i run
      simp [Outcome.settled_ofData_iff, run]
    · rename_i problem run
      simp [Simulation.Settled, run]
  · intro config b id record text found running answered
    obtain ⟨ends, breaks⟩ := send_of_running config found running text
    have same : (config.engine record.language record.code record.token text).Settled ↔
        Outcome.Readable raw := by
      rw [← Outcome.settled_decode_iff]
      unfold Simulation.Settled
      rw [answered]
    refine ⟨ends.trans same, fun unread => ?_⟩
    obtain ⟨fault, after⟩ := breaks fun settled => unread (same.mp settled)
    refine ⟨fault, ?_⟩
    have there : (b.send config id text).1.view.record id = some
        { record.unlogged with
          messages := window config.settings.transcriptLimit
            (record.messages ++ [{ sender := .user, text := .str text }]) } := by
      rw [after]
      simp
    obtain ⟨record', found', seen⟩ := find?_of_view there
    exact ⟨record', found', congrArg Record.messages seen⟩

/-- A set-up in which every script hands the same value across. -/
def handing (raw : Json) : Config :=
  { Config.silent with engine := fun _ _ _ _ => Outcome.decode raw }

theorem handing_engine (raw : Json) (language : Language) (source token message : String) :
    (handing raw).engine language source token message = Outcome.decode raw :=
  rfl

theorem handing_transcriptLimit (raw : Json) :
    (handing raw).settings.transcriptLimit = Config.silent.settings.transcriptLimit :=
  rfl

/-- After the first launch the bot runs in its language, and nobody has talked to it. -/
theorem found_after_firstLaunch :
    ∃ record, ((opening (.ofLists [] [])).run .silent Move.firstLaunch).registry.find? 1 =
      some record ∧ record.status = .running ∧ record.language = .python ∧
        record.messages = [] := by
  have ready : (((opening (.ofLists [] [])).run .silent Move.firstLaunch).registry.find? 1).any
      (fun record => record.status == .running && record.language == .python &&
        record.messages.isEmpty) = true := by
    decide +kernel
  generalize ((opening (.ofLists [] [])).run .silent Move.firstLaunch).registry.find? 1 = found
    at ready
  cases found with
  | none => simp at ready
  | some record => exact ⟨record, rfl, by simpa [and_assoc] using ready⟩

/-- A reply that greets the user. -/
def greeting : Json := .str "\x7b\"reply\": \x7b\"text\": \"hi\"\x7d\x7d"

theorem settled_greeting : (Outcome.decode greeting).Settled := by
  have answered : (Outcome.decode greeting).answer.toOption.isSome = true := by decide +kernel
  unfold Simulation.Settled
  cases read : (Outcome.decode greeting).answer with
  | error fault => simp [read, Except.toOption] at answered
  | ok reply => exact .inl ⟨reply, rfl⟩

/-- After the first launch, a script that hands a greeting across ends the turn. -/
theorem turn_ends_iff_readable_greeting :
    let b := (opening (.ofLists [] [])).run .silent Move.firstLaunch
    Outcome.Readable greeting ∧
      ∃ reply, (b.send (handing greeting) 1 "/start").2 = .ok reply := by
  obtain ⟨record, found, running, -⟩ := found_after_firstLaunch
  generalize (opening (.ofLists [] [])).run .silent Move.firstLaunch = b at found ⊢
  obtain ⟨readable, -, turn⟩ := turn_ends_iff_readable greeting
  have turn := turn (handing greeting) b 1 record "/start" found running (by rw [handing_engine])
  exact ⟨readable.mp settled_greeting, turn.1.mpr (readable.mp settled_greeting)⟩

/-- A reply without a text. -/
def textless : Json := .str "\x7b\"reply\": \x7b\x7d\x7d"

theorem answer_textless : (Outcome.decode textless).answer = .error (.missingField "text") := by
  have missing : (match (Outcome.decode textless).answer with
      | .error (.missingField name) => name == "text"
      | _ => false) = true := by
    decide +kernel
  split at missing
  · simp_all
  · simp at missing

/-- A reply without a text breaks the turn off: the user's message is all that the transcript has.
-/
theorem turn_breaks_off_without_text :
    let b := (opening (.ofLists [] [])).run .silent Move.firstLaunch
    (Outcome.decode textless).answer = .error (.missingField "text") ∧
      ¬(Outcome.decode textless).Settled ∧
      (∃ fault, (b.send (handing textless) 1 "/start").2 = .error (.simulation fault)) ∧
      ∃ record, (b.send (handing textless) 1 "/start").1.registry.find? 1 = some record ∧
        record.messages = [{ sender := .user, text := .str "/start" }] := by
  obtain ⟨record, found, running, -, silent⟩ := found_after_firstLaunch
  generalize (opening (.ofLists [] [])).run .silent Move.firstLaunch = b at found ⊢
  have unsettled : ¬(Outcome.decode textless).Settled := by
    unfold Simulation.Settled
    rw [answer_textless]
    simp
  obtain ⟨-, breaks⟩ := send_of_running (handing textless) found running "/start"
  rw [handing_engine, handing_transcriptLimit, silent] at breaks
  obtain ⟨broken, after⟩ := breaks unsettled
  have there : (b.send (handing textless) 1 "/start").1.view.record 1 = some
      { record.unlogged with messages := [{ sender := .user, text := .str "/start" }] } := by
    rw [after]
    rfl
  obtain ⟨record', found', seen⟩ := find?_of_view there
  exact ⟨answer_textless, unsettled, broken, record', found', congrArg Record.messages seen⟩

end Bench

end BotBench
