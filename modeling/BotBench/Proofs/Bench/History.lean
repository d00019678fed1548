import BotBench.Proofs.Bench.View

/-! # The history of a run

The history of a run lists the lifecycle operations that were accepted, each with the record it
answered with. The passages of a run list the resumptions of sequences, each with the lines that it
wrote. Both are read off the moves as the bench makes them. -/

namespace BotBench

open Text

/-! ## What is remembered -/

/-- The operation that a call carries out, if it carries one out. -/
def Call.operation? : Call → Option Operation
  | .launch code token language _ => some (.launch code token (.str language.name))
  | .update bot code token language _ => some (.update bot code token (.str language.name))
  | .stop bot => some (.stop bot)
  | .restart bot _ => some (.restart bot)
  | .delete bot => some (.delete bot)
  | .send bot text => if isAllBlank text then none else some (.send bot text)
  | .list | .show _ => none

/-- A lifecycle operation that was accepted, and the record it answered with. -/
structure Event where
  operation : Operation
  record : Record

/-- A resumption of a sequence: its bot and generation, the lines it wrote into the log of the bot,
and the status of the bot before and after. -/
structure Passage where
  bot : Int
  generation : Int
  lines : List String
  before : Option Status
  after : Option Status

/-- The text of a log line without its time. -/
def lineText (line : String) : String :=
  String.ofList ((line.toList.dropWhile (· != ']')).drop 2)

/-- A number is written without brackets. -/
theorem ne_bracket_of_mem_toString (time : Int) {c : Char} (member : c ∈ (toString time).toList) :
    c ≠ ']' := by
  have digits (n : Nat) : ∀ c ∈ (Nat.repr n).toList, c ≠ ']' := by
    intro c member
    have digit : c.isDigit = true := by
      rw [Nat.repr, String.toList_ofList] at member
      exact Nat.isDigit_of_mem_toDigits (by omega) (by omega) member
    rintro rfl
    contradiction
  cases time with
  | ofNat n => exact digits n c member
  | negSucc n =>
      change c ∈ ("-" ++ Nat.repr (n + 1)).toList at member
      rw [String.toList_append, List.mem_append] at member
      rcases member with sign | member
      · have same : c = '-' := by simpa using sign
        subst same
        decide
      · exact digits (n + 1) c member

@[simp] theorem lineText_stamped (time : Int) (text : String) :
    lineText (stamped time text) = text := by
  have spelled : (stamped time text).toList =
      ('[' :: (toString time).toList) ++ ']' :: ' ' :: text.toList := by
    simp only [stamped, String.toList_append, List.append_assoc, List.cons_append]
    rfl
  have skipped : (('[' :: (toString time).toList) ++ ']' :: ' ' :: text.toList).dropWhile
      (· != ']') = ']' :: ' ' :: text.toList := by
    rw [List.dropWhile_append_of_pos]
    · simp
    · intro c member
      rcases List.mem_cons.mp member with rfl | member
      · decide
      · simpa using ne_bracket_of_mem_toString time member
  rw [lineText, spelled, skipped]
  simp

/-- The set-up under which logs are kept whole. -/
def Config.unwindowed (config : Config) : Config :=
  { config with settings := { config.settings with logLimit := 0 } }

namespace Bench

/-- Whether a verdict lets its task do nothing more to a bot. -/
def Verdict.aside : Verdict → Prop
  | .sleep _ _ => False
  | .wait _ routine => routine.acts = false
  | .finish _ => True

/-- A call that is begun carries out its operation, and then answers or waits. -/
theorem serve_operates (config : Config) (b : Bench) (call : Call) :
    (b.serve config call).1 =
        (match call.operation? with
        | some operation => b.operate config operation
        | none => b) ∧
      (b.serve config call).2.aside := by
  have waits (b : Bench) (wait : Bool) (status : Nat) (id : Int) :
      (b.waitOrReport wait status id).aside := by
    unfold waitOrReport
    split
    · exact rfl
    · trivial
  unfold serve
  cases call with
  | list => exact ⟨rfl, trivial⟩
  | «show» id =>
      dsimp only
      split
      · exact ⟨rfl, trivial⟩
      · exact ⟨rfl, trivial⟩
  | launch code token language wait =>
      dsimp only [Call.operation?, operate]
      cases b.launch config code token (.str language.name) with
      | error refusal => exact ⟨rfl, trivial⟩
      | ok result => exact ⟨rfl, waits ..⟩
  | update id code token language wait =>
      dsimp only [Call.operation?, operate]
      cases b.updateBot config id code token (.str language.name) with
      | error refusal => exact ⟨rfl, trivial⟩
      | ok result => exact ⟨rfl, waits ..⟩
  | stop id =>
      dsimp only [Call.operation?, operate]
      cases b.stop config id with
      | error refusal => exact ⟨rfl, trivial⟩
      | ok result => exact ⟨rfl, trivial⟩
  | restart id wait =>
      dsimp only [Call.operation?, operate]
      cases b.restart config id with
      | error refusal => exact ⟨rfl, trivial⟩
      | ok result => exact ⟨rfl, waits ..⟩
  | delete id =>
      dsimp only [Call.operation?, operate]
      cases b.delete id with
      | error refusal => exact ⟨rfl, trivial⟩
      | ok deleted => exact ⟨rfl, trivial⟩
  | send id text =>
      dsimp only [Call.operation?]
      split
      · exact ⟨rfl, trivial⟩
      · dsimp only [operate]
        split
        · rename_i done
          rw [done]
          exact ⟨rfl, trivial⟩
        · rename_i done
          rw [done]
          dsimp only
          split
          · exact ⟨rfl, trivial⟩
          · exact ⟨rfl, trivial⟩

/-- The task that a move resumes, and where it goes on. A cancelled task is not resumed but
unwound. -/
def resumed? (b : Bench) : Move → Option (Nat × Routine)
  | .callback place =>
      match b.ready[place]? with
      | some (.resume id) =>
          match b.tasks[id]? with
          | some task =>
              if task.state == .queued && !task.cancelled then some (id, task.routine) else none
          | none => none
      | _ => none
  | _ => none

/-- The operation that a move carries out: that of the user, or that of the call whose task is
resumed. -/
def operation? (b : Bench) (move : Move) : Option Operation :=
  match move with
  | .operate operation => some operation
  | _ =>
      match b.resumed? move with
      | some (_, .serve call) => call.operation?
      | _ => none

/-- The bench when the work of a move begins: its callback is no longer queued. -/
def taken (b : Bench) : Move → Bench
  | .callback place => { b with ready := b.ready.eraseIdx place }
  | _ => b

/-- The record that an operation answers with, if it is a launch, an update, a restart or a stop and
is accepted. -/
def accepted? (config : Config) (b : Bench) : Operation → Option Record
  | .launch code token language => (b.launch config code token language).toOption.map (·.1)
  | .update bot code token language =>
      (b.updateBot config bot code token language).toOption.map (·.1)
  | .restart bot => (b.restart config bot).toOption.map (·.1)
  | .stop bot => (b.stop config bot).toOption.map (·.1)
  | .delete _ | .shutdown | .send .. | .press .. => none

/-- The event that a move brings about. -/
def event? (config : Config) (b : Bench) (move : Move) : Option Event :=
  (b.operation? move).bind fun operation =>
    ((b.taken move).accepted? config operation).map fun record => { operation, record }

/-- The lines that a move writes into the log of a bot, without their times. They are what the log
would gain if it were kept whole. -/
def linesWritten (config : Config) (b : Bench) (move : Move) (bot : Int) : List String :=
  match b.registry.find? bot, (b.step config.unwindowed move).registry.find? bot with
  | some before, some after => (after.logs.drop before.logs.length).map lineText
  | _, _ => []

/-- The status of a bot. -/
def status? (b : Bench) (bot : Int) : Option Status := (b.registry.find? bot).map (·.status)

/-- The passage that a move makes. -/
def passage? (config : Config) (b : Bench) (move : Move) : Option Passage :=
  (b.resumed? move).bind fun (_, routine) =>
    routine.sequence?.map fun (bot, generation) =>
      { bot, generation
        lines := b.linesWritten config move bot
        before := b.status? bot
        after := (b.step config move).status? bot }

/-- What is remembered of the moves of a run, one after the other. -/
def chronicle {α : Type} (config : Config) (remember? : Bench → Move → Option α) :
    Bench → List Move → List α
  | _, [] => []
  | b, move :: moves =>
      (remember? b move).toList ++ chronicle config remember? (b.step config move) moves

theorem chronicle_append {α : Type} (config : Config) (remember? : Bench → Move → Option α)
    (b : Bench) (earlier later : List Move) :
    chronicle config remember? b (earlier ++ later) =
      chronicle config remember? b earlier ++
        chronicle config remember? (b.run config earlier) later := by
  induction earlier generalizing b with
  | nil => rfl
  | cons move moves ih =>
      rw [List.cons_append, chronicle, ih, run_cons, chronicle, List.append_assoc]

/-- What is remembered of a move is among what is remembered of the run. -/
theorem mem_chronicle {α : Type} {config : Config} {remember? : Bench → Move → Option α} {b : Bench}
    {earlier : List Move} {move : Move} {item : α}
    (made : remember? (b.run config earlier) move = some item) (later : List Move) :
    item ∈ chronicle config remember? b (earlier ++ move :: later) := by
  rw [chronicle_append, chronicle, made]
  simp

/-- The events of a run. -/
def history (config : Config) (b : Bench) (moves : List Move) : List Event :=
  chronicle config (event? config) b moves

/-- The passages of a run. -/
def passages (config : Config) (b : Bench) (moves : List Move) : List Passage :=
  chronicle config (passage? config) b moves

theorem history_append (config : Config) (b : Bench) (earlier later : List Move) :
    b.history config (earlier ++ later) =
      b.history config earlier ++ (b.run config earlier).history config later :=
  chronicle_append ..

theorem passages_append (config : Config) (b : Bench) (earlier later : List Move) :
    b.passages config (earlier ++ later) =
      b.passages config earlier ++ (b.run config earlier).passages config later :=
  chronicle_append ..

/-- What every move keeps of a bench and of what is remembered so far, the run keeps. -/
theorem remembered_keeps {config : Config} {motive : Bench → List Event → List Passage → Prop}
    (step : ∀ b events passages move, motive b events passages →
      motive (b.step config move) (events ++ (b.event? config move).toList)
        (passages ++ (b.passage? config move).toList))
    {b : Bench} (events : List Event) (passages : List Passage) (start : motive b events passages)
    (moves : List Move) :
    motive (b.run config moves) (events ++ b.history config moves)
      (passages ++ b.passages config moves) := by
  induction moves generalizing b events passages with
  | nil => simpa [history, Bench.passages, chronicle] using start
  | cons move moves ih =>
      have rest := ih _ _ (step b events passages move start)
      rw [List.append_assoc, List.append_assoc] at rest
      exact rest

end Bench

end BotBench
