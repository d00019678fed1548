import BotBench.Proofs.Bench.Annals
import BotBench.Proofs.Bench.Turn

/-! # One chat turn as one change

A chat turn reads and writes the record of its bot five to seven times, and each time the log or the
transcript is cut down to its window. Whatever the limits are, this comes to one change: the windows
of what was there before with the whole turn behind it (`BotBench.Bench.turn_is_one_change`). What
carries the writes along is that a window that is moved on shows what the window of the whole shows
(`BotBench.window_append`). -/

namespace BotBench

/-- How a simulation ends a chat turn: with a reply, with none, or with a failure of the sandbox. -/
inductive TurnResult
  | reply (reply : Reply)
  | silence
  | failure (problem : String)

namespace TurnResult

/-- The answer of a simulation that ends so. -/
def answer : TurnResult → Except SimulationFault (Option Reply)
  | .reply given => .ok (some given)
  | .silence => .ok none
  | .failure problem => .error (.sandbox problem)

/-- The bot's part of the turn. -/
def message? : TurnResult → Option Message
  | .reply given => some { sender := .bot, text := given.text, buttons := given.buttons }
  | .silence => none
  | .failure problem =>
      some
        { sender := .bot
          text := .str ("Sorry, an error occurred in the simulation: " ++ problem) }

/-- The line about the outcome of the turn. -/
def line : TurnResult → String
  | .reply given => "Simulation sent reply: \"" ++ given.text.display ++ "\""
  | .silence => "Code did not produce a reply for this message."
  | .failure problem => "Error: " ++ problem

/-- The lines of a whole turn. Only Python bots get the warning about their simulation. -/
def lines (result : TurnResult) (language : Language) (text : String) : List String :=
  ["User message received: \"" ++ text ++ "\"", "Simulating bot response via code execution..."] ++
    (if language = .python then
      ["Python simulation is regex-based and may not cover all edge cases."]
    else []) ++ [result.line]

theorem lines_eq (result : TurnResult) (language : Language) (text : String) :
    result.lines language text = Bench.openingLines language text ++ [result.line] := by
  cases language <;> rfl

end TurnResult

theorem Registry.put_put (registry : Registry) (id : Int) (first second : Record) :
    (registry.put id first).put id second = registry.put id second := by
  unfold put
  rw [List.map_map]
  congr 1
  apply List.map_congr_left
  intro slot _
  by_cases same : slot.1 = id
  · simp [same]
  · simp [same]

namespace Bench

variable {config : Config} {b : Bench} {id : Int} {old : Record}

/-! ## Writes on a record that has been stored -/

theorem store_store (b : Bench) (id : Int) (first second : Record) :
    (b.store id first).store id second = b.store id second := by
  unfold store
  simp only [Registry.put_put]

theorem find?_store (found : b.registry.find? id = some old) (record : Record) :
    (b.store id record).registry.find? id = some record := by
  change (b.registry.put id record).find? id = _
  rw [Registry.find?_put, if_pos rfl, found]
  rfl

/-- The bench with windows of a transcript and a log in the record of a bot. -/
def showing (config : Config) (b : Bench) (id : Int) (record : Record) (messages : List Message)
    (logs : List String) : Bench :=
  b.store id
    { record with
      messages := window config.settings.transcriptLimit messages
      logs := window config.settings.logLimit logs }

theorem appendLog_store (found : b.registry.find? id = some old) (record : Record) (line : String) :
    (b.store id record).after ((b.store id record).appendLog config id line) =
      b.store id
        { record with
          logs := window config.settings.logLimit
            (record.logs ++ [stamped (b.now config) line]) } := by
  have applied : Change.applyAll record [] = .ok record := rfl
  unfold appendLog
  rw [update_of_find? (find?_store found record) applied]
  exact store_store ..

section Showing

variable (config) (found : b.registry.find? id = some old) (record : Record)
  (messages : List Message) (logs : List String)

include found

theorem appendLines_showing (lines : List String) :
    (b.showing config id record messages logs).appendLines config id lines =
      b.showing config id record messages (logs ++ lines.map (stamped (b.now config))) := by
  unfold appendLines
  induction lines generalizing logs with
  | nil => rw [List.foldl_nil, List.map_nil, List.append_nil]
  | cons line lines ih =>
      have first : (b.showing config id record messages logs).after
          ((b.showing config id record messages logs).appendLog config id line) =
            b.showing config id record messages (logs ++ [stamped (b.now config) line]) := by
        unfold showing
        rw [appendLog_store found, window_append]
      rw [List.foldl_cons, first, ih, List.append_assoc]
      rfl

theorem appendMessage_showing (message : Message) :
    (b.showing config id record messages logs).after
        ((b.showing config id record messages logs).appendMessage config id message) =
      b.showing config id record (messages ++ [message]) logs := by
  unfold showing
  rw [appendMessage_of_find? config (find?_store found _), store_store, window_append]

theorem concludeTurn_showing (message? : Option Message) (line : String) (lineFirst : Bool) :
    (b.showing config id record messages logs).concludeTurn config id message? line lineFirst =
      b.showing config id record (messages ++ message?.toList)
        (logs ++ [stamped (b.now config) line]) := by
  unfold concludeTurn
  cases lineFirst with
  | true =>
      rw [if_pos rfl, appendLines_showing config found]
      cases message? with
      | none => rw [Option.toList_none, List.append_nil]; rfl
      | some message => exact appendMessage_showing config found ..
  | false =>
      cases message? with
      | none =>
          rw [Option.toList_none, List.append_nil]
          exact appendLines_showing config found ..
      | some message =>
          dsimp only
          rw [appendMessage_showing config found]
          exact appendLines_showing config found ..

end Showing

/-! ## Turns -/

/-- A running bot's record shows the windows of what it showed before with the whole turn behind it.
-/
theorem send_of_result (found : b.registry.find? id = some old) (running : old.status = .running)
    {text : String} {result : TurnResult}
    (answered : (config.engine old.language old.code old.token text).answer = result.answer) :
    (b.send config id text).2 = .ok result.message? ∧
      ∃ log, (b.send config id text).1 = showing config { b with log } id old
        (old.messages ++ { sender := .user, text := .str text } :: result.message?.toList)
        (old.logs ++ (result.lines old.language text).map (stamped (b.now config))) := by
  let asked : Message := { sender := .user, text := .str text }
  let opening := openingLines old.language text
  have received : (b.after (b.appendMessage config id asked)).appendLines config id opening =
      b.showing config id old (old.messages ++ [asked])
        (old.logs ++ opening.map (stamped (b.now config))) := by
    -- the first line is the one that cuts the log down, and the others find it cut down
    obtain ⟨first, rest, spelled⟩ : ∃ first rest, opening = first :: rest := ⟨_, _, rfl⟩
    have begun : (b.after (b.appendMessage config id asked)).appendLines config id [first] =
        b.showing config id old (old.messages ++ [asked])
          (old.logs ++ [stamped (b.now config) first]) := by
      rw [appendMessage_of_find? config found]
      exact appendLog_store found _ first
    have parts : (b.after (b.appendMessage config id asked)).appendLines config id opening =
        ((b.after (b.appendMessage config id asked)).appendLines config id [first]).appendLines
          config id rest := by
      rw [spelled]
      rfl
    rw [parts, begun, appendLines_showing config found, spelled, List.map_cons, List.append_assoc]
    rfl
  let opened := b.showing config id old (old.messages ++ [asked])
    (old.logs ++ opening.map (stamped (b.now config)))
  have concluded (log : List LogEntry) (line : String) (lineFirst : Bool) :
      concludeTurn config { opened with log } id result.message? line lineFirst =
        showing config { b with log } id old (old.messages ++ asked :: result.message?.toList)
          (old.logs ++ (opening ++ [line]).map (stamped (b.now config))) := by
    have ended := concludeTurn_showing config (b := { b with log }) found old
      (old.messages ++ [asked]) (old.logs ++ opening.map (stamped (b.now config)))
      result.message? line lineFirst
    rw [List.append_assoc, List.append_assoc] at ended
    rw [List.map_append]
    exact ended
  have awake : ¬(old.status != .running) = true := by simp [running]
  rw [TurnResult.lines_eq]
  unfold send
  rw [Registry.get_of_find? found]
  dsimp only
  rw [if_neg awake, received, answered]
  cases result with
  | reply given => exact ⟨rfl, _, concluded _ _ false⟩
  | silence => exact ⟨rfl, _, concluded _ _ true⟩
  | failure problem => exact ⟨rfl, _, concluded _ _ true⟩

/-- **A chat turn is one change.** On every bench, for all limits, a message to a bot that does not
run has no answer and changes nothing but the bench's own log. A message to a running bot whose
simulation ends in a reply, in none, or in a failure of the sandbox is answered with the bot's part
of the turn; the bot's record then shows the windows of the messages before with the user's message
and the bot's part behind them, and of the lines before with the stamped lines of the turn behind
them. Nothing else in the record changes, and no other record does. -/
theorem turn_is_one_change (config : Config) (b : Bench) (bot : Int) (record : Record)
    (text : String) (found : b.registry.find? bot = some record) :
    (record.status ≠ .running →
        (b.send config bot text).2 = .ok none ∧
          ∃ log, (b.send config bot text).1 = { b with log }) ∧
      (record.status = .running → ∀ result : TurnResult,
        (config.engine record.language record.code record.token text).answer = result.answer →
        let asked : Message := { sender := .user, text := .str text }
        let record' : Record :=
          { record with
            messages := window config.settings.transcriptLimit
              (record.messages ++ asked :: result.message?.toList)
            logs := window config.settings.logLimit
              (record.logs ++ (result.lines record.language text).map (stamped (b.now config))) }
        (b.send config bot text).2 = .ok result.message? ∧
          (∃ log, (b.send config bot text).1 =
            { b with registry := b.registry.put bot record', log }) ∧
          (b.send config bot text).1.registry.find? bot = some record' ∧
          ∀ other, other ≠ bot →
            (b.send config bot text).1.registry.find? other = b.registry.find? other) := by
  refine ⟨?_, ?_⟩
  · intro rests
    have idle : (record.status != .running) = true := by simpa using rests
    unfold send
    rw [Registry.get_of_find? found]
    dsimp only
    rw [if_pos idle]
    exact ⟨rfl, _, rfl⟩
  · intro running result answered asked record'
    obtain ⟨returned, log, changed⟩ := send_of_result found running answered
    have put : (b.send config bot text).1.registry = b.registry.put bot record' := by
      rw [changed]
      rfl
    refine ⟨returned, ⟨log, changed⟩, ?_, ?_⟩
    · rw [put, Registry.find?_put, if_pos rfl, found, Option.map_some]
    · intro other apart
      rw [put, Registry.find?_put, if_neg apart]

/-- A set-up with short windows whose engine greets whoever writes. -/
def obliging : Config :=
  { Config.silent with
    settings := { transcriptLimit := 1, logLimit := 2 }
    engine := fun _ _ _ _ => { answer := .ok (some { text := .str "hi" }) } }

/-- Windows that are shorter than a turn show the end of the turn. -/
theorem turn_is_one_change_obliging :
    let b := (opening (.ofLists [] [])).run .silent Move.firstLaunch
    ∃ record, b.registry.find? 1 = some record ∧ record.status = .running ∧
      (b.send obliging 1 "/start").2 = .ok (some { sender := .bot, text := .str "hi" }) ∧
      ∃ record', (b.send obliging 1 "/start").1.registry.find? 1 = some record' ∧
        record'.messages = [{ sender := .bot, text := .str "hi" }] ∧
        record'.logs = [stamped (b.now obliging)
            "Python simulation is regex-based and may not cover all edge cases.",
          stamped (b.now obliging) "Simulation sent reply: \"hi\""] := by
  obtain ⟨record, found, running, python, -⟩ := found_after_firstLaunch
  generalize (opening (.ofLists [] [])).run .silent Move.firstLaunch = b at found ⊢
  obtain ⟨-, turn⟩ := turn_is_one_change obliging b 1 record "/start" found
  obtain ⟨returned, -, found', -⟩ := turn running (.reply { text := .str "hi" }) rfl
  refine ⟨record, found, running, returned, _, found', ?_, ?_⟩
  · rw [List.append_cons]
    exact window_append_right 1 (by decide) rfl _
  · rw [python]
    change window 2 (record.logs ++ [stamped (b.now obliging) _, stamped (b.now obliging) _,
      stamped (b.now obliging) _, stamped (b.now obliging) _]) = _
    rw [List.append_cons, List.append_cons]
    exact window_append_right 2 (by decide) rfl _

end Bench

end BotBench
