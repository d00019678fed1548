import BotBench.Proofs.Bench.Reachability
import Mathlib.Data.List.TakeWhile

/-! # Where records come from

A bot has the source, the token and the language of the latest launch or update that was accepted
for it, its generation counts the updates, restarts and stops accepted since its launch, and it runs
with a valid token only (`BotBench.Bench.record_provenance`). The first two are read off the
history; the last one is part of soundness, which keeps an unchecked token from slipping under a
sequence that has checked another one. -/

namespace BotBench

/-! ## Reading the history -/

/-- The source, the token and the language that an operation gives its bot. -/
def Operation.configuration? : Operation → Option (String × String × Json)
  | .launch code token language | .update _ code token language => some (code, token, language)
  | _ => none

/-- The bot of an event. A launch answers with the number of its bot. -/
def Event.bot (event : Event) : Int :=
  match event.operation with
  | .update bot .. | .restart bot | .stop bot => bot
  | _ => event.record.id

/-- Whether an event is a launch. -/
def Event.isLaunch (event : Event) : Bool :=
  match event.operation with
  | .launch .. => true
  | _ => false

/-- The events of a bot, the latest first. -/
def eventsOf (events : List Event) (id : Int) : List Event :=
  (events.filter fun event => event.bot == id).reverse

/-- The source, the token and the language of the latest launch or update of a bot. -/
def latestConfiguration? (events : List Event) (id : Int) : Option (String × String × Json) :=
  (eventsOf events id).findSome? fun event => event.operation.configuration?

/-- How many updates, restarts and stops of a bot have been accepted since its launch. -/
def interventions (events : List Event) (id : Int) : Nat :=
  ((eventsOf events id).takeWhile fun event => !event.isLaunch).length

theorem eventsOf_concat (events : List Event) (event : Event) (id : Int) :
    eventsOf (events ++ [event]) id =
      if event.bot = id then event :: eventsOf events id else eventsOf events id := by
  unfold eventsOf
  rw [List.filter_append, List.reverse_append]
  by_cases same : event.bot = id
  · simp [same]
  · simp [same]

/-! ## The form of a token -/

/-- A token is valid when it contains a colon and more than so many characters before the first
one. -/
theorem Bench.isTokenValid_iff {token : String} {least : Int} :
    isTokenValid token least = true ↔
      ∃ before after, token.toList = before ++ ':' :: after ∧ ':' ∉ before ∧
        least < (before.length : Int) := by
  unfold isTokenValid
  dsimp only
  rw [Bool.and_eq_true, decide_eq_true_eq]
  refine ⟨?_, ?_⟩
  · rintro ⟨colon, long⟩
    refine ⟨token.toList.takeWhile (· != ':'), (token.toList.dropWhile (· != ':')).tail, ?_, ?_,
      long⟩
    · have whole : token.toList.takeWhile (· != ':') ++ token.toList.dropWhile (· != ':') =
          token.toList := List.takeWhile_append_dropWhile
      cases rest : token.toList.dropWhile (· != ':') with
      | nil =>
          have all := List.dropWhile_eq_nil_iff.mp rest
          have member : ':' ∈ token.toList := by simpa using colon
          have apart := all ':' member
          contradiction
      | cons first tail =>
          have stops : (first != ':') = false := by
            have nonempty : token.toList.dropWhile (· != ':') ≠ [] := by simp [rest]
            have head := List.head_dropWhile_not (· != ':') nonempty
            simpa [rest] using head
          have colon : first = ':' := by simpa using stops
          rw [rest, colon] at whole
          exact whole.symm
    · intro member
      have apart := List.mem_takeWhile_imp member
      contradiction
  · rintro ⟨before, after, spelled, apart, long⟩
    have skipped : token.toList.takeWhile (· != ':') = before := by
      rw [spelled, List.takeWhile_append_of_pos]
      · simp
      · intro c member
        have other : c ≠ ':' := by
          rintro rfl
          exact apart member
        simpa using other
    rw [skipped]
    exact ⟨by simp [spelled], long⟩

section Concat

variable {events : List Event} {event : Event}

theorem latestConfiguration?_concat {configuration : String × String × Json}
    (given : event.operation.configuration? = some configuration) :
    latestConfiguration? (events ++ [event]) event.bot = some configuration := by
  unfold latestConfiguration?
  rw [eventsOf_concat, if_pos rfl, List.findSome?_cons, given]

theorem latestConfiguration?_concat_none (given : event.operation.configuration? = none) :
    latestConfiguration? (events ++ [event]) event.bot =
      latestConfiguration? events event.bot := by
  unfold latestConfiguration?
  rw [eventsOf_concat, if_pos rfl, List.findSome?_cons, given]

theorem interventions_launch (launch : event.isLaunch = true) :
    interventions (events ++ [event]) event.bot = 0 := by
  unfold interventions
  rw [eventsOf_concat, if_pos rfl, List.takeWhile_cons_of_neg (by simp [launch])]
  rfl

theorem interventions_concat (later : event.isLaunch = false) :
    interventions (events ++ [event]) event.bot = interventions events event.bot + 1 := by
  unfold interventions
  rw [eventsOf_concat, if_pos rfl, List.takeWhile_cons_of_pos (by simp [later])]
  rfl

end Concat

/-! ## The invariant -/

/-- The record of a bot is what the history makes of it. -/
structure Record.Follows (record : Record) (events : List Event) (id : Int) : Prop where
  configuration : ∃ language,
    latestConfiguration? events id = some (record.code, record.token, language) ∧
      Language.ofJson language = .ok record.language
  generation : record.generation = interventions events id

/-- Each record is what the history makes of it. -/
def Provenance (records : Int → Option Record) (events : List Event) : Prop :=
  ∀ id record, records id = some record → record.Follows events id

namespace Provenance

open View

variable {least : Int} {v v' : View} {events : List Event}

/-- What is written has the provenance of what it replaces. -/
theorem write (origin : Provenance v.record events) {id : Int} {old record : Record}
    (found : v.record id = some old) (code : record.code = old.code)
    (token : record.token = old.token) (language : record.language = old.language)
    (generation : record.generation = old.generation) :
    Provenance (v.write id record).record events := by
  intro other record' found'
  rw [record_write] at found'
  split at found'
  · rename_i same
    subst same
    rw [Option.some.injEq] at found'
    subst found'
    obtain ⟨configuration, count⟩ := origin other old found
    exact ⟨by rw [code, token, language]; exact configuration, generation.trans count⟩
  · exact origin other record' found'

/-- An event changes the record of its bot only, and the new record follows from it. -/
theorem concat (origin : Provenance v.record events) {event : Event} (record : Record)
    (records : ∀ id, v'.record id = if id = event.bot then some record else v.record id)
    (follows : record.Follows (events ++ [event]) event.bot) :
    Provenance v'.record (events ++ [event]) := by
  intro id record' found
  rw [records] at found
  split at found
  · rename_i same
    rw [Option.some.injEq] at found
    rw [same, ← found]
    exact follows
  · rename_i apart
    obtain ⟨configuration, count⟩ := origin id record' found
    refine ⟨?_, ?_⟩
    · unfold latestConfiguration?
      rw [eventsOf_concat, if_neg (Ne.symm apart)]
      exact configuration
    · unfold interventions
      rw [eventsOf_concat, if_neg (Ne.symm apart)]
      exact count

/-- An update, a restart or a stop gives its bot a record of the next generation. -/
theorem intervene (origin : Provenance v.record events) (event : Event) {old : Record}
    (found : v.record event.bot = some old) (later : event.isLaunch = false) (record : Record)
    (generation : record.generation = old.generation + 1)
    (configuration : ∃ language, latestConfiguration? (events ++ [event]) event.bot =
        some (record.code, record.token, language) ∧
      Language.ofJson language = .ok record.language) :
    Provenance ((v.interrupt event.bot).write event.bot record).record (events ++ [event]) := by
  refine origin.concat record ?_ ⟨configuration, ?_⟩
  · intro other
    rw [record_write, record_interrupt]
  · rw [interventions_concat later, generation, (origin event.bot old found).generation]
    rfl

/-- Every transition keeps the provenance of the records. -/
theorem transition (origin : Provenance v.record events) {event : Option Event}
    {passage : Option Passage} (moved : Transition least v event passage v') :
    Provenance v'.record (events ++ event.toList) := by
  have quiet (same : Provenance v'.record events) :
      Provenance v'.record (events ++ (none : Option Event).toList) := by
    rw [Option.toList_none, List.append_nil]
    exact same
  cases moved with
  | @launch code token language named answer name face =>
      have bot : answer.id = v.nextId := (congrArg Record.id face :)
      apply origin.concat (.newcomer v.nextId code token named)
      · intro id
        change (v.enter _).record id = if id = answer.id then _ else _
        rw [record_enter, bot]
      · refine ⟨⟨language, latestConfiguration?_concat rfl, name⟩, ?_⟩
        rw [interventions_launch rfl]
        rfl
  | @update id record code token language named answer found name face =>
      exact origin.intervene ⟨.update id code token language, answer⟩ found rfl
        (record.reconfigured code token named) rfl
        ⟨language, latestConfiguration?_concat rfl, name⟩
  | @restart id record answer found face =>
      refine origin.intervene ⟨.restart id, answer⟩ found rfl record.renewed rfl ?_
      rw [latestConfiguration?_concat_none rfl]
      exact (origin id record found).configuration
  | @stop id record answer found face =>
      refine origin.intervene ⟨.stop id, answer⟩ found rfl record.halted rfl ?_
      rw [latestConfiguration?_concat_none rfl]
      exact (origin id record found).configuration
  | @delete id record found =>
      apply quiet
      intro other record' found'
      rw [record_erase, record_interrupt] at found'
      split at found'
      · contradiction
      · exact origin other record' found'
  | turn found running turn =>
      obtain ⟨record, messages, found', rfl⟩ := turn
      exact quiet (origin.write found' rfl rfl rfl rfl)
  | @leg task routine id generation record leg acts belongs found goes =>
      have written : Provenance (v.write id (record.marked leg.outcome)).record events :=
        origin.write found rfl rfl rfl rfl
      apply quiet
      intro other record' found'
      rw [record_goLeg, ← record_write] at found'
      exact written other record' found'
  | begin acts => exact quiet origin
  | tick acts found running => exact quiet (origin.write found rfl rfl rfl rfl)
  | @halt task id record acts found running =>
      have written : Provenance (v.write id { record with status := .error }).record events :=
        origin.write found rfl rfl rfl rfl
      apply quiet
      intro other record' found'
      rw [record_write, record_dropTicker, ← record_write] at found'
      exact written other record' found'
  | idle counts => exact quiet origin

end Provenance

namespace Bench

/-- The records of every run are what its history makes of them. -/
theorem provenance_run (config : Config) (draws : Draws) (moves : List Move) :
    Provenance ((opening draws).run config moves).view.record
      ((opening draws).history config moves) := by
  have start : Provenance (opening draws).view.record [] := by
    intro id record found
    simp [view, opening, Registry.find?] at found
  exact remembered_views_keep (motive := fun v events _ => Provenance v.record events)
    (fun _ origin moved => origin.transition moved) (fun _ origin => origin) start moves

/-- **Where records come from.** At every point of every run, each bot that is there has a valid
token if it runs; its source, token and language are those of the latest launch or update accepted
for it; and its generation is the number of updates, restarts and stops accepted since its
launch. -/
theorem record_provenance (config : Config) (draws : Draws) (moves : List Move) (id : Int)
    (record : Record) (found : ((opening draws).run config moves).registry.find? id = some record) :
    let events := (opening draws).history config moves
    (record.status = .running →
      isTokenValid record.token config.settings.minTokenPrefix = true ∧
        ∃ before after, record.token.toList = before ++ ':' :: after ∧ ':' ∉ before ∧
          config.settings.minTokenPrefix < (before.length : Int)) ∧
      (∃ language, latestConfiguration? events id = some (record.code, record.token, language) ∧
        Language.ofJson language = .ok record.language) ∧
      record.generation = interventions events id := by
  intro events
  have proper := (sound_run config draws moves).proper (view_of_find? found)
  have follows := provenance_run config draws moves id _ (view_of_find? found)
  refine ⟨?_, follows.configuration, follows.generation⟩
  intro running
  have valid := proper.running running
  exact ⟨valid, isTokenValid_iff.mp valid⟩

/-- After the first launch the bot runs with the token it was launched with. -/
theorem record_provenance_firstLaunch :
    ∃ record, ((opening (.ofLists [] [])).run .silent Move.firstLaunch).registry.find? 1 =
        some record ∧ record.status = .running ∧ record.generation = 0 ∧
      isTokenValid record.token 5 = true ∧
      ∃ language, latestConfiguration?
        ((opening (.ofLists [] [])).history .silent Move.firstLaunch) 1 =
          some (record.code, record.token, language) := by
  have status : (((opening (.ofLists [] [])).run .silent Move.firstLaunch).registry.find? 1).map
      (·.status) = some .running := by decide +kernel
  have count : interventions
      ((opening (.ofLists [] [])).history .silent Move.firstLaunch) 1 = 0 := by decide +kernel
  obtain ⟨record, found, running⟩ := Option.map_eq_some_iff.mp status
  obtain ⟨valid, ⟨language, latest, -⟩, generation⟩ :=
    record_provenance .silent (.ofLists [] []) Move.firstLaunch 1 record found
  rw [count] at generation
  exact ⟨record, found, running, generation, (valid running).1, language, latest⟩

end Bench

end BotBench
