import BotBench.Proofs.Bench.Provenance
import BotBench.Proofs.Bench.Staleness

/-! # The trace of a generation

The event that begins a generation of a bot lays down a script: the lines that its sequence is to
write, in order. What the sequence has written at any point of any run is a prefix of the script,
each line once at most; the bot fails or runs with the line that says so; and when the generation is
over nothing is written any more (`BotBench.Bench.sequence_follows_script`). The invariant is that
what a sequence has written and what it has still to write make up the script. -/

namespace BotBench

open Bench (isTokenValid invalidTokenLine runningLine)

/-! ## Scripts -/

/-- The line with which an update announces itself. -/
def redeployLine : String := "Redeploying with new configuration..."

/-- The lines of a connect sequence, for a token that is valid or not. -/
def connectLines (valid : Bool) : List String :=
  ["Attempting to connect to Telegram API...", "Validating Telegram token..."] ++
    if valid then
      ["Token validation successful.", "Establishing connection to api.telegram.org...",
        runningLine]
    else [invalidTokenLine]

/-- The lines that the sequence of the generation that an event begins is to write. A stop begins a
generation without a sequence. -/
def Event.script (least : Int) (event : Event) : List String :=
  match event.operation with
  | .launch .. | .restart _ => connectLines (isTokenValid event.record.token least)
  | .update .. => redeployLine :: connectLines (isTokenValid event.record.token least)
  | _ => []

/-- The lines that a connect sequence has still to write at a stage. -/
def Stage.remaining (valid : Bool) : Stage → List String
  | .attempt => connectLines valid
  | .validate => (connectLines valid).tail
  | .check => (connectLines valid).tail.tail
  | .establish => ["Establishing connection to api.telegram.org...", runningLine]
  | .finish => [runningLine]

/-- The lines that a sequence has still to write. -/
def Routine.remaining (valid : Bool) : Routine → List String
  | .connect _ _ stage => stage.remaining valid
  | .redeploy _ _ line _ => spokenLines line ++ connectLines valid
  | _ => []

/-- A leg writes the first lines of those that are still to be written. -/
theorem Routine.remaining_eq (valid : Bool) (routine : Routine) :
    routine.remaining valid =
      (routine.leg valid).lines ++
        (match (routine.leg valid).next with
        | some next => next.remaining valid
        | none => []) := by
  cases routine with
  | connect bot generation stage =>
      cases stage with
      | check => cases valid <;> rfl
      | _ => rfl
  | redeploy bot generation line slept =>
      cases slept with
      | false => rfl
      | true =>
          simp only [remaining, leg, Stage.leg, ↓reduceIte, Stage.remaining, List.append_assoc]
          rfl
  | _ => rfl

/-- A script names each line once, and only one of the two lines with which a sequence is over. -/
theorem Event.script_once (least : Int) (event : Event) :
    (event.script least).Nodup ∧
      ¬(runningLine ∈ event.script least ∧ invalidTokenLine ∈ event.script least) := by
  have once (valid : Bool) : (redeployLine :: connectLines valid).Nodup ∧
      ¬(runningLine ∈ redeployLine :: connectLines valid ∧
        invalidTokenLine ∈ redeployLine :: connectLines valid) := by
    cases valid <;> decide
  have shorter (valid : Bool) : (connectLines valid).Nodup ∧
      ¬(runningLine ∈ connectLines valid ∧ invalidTokenLine ∈ connectLines valid) := by
    obtain ⟨nodup, apart⟩ := once valid
    refine ⟨(List.nodup_cons.mp nodup).2, ?_⟩
    rintro ⟨runs, fails⟩
    exact apart ⟨List.mem_cons_of_mem _ runs, List.mem_cons_of_mem _ fails⟩
  unfold script
  split
  · exact shorter _
  · exact shorter _
  · exact once _
  · simp

/-- A sequence has nothing to say at its start but the line of an update. -/
def Routine.announces : Routine → Bool
  | .redeploy _ _ line _ => line == none || line == some redeployLine
  | _ => true

/-- A leg of the connect sequence lets its bot fail when it writes that the token is invalid, and
run when it writes that the bot is running. -/
theorem Stage.outcome_iff (bot generation : Int) (valid : Bool) (stage : Stage) :
    ((stage.leg bot generation valid).outcome = some .error ↔
        invalidTokenLine ∈ (stage.leg bot generation valid).lines) ∧
      ((stage.leg bot generation valid).outcome = some .running ↔
        runningLine ∈ (stage.leg bot generation valid).lines) := by
  cases stage with
  | check => cases valid <;> simp [leg, invalidTokenLine, runningLine]
  | _ => simp [leg, invalidTokenLine, runningLine]

/-- Nor does the line of an update let a bot fail or run. -/
theorem Routine.outcome_iff {valid : Bool} {routine : Routine}
    (announces : routine.announces = true) :
    ((routine.leg valid).outcome = some .error ↔ invalidTokenLine ∈ (routine.leg valid).lines) ∧
      ((routine.leg valid).outcome = some .running ↔ runningLine ∈ (routine.leg valid).lines) := by
  cases routine with
  | connect bot generation stage => exact stage.outcome_iff bot generation valid
  | redeploy bot generation line slept =>
      have spoken : line = none ∨ line = some redeployLine := by
        simpa [Routine.announces] using announces
      cases slept with
      | false => simp [leg]
      | true =>
          rcases spoken with rfl | rfl <;>
            simp [leg, Stage.leg, spokenLines, redeployLine, invalidTokenLine, runningLine]
  | _ => simp [leg]

/-- A leg leads to a sequence that has nothing more to announce than it had. -/
theorem Routine.announces_next {valid : Bool} {routine next : Routine}
    (announces : routine.announces = true) (goes : (routine.leg valid).next = some next) :
    next.announces = true := by
  cases routine with
  | connect bot generation stage =>
      cases stage with
      | check =>
          simp only [leg, Stage.leg] at goes
          split at goes
          · simp only [Option.some.injEq] at goes
            subst goes
            rfl
          · contradiction
      | attempt | validate | establish =>
          simp only [leg, Stage.leg, Option.some.injEq] at goes
          subst goes
          rfl
      | finish => contradiction
  | redeploy bot generation line slept =>
      cases slept with
      | false =>
          simp only [leg, Bool.false_eq_true, ↓reduceIte, Option.some.injEq] at goes
          subst goes
          exact announces
      | true =>
          simp only [leg, Stage.leg, ↓reduceIte, Option.some.injEq] at goes
          subst goes
          rfl
  | _ => contradiction

/-! ## What has been written -/

/-- The lines that the sequences of a generation of a bot have written. -/
def linesOf (passages : List Passage) (bot generation : Int) : List String :=
  (passages.filter fun passage => passage.bot == bot && passage.generation == generation).flatMap
    (·.lines)

theorem linesOf_append (earlier later : List Passage) (bot generation : Int) :
    linesOf (earlier ++ later) bot generation =
      linesOf earlier bot generation ++ linesOf later bot generation := by
  unfold linesOf
  rw [List.filter_append, List.flatMap_append]

theorem linesOf_concat (passages : List Passage) (passage : Passage) (bot generation : Int) :
    linesOf (passages ++ [passage]) bot generation =
      linesOf passages bot generation ++
        if passage.bot = bot ∧ passage.generation = generation then passage.lines else [] := by
  rw [linesOf_append]
  by_cases same : passage.bot = bot ∧ passage.generation = generation
  · simp [linesOf, same]
  · have apart : (passage.bot == bot && passage.generation == generation) = false := by
      simpa using same
    simp [linesOf, apart, same]

/-- A passage shows a stopped bot that fails with the line that says so, or begins to run with the
line that says so. -/
structure Passage.Telling (passage : Passage) : Prop where
  before : passage.before = some .stopped
  fails : passage.after = some .error ↔ invalidTokenLine ∈ passage.lines
  runs : passage.after = some .running ↔ runningLine ∈ passage.lines

/-- The passage of a leg that finds its bot stopped is telling. -/
theorem Passage.telling_of_leg {valid : Bool} {routine : Routine} (bot generation : Int)
    (announces : routine.announces = true) :
    let leg := routine.leg valid
    Passage.Telling
      { bot, generation, lines := leg.lines, before := some .stopped
        after := some (leg.outcome.getD .stopped) } := by
  intro leg
  obtain ⟨fails, runs⟩ : (leg.outcome = some .error ↔ invalidTokenLine ∈ leg.lines) ∧
      (leg.outcome = some .running ↔ runningLine ∈ leg.lines) := Routine.outcome_iff announces
  have status (status : Status) (moved : status ≠ .stopped) :
      some (leg.outcome.getD .stopped) = some status ↔ leg.outcome = some status := by
    cases leg.outcome with
    | none => simp [Ne.symm moved]
    | some outcome => simp
  refine ⟨rfl, ?_, ?_⟩
  · exact (status .error (by simp)).trans fails
  · exact (status .running (by simp)).trans runs

/-- An event begins a generation of a bot. -/
def Event.Begins (event : Event) (bot generation : Int) : Prop :=
  event.bot = bot ∧ event.record.generation = generation

namespace View

/-- What has been written and what is still to be written make up the scripts. -/
structure Traced (least : Int) (v : View) (events : List Event) (passages : List Passage) :
    Prop where
  begun : ∀ event ∈ events, event.bot < v.nextId ∧ ∀ record, v.record event.bot = some record →
    event.record.generation ≤ record.generation
  unbegun : ∀ bot generation, (∀ event ∈ events, ¬event.Begins bot generation) →
    linesOf passages bot generation = []
  written : ∀ event ∈ events,
    linesOf passages event.bot event.record.generation <+: event.script least
  going : ∀ {task routine bot generation}, v.acting task = some routine →
    routine.sequence? = some (bot, generation) → routine.announces = true ∧
      (∃ event ∈ events, event.Begins bot generation) ∧
      ∀ event ∈ events, event.Begins bot generation →
        (∀ record, v.record bot = some record → record.token = event.record.token) ∧
        linesOf passages bot generation ++
            routine.remaining (isTokenValid event.record.token least) = event.script least
  telling : ∀ passage ∈ passages, passage.Telling

namespace Traced

variable {least : Int} {v v' : View} {event : Event} {events : List Event}
  {passages : List Passage}

/-- Bots keep their tokens and go on to no earlier generation, and no other sequence acts. -/
theorem keep (traced : Traced least v events passages) (numbers : v.nextId ≤ v'.nextId)
    (records : ∀ bot record', v'.record bot = some record' → ∃ record, v.record bot = some record ∧
      record.generation ≤ record'.generation ∧ record'.token = record.token)
    (acting : ∀ task routine bot generation, v'.acting task = some routine →
      routine.sequence? = some (bot, generation) → v.acting task = some routine) :
    Traced least v' events passages where
  begun event member := by
    obtain ⟨given, older⟩ := traced.begun event member
    refine ⟨Int.lt_of_lt_of_le given numbers, ?_⟩
    intro record' found'
    obtain ⟨record, found, later, -⟩ := records _ _ found'
    exact Int.le_trans (older record found) later
  unbegun := traced.unbegun
  written := traced.written
  going acts belongs := by
    obtain ⟨announces, source, all⟩ := traced.going (acting _ _ _ _ acts belongs) belongs
    refine ⟨announces, source, ?_⟩
    intro event member begins
    obtain ⟨token, whole⟩ := all event member begins
    refine ⟨?_, whole⟩
    intro record' found'
    obtain ⟨record, found, -, same⟩ := records _ _ found'
    rw [same]
    exact token record found
  telling := traced.telling

/-- What is written for a bot leaves its generation and its token as they are. -/
theorem rewrite (traced : Traced least v events passages) {id : Int} {old record : Record}
    (found : v.record id = some old) (generation : record.generation = old.generation)
    (token : record.token = old.token) : Traced least (v.write id record) events passages := by
  refine traced.keep (Int.le_refl _) ?_ fun _ _ _ _ acts _ => acts
  intro bot record' found'
  rw [record_write] at found'
  split at found'
  · rename_i same
    rw [Option.some.injEq] at found'
    rw [same, ← found']
    exact ⟨old, found, Int.le_of_eq generation.symm, token⟩
  · exact ⟨record', found', Int.le_refl _, rfl⟩

/-- A task goes on with something that is no sequence. -/
theorem tick (traced : Traced least v events passages) {task : Nat} (routine : Routine)
    (apart : routine.sequence? = none) :
    Traced least (v.proceed task (some routine)) events passages := by
  refine traced.keep (Int.le_refl _)
    (fun bot record found => ⟨record, found, Int.le_refl _, rfl⟩) ?_
  intro other routine' bot generation acts belongs
  rw [acting_proceed] at acts
  split at acts
  · rw [Option.some.injEq] at acts
    rw [← acts, apart] at belongs
    contradiction
  · exact acts

/-- A sequence goes its leg, and what it writes is what its script has next. -/
theorem goLeg (sound : Sound least v) (traced : Traced least v events passages) {task : Nat}
    {routine : Routine} {id generation : Int} {record : Record}
    (acts : v.acting task = some routine) (belongs : routine.sequence? = some (id, generation))
    (found : v.record id = some record) :
    let leg := routine.leg (isTokenValid record.token least)
    Traced least (v.goLeg task id record leg) events
      (passages ++
        [{ bot := id, generation, lines := leg.lines, before := some record.status
           after := some (leg.outcome.getD record.status) }]) := by
  intro leg
  obtain ⟨announces, ⟨source, member, begins⟩, all⟩ := traced.going acts belongs
  obtain ⟨entry, record', found', backs⟩ := sound.sequence acts belongs
  rw [found, Option.some.injEq] at found'
  subst found'
  -- the record has the token of the event, so that the leg is the next one of the script
  have whole : ∀ event ∈ events, event.Begins id generation →
      (linesOf passages id generation ++ leg.lines) ++
          (match leg.next with
          | some next => next.remaining (isTokenValid event.record.token least)
          | none => []) = event.script least := by
    intro event member begins
    obtain ⟨token, whole⟩ := all event member begins
    rw [Routine.remaining_eq, ← token record found, ← List.append_assoc] at whole
    rw [← token record found]
    exact whole
  refine ⟨?begun, ?unbegun, ?written, ?going, ?telling⟩
  case begun =>
    intro event member
    obtain ⟨given, older⟩ := traced.begun event member
    rw [nextId_goLeg]
    refine ⟨given, ?_⟩
    intro record' found'
    rw [record_goLeg] at found'
    split at found'
    · rename_i same
      rw [Option.some.injEq] at found'
      rw [← found']
      exact older record (same ▸ found)
    · exact older record' found'
  case unbegun =>
    intro bot number unbegun
    rw [linesOf_concat, traced.unbegun bot number unbegun, if_neg]
    · rfl
    · rintro ⟨rfl, rfl⟩
      exact unbegun source member begins
  case written =>
    intro event member
    rw [linesOf_concat]
    split
    · rename_i same
      rw [← same.1, ← same.2]
      exact ⟨_, whole event member ⟨same.1.symm, same.2.symm⟩⟩
    · rw [List.append_nil]
      exact traced.written event member
  case going =>
    intro other routine' bot number acts' belongs'
    rcases acting_of_goLeg acts' belongs' with ⟨-, ahead⟩ | ⟨apart, before⟩
    · have same := (Routine.leg_goes ahead).2
      rw [belongs', belongs, Option.some.injEq, Prod.mk.injEq] at same
      obtain ⟨rfl, rfl⟩ := same
      refine ⟨Routine.announces_next announces ahead, ⟨source, member, begins⟩, ?_⟩
      intro event member begins
      refine ⟨?_, ?_⟩
      · intro record' found'
        rw [record_goLeg, if_pos rfl, Option.some.injEq] at found'
        rw [← found']
        exact (all event member begins).1 record found
      · have rest := whole event member begins
        rw [ahead] at rest
        rw [linesOf_concat, if_pos ⟨rfl, rfl⟩]
        exact rest
    · have other : bot ≠ id := by
        rintro rfl
        have entry' := (sound.sequence before belongs').1
        rw [entry, Option.some.injEq] at entry'
        exact apart entry'.symm
      rw [record_goLeg, if_neg other, linesOf_concat, if_neg fun same => other same.1.symm,
        List.append_nil]
      exact traced.going before belongs'
  case telling =>
    intro passage member
    rcases List.mem_append.mp member with member | member
    · exact traced.telling passage member
    · rw [List.mem_singleton.mp member, backs.stopped]
      exact Passage.telling_of_leg id generation announces

/-- A generation later than those that its bot has had is not begun, and nothing has been written
for it. -/
theorem unbegun_of_later (traced : Traced least v events passages)
    (later : ∀ earlier ∈ events, earlier.bot = event.bot →
      earlier.record.generation < event.record.generation) :
    (∀ earlier ∈ events, ¬earlier.Begins event.bot event.record.generation) ∧
      linesOf passages event.bot event.record.generation = [] := by
  have unbegun : ∀ earlier ∈ events, ¬earlier.Begins event.bot event.record.generation := by
    rintro earlier member ⟨same, begins⟩
    exact absurd begins (Int.ne_of_lt (later earlier member same))
  exact ⟨unbegun, traced.unbegun _ _ unbegun⟩

/-- An event begins a generation that is later than those its bot has had. The bot gets a record of
the generation, and no sequence acts on it. -/
theorem concat (traced : Traced least v events passages) (event : Event) (record : Record)
    (numbers : v.nextId ≤ v'.nextId) (given : event.bot < v'.nextId)
    (records : ∀ bot, v'.record bot = if bot = event.bot then some record else v.record bot)
    (generation : record.generation = event.record.generation)
    (later : ∀ earlier ∈ events, earlier.bot = event.bot →
      earlier.record.generation < event.record.generation)
    (acting : ∀ task routine bot generation, v'.acting task = some routine →
      routine.sequence? = some (bot, generation) → v.acting task = some routine ∧ bot ≠ event.bot) :
    Traced least v' (events ++ [event]) passages := by
  refine ⟨?_, ?_, ?_, ?_, traced.telling⟩
  · intro earlier member
    rcases List.mem_append.mp member with member | member
    · obtain ⟨before, older⟩ := traced.begun earlier member
      refine ⟨Int.lt_of_lt_of_le before numbers, ?_⟩
      intro record' found
      rw [records] at found
      split at found
      · rename_i same
        rw [Option.some.injEq] at found
        rw [← found, generation]
        exact Int.le_of_lt (later earlier member same)
      · exact older record' found
    · rw [List.mem_singleton.mp member]
      refine ⟨given, ?_⟩
      intro record' found
      rw [records, if_pos rfl, Option.some.injEq] at found
      exact Int.le_of_eq (generation.symm.trans (congrArg Record.generation found))
  · intro bot number unbegun
    exact traced.unbegun bot number fun earlier member =>
      unbegun earlier (List.mem_append_left _ member)
  · intro earlier member
    rcases List.mem_append.mp member with member | member
    · exact traced.written earlier member
    · rw [List.mem_singleton.mp member, (traced.unbegun_of_later later).2]
      exact List.nil_prefix
  · intro task routine bot number acts belongs
    obtain ⟨before, apart⟩ := acting task routine bot number acts belongs
    obtain ⟨announces, ⟨source, member, begins⟩, all⟩ := traced.going before belongs
    refine ⟨announces, ⟨source, List.mem_append_left _ member, begins⟩, ?_⟩
    intro earlier member begins
    rcases List.mem_append.mp member with member | member
    · rw [records, if_neg apart]
      exact all earlier member begins
    · rw [List.mem_singleton.mp member] at begins
      exact absurd begins.1.symm apart

/-- The bot of an event is given the sequence that the script of the event lays down, if no other
event has begun the generation and nothing has been written for it. -/
theorem schedule (event : Event) (traced : Traced least v (events ++ [event]) passages)
    (routine : Routine)
    (unbegun : (∀ earlier ∈ events, ¬earlier.Begins event.bot event.record.generation) ∧
      linesOf passages event.bot event.record.generation = []) {record : Record}
    (found : v.record event.bot = some record) (token : record.token = event.record.token)
    (belongs : routine.sequence? = some (event.bot, event.record.generation))
    (announces : routine.announces = true)
    (script : routine.remaining (isTokenValid event.record.token least) = event.script least) :
    Traced least (v.schedule event.bot routine) (events ++ [event]) passages := by
  refine ⟨traced.begun, traced.unbegun, traced.written, ?_, traced.telling⟩
  intro task routine' bot number acts belongs'
  change (v.spawn routine).acting task = some routine' at acts
  rw [acting_spawn, if_pos (Routine.acts_of_sequence? belongs)] at acts
  split at acts
  · rw [Option.some.injEq] at acts
    subst acts
    rw [belongs, Option.some.injEq, Prod.mk.injEq] at belongs'
    obtain ⟨rfl, rfl⟩ := belongs'
    refine ⟨announces, ⟨event, by simp, rfl, rfl⟩, ?_⟩
    intro earlier member begins
    rcases List.mem_append.mp member with member | member
    · exact absurd begins (unbegun.1 earlier member)
    · rw [List.mem_singleton.mp member, unbegun.2]
      refine ⟨?_, script⟩
      intro record' found'
      change v.record event.bot = some record' at found'
      rw [found, Option.some.injEq] at found'
      rw [← found', token]
  · exact traced.going acts belongs'

/-- The generations that a bot has had are earlier than the next one. -/
theorem later_of_found (traced : Traced least v events passages) {old : Record}
    (found : v.record event.bot = some old)
    (next : event.record.generation = old.generation + 1) :
    ∀ earlier ∈ events, earlier.bot = event.bot →
      earlier.record.generation < event.record.generation := by
  intro earlier member same
  have older := (traced.begun earlier member).2 old (same ▸ found)
  omega

/-- A bot that is there gets a record of its next generation, and what was pending for it ends. -/
theorem rest (sound : Sound least v) (traced : Traced least v events passages) (event : Event)
    {old : Record} (found : v.record event.bot = some old) (record : Record)
    (generation : record.generation = event.record.generation)
    (next : event.record.generation = old.generation + 1) :
    Traced least ((v.interrupt event.bot).write event.bot record) (events ++ [event]) passages := by
  refine traced.concat event record ?_ ?_ ?_ generation (traced.later_of_found found next) ?_
  · exact Int.le_of_eq (nextId_interrupt v event.bot).symm
  · change event.bot < (v.interrupt event.bot).nextId
    rw [nextId_interrupt]
    exact sound.record_lt found
  · intro bot
    rw [record_write, record_interrupt]
  · intro task routine bot number acts belongs
    exact sound.sequence_interrupt acts belongs

/-- A bot that is there gets a record of its next generation, and the sequence that the script lays
down. -/
theorem redeploy (sound : Sound least v) (traced : Traced least v events passages) (event : Event)
    {old : Record} (found : v.record event.bot = some old) (record : Record)
    (generation : record.generation = event.record.generation)
    (token : record.token = event.record.token)
    (next : event.record.generation = old.generation + 1) {routine : Routine}
    (belongs : routine.sequence? = some (event.bot, event.record.generation))
    (announces : routine.announces = true)
    (script : routine.remaining (isTokenValid event.record.token least) = event.script least) :
    Traced least (((v.interrupt event.bot).write event.bot record).schedule event.bot routine)
      (events ++ [event]) passages :=
  (traced.rest sound event found record generation next).schedule event routine
    (traced.unbegun_of_later (traced.later_of_found found next)) (by simp) token belongs announces
    script

/-- A bot that is new gets its record, and the sequence that the script lays down. -/
theorem launch (sound : Sound least v) (traced : Traced least v events passages) (event : Event)
    (bot : event.bot = v.nextId) (record : Record)
    (generation : record.generation = event.record.generation)
    (token : record.token = event.record.token) {routine : Routine}
    (belongs : routine.sequence? = some (event.bot, event.record.generation))
    (announces : routine.announces = true)
    (script : routine.remaining (isTokenValid event.record.token least) = event.script least) :
    Traced least ((v.enter record).schedule v.nextId routine) (events ++ [event]) passages := by
  -- no bot has had the number, so that no event has begun any of its generations
  have later : ∀ earlier ∈ events, earlier.bot = event.bot →
      earlier.record.generation < event.record.generation := by
    intro earlier member same
    have given := (traced.begun earlier member).1
    rw [same, bot] at given
    exact absurd given (Int.lt_irrefl _)
  have stands : ∀ id, (v.enter record).record id =
      if id = event.bot then some record else v.record id := by
    intro id
    rw [record_enter, bot]
  have entered : Traced least (v.enter record) (events ++ [event]) passages := by
    refine traced.concat event record (Int.le_of_lt (Int.lt_succ _)) ?_ stands generation later ?_
    · rw [bot]
      exact Int.lt_succ _
    · intro task routine other number acts belongs
      obtain ⟨-, record, found, -⟩ := sound.sequence acts belongs
      refine ⟨acts, ?_⟩
      rw [bot]
      exact Int.ne_of_lt (sound.record_lt found)
  rw [← bot]
  exact entered.schedule event routine (traced.unbegun_of_later later)
    ((stands event.bot).trans (if_pos rfl)) token belongs announces script

/-- A bot that goes leaves the others as they are. -/
theorem remove (sound : Sound least v) (traced : Traced least v events passages) (id : Int) :
    Traced least ((v.interrupt id).erase id) events passages := by
  refine traced.keep (Int.le_of_eq (nextId_interrupt v id).symm) ?_ ?_
  · intro bot record' found'
    rw [record_erase, record_interrupt] at found'
    split at found'
    · contradiction
    · exact ⟨record', found', Int.le_refl _, rfl⟩
  · intro task routine bot generation acts belongs
    exact (sound.sequence_interrupt acts belongs).1

theorem dropTicker (traced : Traced least v events passages) (id : Int) :
    Traced least (v.dropTicker id) events passages := by
  refine traced.keep (Int.le_of_eq (nextId_dropTicker v id).symm) ?_ ?_
  · intro bot record found
    rw [record_dropTicker] at found
    exact ⟨record, found, Int.le_refl _, rfl⟩
  · intro task routine bot generation acts belongs
    exact acting_of_dropTicker acts

/-- Every transition stays traced. -/
theorem transition (sound : Sound least v) (traced : Traced least v events passages)
    {event : Option Event} {passage : Option Passage}
    (moved : Transition least v event passage v') :
    Traced least v' (events ++ event.toList) (passages ++ passage.toList) := by
  have quiet (same : Traced least v' events passages) :
      Traced least v' (events ++ (none : Option Event).toList)
        (passages ++ (none : Option Passage).toList) := by
    rw [Option.toList_none, Option.toList_none, List.append_nil, List.append_nil]
    exact same
  cases moved with
  | @launch code token language named answer name face =>
      rw [Option.toList_none, List.append_nil]
      have bot : answer.id = v.nextId := (congrArg Record.id face :)
      have generation : answer.generation = 0 := (congrArg Record.generation face :)
      have same : answer.token = token := (congrArg Record.token face :)
      refine traced.launch sound ⟨.launch code token language, answer⟩ bot
        (.newcomer v.nextId code token named) generation.symm same.symm ?_ rfl rfl
      change some (v.nextId, 0) = some (answer.id, answer.generation)
      rw [bot, generation]
  | @update id record code token language named answer found name face =>
      rw [Option.toList_none, List.append_nil]
      have generation : answer.generation = record.generation + 1 :=
        (congrArg Record.generation face :)
      have same : answer.token = token := (congrArg Record.token face :)
      refine traced.redeploy sound ⟨.update id code token language, answer⟩ found
        (record.reconfigured code token named) generation.symm same.symm generation ?_ rfl rfl
      change some (id, record.generation + 1) = some (id, answer.generation)
      rw [generation]
  | @restart id record answer found face =>
      rw [Option.toList_none, List.append_nil]
      have generation : answer.generation = record.generation + 1 :=
        (congrArg Record.generation face :)
      have same : answer.token = record.token := (congrArg Record.token face :)
      refine traced.redeploy sound ⟨.restart id, answer⟩ found record.renewed generation.symm
        same.symm generation ?_ rfl rfl
      change some (id, record.generation + 1) = some (id, answer.generation)
      rw [generation]
  | @stop id record answer found face =>
      rw [Option.toList_none, List.append_nil]
      have generation : answer.generation = record.generation + 1 :=
        (congrArg Record.generation face :)
      exact traced.rest sound ⟨.stop id, answer⟩ found record.halted generation.symm generation
  | @delete id record found => exact quiet (traced.remove sound id)
  | turn found running turn =>
      obtain ⟨record, messages, found', rfl⟩ := turn
      exact quiet (traced.rewrite found' rfl rfl)
  | leg acts belongs found goes =>
      subst goes
      rw [Option.toList_none, List.append_nil]
      exact traced.goLeg sound acts belongs found
  | @begin task id acts => exact quiet (traced.tick (.ticker id true) rfl)
  | @tick task id record cpuUsage ramUsage acts found running =>
      have written : Traced least (v.write id { record with cpuUsage, ramUsage }) events passages :=
        traced.rewrite found rfl rfl
      exact quiet (written.tick (.ticker id true) rfl)
  | @halt task id record acts found running =>
      have kept : (v.dropTicker id).record id = some record := by
        rw [record_dropTicker]
        exact found
      exact quiet ((traced.dropTicker id).rewrite kept rfl rfl)
  | idle counts =>
      exact quiet (traced.keep (Int.le_refl _)
        (fun bot record found => ⟨record, found, Int.le_refl _, rfl⟩) fun _ _ _ _ acts _ => acts)

end Traced

end View

namespace Bench

/-- Every run is traced. -/
theorem traced_run (config : Config) (draws : Draws) (moves : List Move) :
    View.Traced config.settings.minTokenPrefix ((opening draws).run config moves).view
      ((opening draws).history config moves) ((opening draws).passages config moves) := by
  have start : View.Traced config.settings.minTokenPrefix (opening draws).view [] [] := by
    refine ⟨by simp, fun _ _ _ => rfl, by simp, ?_, by simp⟩
    intro task routine bot generation acts
    simp [view, opening, acting?] at acts
  refine remembered_views_keep (motive := View.Traced config.settings.minTokenPrefix)
    (fun sound traced moved => traced.transition sound moved) ?_ start moves
  intro v acting events passages spared traced
  refine traced.keep (Int.le_refl _)
    (fun bot record found => ⟨record, found, Int.le_refl _, rfl⟩) ?_
  intro task routine bot generation acts belongs
  exact (spared task routine acts).1

/-- While a generation is stale, nothing is written for it. -/
theorem linesOf_stale (config : Config) {b : Bench}
    (sound : b.view.Sound config.settings.minTokenPrefix) {bot generation : Int}
    (stale : b.Stale bot generation) (moves : List Move) :
    linesOf (b.passages config moves) bot generation = [] := by
  refine (remembered_keeps (motive := fun b _ passages =>
    b.view.Sound config.settings.minTokenPrefix ∧ b.Stale bot generation ∧
      linesOf passages bot generation = []) ?_ [] [] ⟨sound, stale, rfl⟩ moves).2.2
  rintro b events passages move ⟨sound, stale, silent⟩
  have listed : b.view.Listed := fun id record => sound.record_lt
  refine ⟨sound_step sound move, stale.precedes listed (step_precedes config listed move), ?_⟩
  cases made : b.passage? config move with
  | none => simpa using silent
  | some passage =>
      obtain ⟨record, -, found, same, -⟩ := logged_of_passage? sound made
      have current : b.isCurrent passage.bot passage.generation = true :=
        isCurrent_eq_true_iff.mpr ⟨record, found, same⟩
      rw [Option.toList_some, linesOf_concat, silent, if_neg]
      · rfl
      · rintro ⟨rfl, rfl⟩
        rw [stale.not_current] at current
        contradiction

/-- A generation that comes before one that an event of its bot has begun is stale. -/
theorem stale_of_begun (config : Config) (draws : Draws) (moves : List Move) {event : Event}
    (member : event ∈ (opening draws).history config moves) {generation : Int}
    (before : generation < event.record.generation) :
    ((opening draws).run config moves).Stale event.bot generation := by
  obtain ⟨given, older⟩ := (traced_run config draws moves).begun event member
  unfold Stale
  cases found : ((opening draws).run config moves).registry.find? event.bot with
  | none => exact given
  | some record =>
      have reached : event.record.generation ≤ record.generation :=
        older record.unlogged (view_of_find? found)
      exact Int.lt_of_lt_of_le before reached

/-- **Sequences follow their scripts.** At every point of every run, whatever the sequence of a
generation has written is a prefix of the script of the event that began the generation, and a
generation that no event began has written nothing. No line is written twice, and never both the
line of an invalid token and that of a running bot. Each resumption of a sequence writes its lines
into the log of its bot and into no other; it finds the bot stopped, which fails exactly with the
line of an invalid token and runs exactly with the line of a running bot. An event of a bot puts an
end to the generations before its own, and once a generation has come to its end nothing more is
written for it. -/
theorem sequence_follows_script (config : Config) (draws : Draws) (moves : List Move) :
    let events := (opening draws).history config moves
    let passages := (opening draws).passages config moves
    (∀ event ∈ events, linesOf passages event.bot event.record.generation <+:
        event.script config.settings.minTokenPrefix) ∧
      (∀ bot generation, (∀ event ∈ events, ¬event.Begins bot generation) →
        linesOf passages bot generation = []) ∧
      (∀ bot generation, (linesOf passages bot generation).Nodup ∧
        ¬(runningLine ∈ linesOf passages bot generation ∧
          invalidTokenLine ∈ linesOf passages bot generation)) ∧
      (∀ passage ∈ passages, passage.Telling) ∧
      (∀ earlier move later passage, moves = earlier ++ move :: later →
        ((opening draws).run config earlier).passage? config move = some passage →
        ((opening draws).run config earlier).Logged config move passage) ∧
      (∀ event ∈ events, ∀ generation < event.record.generation,
        ((opening draws).run config moves).Stale event.bot generation) ∧
      ∀ earlier later bot generation, moves = earlier ++ later →
        ((opening draws).run config earlier).Stale bot generation →
        linesOf passages bot generation =
          linesOf ((opening draws).passages config earlier) bot generation := by
  intro events passages
  have traced := traced_run config draws moves
  refine ⟨traced.written, traced.unbegun, ?_, traced.telling, ?_, ?_, ?_⟩
  · intro bot generation
    by_cases begun : ∃ event ∈ events, event.Begins bot generation
    · obtain ⟨event, member, rfl, rfl⟩ := begun
      obtain ⟨nodup, apart⟩ := event.script_once config.settings.minTokenPrefix
      have follows := traced.written event member
      refine ⟨follows.sublist.nodup nodup, ?_⟩
      rintro ⟨runs, fails⟩
      exact apart ⟨follows.mem runs, follows.mem fails⟩
    · have silent : linesOf passages bot generation = [] :=
        traced.unbegun bot generation fun event member begins => begun ⟨event, member, begins⟩
      rw [silent]
      simp
  · intro earlier move later passage _ made
    exact logged_of_passage? (sound_run config draws earlier) made
  · intro event member generation before
    exact stale_of_begun config draws moves member before
  · rintro earlier later bot generation rfl stale
    change linesOf ((opening draws).passages config (earlier ++ later)) bot generation = _
    rw [passages_append, linesOf_append,
      linesOf_stale config (sound_run config draws earlier) stale later, List.append_nil]

/-- The first launch, whose token is valid, writes all the lines of its script, each once. -/
theorem sequence_follows_script_firstLaunch :
    let passages := (opening (.ofLists [] [])).passages .silent Move.firstLaunch
    linesOf passages 1 0 = connectLines true ∧ (linesOf passages 1 0).Nodup := by
  intro passages
  obtain ⟨-, -, once, -⟩ := sequence_follows_script .silent (.ofLists [] []) Move.firstLaunch
  refine ⟨?_, (once 1 0).1⟩
  unfold passages
  decide +kernel

end Bench

end BotBench
