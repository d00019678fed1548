import BotBench.Proofs.Bench.Provenance
import BotBench.Proofs.Bench.Ticking

/-! # Bots rest while they are deployed

A sequence that has still to act is the only one of its bot and belongs to the bot's current
generation, and until it is over the bot rests: it is stopped, its transcript is empty and nothing
ticks for it (`BotBench.Bench.live_sequence_rests`). A stopped bot uses nothing, whether or not a
sequence acts on it. Soundness of the view says all of this; what is added here is what it says of
the tasks and records of the bench itself, and that a bot at rest stays as it is while other bots are
operated (`BotBench.View.Transition.rests`). -/

namespace BotBench

namespace View

variable {least : Int} {v v' : View} {bot id : Int} {task : Nat} {routine : Routine}
  {generation : Int}

/-- Ending a ticker ends no sequence. -/
theorem Sound.acting_dropTicker (sound : Sound least v) (id : Int)
    (acts : v.acting task = some routine) (belongs : routine.sequence? = some (bot, generation)) :
    (v.dropTicker id).acting task = some routine := by
  unfold View.dropTicker
  split
  · rename_i ended entry
    refine (acting_proceed ..).trans ((if_neg ?_).trans acts)
    rintro rfl
    obtain ⟨⟨slept, ticks⟩, -⟩ := sound.ticker entry
    rw [acts, Option.some.injEq] at ticks
    subst ticks
    contradiction
  · exact acts

/-- Ending what is pending for one bot does not end the sequence of another one. -/
theorem Sound.acting_interrupt (sound : Sound least v) (apart : id ≠ bot)
    (acts : v.acting task = some routine) (belongs : routine.sequence? = some (bot, generation)) :
    (v.interrupt id).acting task = some routine := by
  refine (sound.dropSequencer id).acting_dropTicker id ?_ belongs
  unfold View.dropSequencer
  split
  · rename_i ended entry
    refine (acting_proceed ..).trans ((if_neg ?_).trans acts)
    rintro rfl
    obtain ⟨_, other⟩ := sound.sequencer entry acts
    rw [belongs, Option.some.injEq, Prod.mk.injEq] at other
    exact apart other.1.symm
  · exact acts

/-- From one view to another a bot rests: its record is the same, and a sequence of the bot has
still to act. -/
structure Rests (bot : Int) (v v' : View) : Prop where
  record : v'.record bot = v.record bot
  sequence : ∀ {task routine generation}, v.acting task = some routine →
    routine.sequence? = some (bot, generation) → v'.acting task = some routine

namespace Rests

theorem refl (bot : Int) (v : View) : Rests bot v v := ⟨rfl, fun acts _ => acts⟩

theorem write (rests : Rests bot v v') (apart : bot ≠ id) (record : Record) :
    Rests bot v (v'.write id record) :=
  ⟨by rw [record_write, if_neg apart, rests.record], rests.sequence⟩

theorem spawn (sound : Sound least v) (rests : Rests bot v v') (count : v'.count = v.count)
    (started : Routine) : Rests bot v (v'.spawn started) := by
  refine ⟨rests.record, ?_⟩
  intro task routine generation acts belongs
  rw [acting_spawn, if_neg (count ▸ Nat.ne_of_lt (sound.acting_lt acts))]
  exact rests.sequence acts belongs

theorem schedule (sound : Sound least v) (rests : Rests bot v v') (count : v'.count = v.count)
    (id : Int) (started : Routine) : Rests bot v (v'.schedule id started) :=
  have spawned := rests.spawn sound count started
  ⟨spawned.record, spawned.sequence⟩

theorem watch (sound : Sound least v) (rests : Rests bot v v') (count : v'.count = v.count)
    (id : Int) : Rests bot v (v'.watch id) :=
  have spawned := rests.spawn sound count (.ticker id false)
  ⟨spawned.record, spawned.sequence⟩

/-- What is no sequence of the bot may go on or end. -/
theorem proceed (rests : Rests bot v v') (acts : v.acting task = some routine)
    (foreign : ∀ generation, routine.sequence? ≠ some (bot, generation)) (next : Option Routine) :
    Rests bot v (v'.proceed task next) := by
  refine ⟨rests.record, ?_⟩
  intro other routine' generation acts' belongs
  rw [acting_proceed, if_neg]
  · exact rests.sequence acts' belongs
  · rintro rfl
    rw [acts, Option.some.injEq] at acts'
    exact foreign generation (acts' ▸ belongs)

theorem interrupt (sound : Sound least v) (apart : bot ≠ id) : Rests bot v (v.interrupt id) :=
  ⟨by rw [record_interrupt],
    fun acts belongs => sound.acting_interrupt (Ne.symm apart) acts belongs⟩

end Rests

/-- A bot that does not run rests while other bots are operated and their tasks go on. -/
theorem Transition.rests (sound : Sound least v) {event? : Option Event}
    {passage? : Option Passage} (transition : Transition least v event? passage? v')
    {record : Record} (found : v.record bot = some record) (idle : record.status ≠ .running)
    (there : v'.record bot ≠ none) (spared : ∀ event, event? = some event → event.bot ≠ bot)
    (unmoved : ∀ passage, passage? = some passage → passage.bot ≠ bot) : Rests bot v v' := by
  -- a bot that runs is another one
  have runs {other : Int} {seen : Record} (shown : v.record other = some seen)
      (running : seen.status = .running) : bot ≠ other := by
    rintro rfl
    rw [found, Option.some.injEq] at shown
    exact idle (shown ▸ running)
  have same : Rests bot v v := .refl bot v
  cases transition with
  | @launch code token language named answer name face =>
      have known : bot ≠ v.nextId := Int.ne_of_lt (sound.record_lt found)
      have entered : Rests bot v (v.enter (.newcomer v.nextId code token named)) :=
        ⟨by rw [record_enter, if_neg known], same.sequence⟩
      exact entered.schedule sound rfl _ _
  | update found' name face =>
      have apart := Ne.symm (spared _ rfl)
      exact ((Rests.interrupt sound apart).write apart _).schedule sound (count_interrupt ..) _ _
  | restart found' face =>
      have apart := Ne.symm (spared _ rfl)
      exact ((Rests.interrupt sound apart).write apart _).schedule sound (count_interrupt ..) _ _
  | stop found' face =>
      have apart := Ne.symm (spared _ rfl)
      exact (Rests.interrupt sound apart).write apart _
  | @delete id _ found' =>
      have apart : bot ≠ id := by
        rintro rfl
        simp at there
      refine ⟨?_, (Rests.interrupt sound apart).sequence⟩
      rw [record_erase, if_neg apart, record_interrupt]
  | turn found' running turn =>
      obtain ⟨seen, messages, shown, rfl⟩ := turn
      exact same.write (runs found' running) _
  | @leg task routine id generation seen leg acts belongs found' goes =>
      have apart := Ne.symm (unmoved _ rfl)
      have foreign (generation' : Int) : routine.sequence? ≠ some (bot, generation') := by
        rw [belongs, ne_eq, Option.some.injEq, Prod.mk.injEq]
        exact fun both => apart both.1.symm
      have written := same.write apart (seen.marked leg.outcome)
      unfold goLeg
      dsimp only
      refine Rests.proceed ?_ acts foreign leg.next
      split
      · exact written.watch sound rfl id
      · exact written
  | begin acts => exact same.proceed acts (by simp [Routine.sequence?]) _
  | tick acts found' running =>
      exact (same.write (runs found' running) _).proceed acts (by simp [Routine.sequence?]) _
  | @halt task id seen acts found' running =>
      have dropped : Rests bot v (v.dropTicker id) :=
        ⟨by rw [record_dropTicker], fun acts belongs => sound.acting_dropTicker id acts belongs⟩
      exact dropped.write (runs found' running) _
  | idle counts => exact ⟨rfl, same.sequence⟩

end View

namespace Bench

variable {config : Config} {b : Bench} {least : Int}

/-- The task `task` is a sequence of a generation of a bot and is neither cancelled nor at its end.
-/
def LiveSequence (b : Bench) (id generation : Int) (task : Nat) : Prop :=
  ∃ found, b.tasks[task]? = some found ∧ found.routine.sequence? = some (id, generation) ∧
    found.state ≠ .finished ∧ found.cancelled = false

theorem liveSequence_iff {id generation : Int} {task : Nat} :
    b.LiveSequence id generation task ↔
      ∃ routine, b.view.acting task = some routine ∧ routine.sequence? = some (id, generation) := by
  constructor
  · rintro ⟨found, present, belongs, unfinished, kept⟩
    have acts := Routine.acts_of_sequence? belongs
    exact ⟨_, acting?_eq_some_iff.mpr ⟨found, present, unfinished, kept, acts, rfl⟩, belongs⟩
  · rintro ⟨routine, acts, belongs⟩
    obtain ⟨found, present, unfinished, kept, -, rfl⟩ := acting?_eq_some_iff.mp acts
    exact ⟨found, present, belongs, unfinished, kept⟩

/-- A live sequence stands in the table, and the record of its bot backs it. -/
theorem LiveSequence.backed (sound : b.view.Sound least) {id generation : Int} {task : Nat}
    (live : b.LiveSequence id generation task) :
    entry? b.sequencers id = some task ∧ b.isTicking id = false ∧
      ∃ record, b.registry.find? id = some record ∧ record.generation = generation ∧
        record.status = .stopped ∧ record.messages = [] := by
  obtain ⟨routine, acts, belongs⟩ := liveSequence_iff.mp live
  obtain ⟨entry, seen, shown, backs⟩ := sound.sequence acts belongs
  obtain ⟨record, found, rfl⟩ := find?_of_view shown
  refine ⟨entry, ?_, record, found, backs.current, backs.stopped, backs.messages⟩
  have unwatched := sound.unwatched acts belongs
  have idle : ¬ b.isTicking id = true := by
    rw [isTicking_iff_entry sound, unwatched]
    simp
  simpa using idle

/-- **Bots rest while they are deployed.** At every point of every run, a live sequence of a bot is
the one in the table and the only one of the bot. The bot is there and has the generation of the
sequence, it is stopped, its transcript is empty and it does not tick. Every stopped bot uses
neither processor nor memory. -/
theorem live_sequence_rests (config : Config) (draws : Draws) (moves : List Move) :
    let b := (opening draws).run config moves
    (∀ id generation task, b.LiveSequence id generation task →
      entry? b.sequencers id = some task ∧
        (∀ generation' other, b.LiveSequence id generation' other → other = task) ∧
        b.isTicking id = false ∧
        ∃ record, b.registry.find? id = some record ∧ record.generation = generation ∧
          record.status = .stopped ∧ record.messages = []) ∧
      ∀ id record, b.registry.find? id = some record → record.status = .stopped →
        record.cpuUsage = 0 ∧ record.ramUsage = 0 := by
  intro b
  have sound : b.view.Sound config.settings.minTokenPrefix := sound_run config draws moves
  constructor
  · intro id generation task live
    obtain ⟨entry, idle, rests⟩ := live.backed sound
    refine ⟨entry, ?_, idle, rests⟩
    intro generation' other live'
    obtain ⟨entry', -⟩ := live'.backed sound
    rw [entry, Option.some.injEq] at entry'
    exact entry'.symm
  · intro id record found stopped
    have proper := sound.proper (view_of_find? found)
    exact proper.stopped stopped

/-- A bot that is updated while its first sequence is on its way rests for its second one. -/
theorem live_sequence_rests_updated :
    let b := (opening (.ofLists [] [])).run .silent (Move.firstLaunch.take 4 ++
      [.operate (.update 1 "print()" "123456:token" (.str "python"))])
    b.LiveSequence 1 1 1 ∧ entry? b.sequencers 1 = some 1 ∧
      (∀ generation other, b.LiveSequence 1 generation other → other = 1) ∧
      b.isTicking 1 = false ∧
      (∃ record, b.registry.find? 1 = some record ∧ record.status = .stopped ∧
        record.cpuUsage = 0 ∧ record.ramUsage = 0) := by
  intro b
  obtain ⟨rests, zero⟩ := live_sequence_rests .silent (.ofLists [] []) (Move.firstLaunch.take 4 ++
    [.operate (.update 1 "print()" "123456:token" (.str "python"))])
  have live : b.LiveSequence 1 1 1 :=
    ⟨{ routine := .redeploy 1 1 (some "Redeploying with new configuration...") false }, by rfl,
      rfl, by simp, rfl⟩
  obtain ⟨entry, only, idle, record, found, -, stopped, -⟩ := rests 1 1 1 live
  exact ⟨live, entry, only, idle, record, found, stopped, zero 1 record found stopped⟩

end Bench

end BotBench
