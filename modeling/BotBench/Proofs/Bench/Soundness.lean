import BotBench.Proofs.Bench.Sequence

/-! # Sound views

A view is sound when its tables, its records and what is left to act agree: what acts on a bot
stands in the table of its kind, under its bot; a sequence belongs to the current generation of a
stopped bot and has got no further than the token allows; a ticker watches a running bot, and the
token of a running bot is valid. Each operation on views keeps soundness under the conditions that
its users meet. -/

namespace BotBench

open Bench (isTokenValid)

/-- Whether a sequence has got past the check of the token. -/
def Routine.checked : Routine → Bool
  | .connect _ _ .establish | .connect _ _ .finish => true
  | _ => false

/-- What a sequence of a generation asks of the record of its bot: the generation is the current
one, the bot rests with an empty transcript, and a token that has been checked is valid. -/
structure Record.Backs (least : Int) (record : Record) (generation : Int) (routine : Routine) :
    Prop where
  current : record.generation = generation
  stopped : record.status = .stopped
  messages : record.messages = []
  valid : routine.checked = true → isTokenValid record.token least = true

/-- What a record is like whatever acts on its bot. -/
structure Record.Proper (least : Int) (record : Record) : Prop where
  running : record.status = .running → isTokenValid record.token least = true
  stopped : record.status = .stopped → record.cpuUsage = 0 ∧ record.ramUsage = 0

namespace View

/-- Tables, records and what is left to act agree. -/
structure Sound (least : Int) (v : View) : Prop where
  record_lt : ∀ {id record}, v.record id = some record → id < v.nextId
  proper : ∀ {id record}, v.record id = some record → record.Proper least
  acting_lt : ∀ {task routine}, v.acting task = some routine → task < v.count
  sequencer_lt : ∀ {id task}, v.sequencer id = some task → task < v.count
  sequencer : ∀ {id task routine}, v.sequencer id = some task → v.acting task = some routine →
    ∃ generation, routine.sequence? = some (id, generation)
  sequence : ∀ {task routine id generation}, v.acting task = some routine →
    routine.sequence? = some (id, generation) →
    v.sequencer id = some task ∧ ∃ record, v.record id = some record ∧
      record.Backs least generation routine
  ticker : ∀ {id task}, v.ticker id = some task →
    (∃ slept, v.acting task = some (.ticker id slept)) ∧
      ∃ record, v.record id = some record ∧ record.status = .running
  watcher : ∀ {task id slept}, v.acting task = some (.ticker id slept) → v.ticker id = some task

namespace Sound

variable {least : Int} {v v' : View} {id : Int}

/-- Nothing acts, and there is no bot. -/
theorem opening (draws : Draws) : Sound least (Bench.opening draws).view where
  record_lt := by simp [Bench.view, Bench.opening, Registry.find?]
  proper := by simp [Bench.view, Bench.opening, Registry.find?]
  acting_lt := by simp [Bench.view, Bench.opening, Bench.acting?]
  sequencer_lt := by simp [Bench.view, Bench.opening]
  sequencer := by simp [Bench.view, Bench.opening]
  sequence := by simp [Bench.view, Bench.opening, Bench.acting?]
  ticker := by simp [Bench.view, Bench.opening]
  watcher := by simp [Bench.view, Bench.opening, Bench.acting?]

/-! ## Ending what acts -/

/-- A view stays sound when tasks end and entries go, as long as what still acts keeps its entry and
each ticker that keeps its entry still acts. -/
theorem release (sound : Sound least v) (records : v'.record = v.record)
    (numbers : v'.nextId = v.nextId) (counts : v.count ≤ v'.count)
    (acting : ∀ task routine, v'.acting task = some routine → v.acting task = some routine)
    (sequencers : ∀ id task, v'.sequencer id = some task → v.sequencer id = some task)
    (tickers : ∀ id task, v'.ticker id = some task →
      v.ticker id = some task ∧ v'.acting task = v.acting task)
    (listed : ∀ task routine, v'.acting task = some routine → ∀ id,
      (v.sequencer id = some task → v'.sequencer id = some task) ∧
        (v.ticker id = some task → v'.ticker id = some task)) :
    Sound least v' where
  record_lt found := by
    rw [records] at found
    rw [numbers]
    exact sound.record_lt found
  proper found := sound.proper (records ▸ found)
  acting_lt acts := Nat.lt_of_lt_of_le (sound.acting_lt (acting _ _ acts)) counts
  sequencer_lt entry := Nat.lt_of_lt_of_le (sound.sequencer_lt (sequencers _ _ entry)) counts
  sequencer entry acts := sound.sequencer (sequencers _ _ entry) (acting _ _ acts)
  sequence acts belongs := by
    obtain ⟨entry, backed⟩ := sound.sequence (acting _ _ acts) belongs
    rw [records]
    exact ⟨(listed _ _ acts _).1 entry, backed⟩
  ticker entry := by
    obtain ⟨before, same⟩ := tickers _ _ entry
    rw [records, same]
    exact sound.ticker before
  watcher acts := (listed _ _ acts _).2 (sound.watcher (acting _ _ acts))

/-- What ticks stands in no sequence's place. -/
theorem ticker_ne_sequencer (sound : Sound least v) {other : Int} {task task' : Nat}
    (ticks : v.ticker id = some task) (sequences : v.sequencer other = some task') :
    task ≠ task' := by
  rintro rfl
  obtain ⟨⟨slept, acts⟩, -⟩ := sound.ticker ticks
  obtain ⟨generation, belongs⟩ := sound.sequencer sequences acts
  contradiction

/-- A bot that has a sequence has no ticker. -/
theorem unwatched (sound : Sound least v) {task : Nat} {routine : Routine} {generation : Int}
    (acts : v.acting task = some routine) (belongs : routine.sequence? = some (id, generation)) :
    v.ticker id = none := by
  cases watched : v.ticker id with
  | none => rfl
  | some watcher =>
      obtain ⟨-, record, found, backs⟩ := sound.sequence acts belongs
      obtain ⟨-, record', found', running⟩ := sound.ticker watched
      rw [found, Option.some.injEq] at found'
      subst found'
      rw [backs.stopped] at running
      contradiction

/-- A task ticks for one bot only. -/
theorem ticker_inj (sound : Sound least v) {other : Int} {task : Nat}
    (one : v.ticker id = some task) (two : v.ticker other = some task) : id = other := by
  obtain ⟨⟨slept, acts⟩, -⟩ := sound.ticker one
  obtain ⟨⟨slept', acts'⟩, -⟩ := sound.ticker two
  rw [acts] at acts'
  cases acts'
  rfl

theorem dropSequencer (sound : Sound least v) (id : Int) : Sound least (v.dropSequencer id) := by
  unfold View.dropSequencer
  cases entry : v.sequencer id with
  | none => exact sound
  | some ended =>
      dsimp only
      refine sound.release rfl rfl (Nat.le_refl _) ?_ ?_ ?_ ?_
      · intro task routine acts
        grind [acting_proceed]
      · intro other task entry'
        grind [Function.update_apply]
      · intro other task ticks
        have apart := sound.ticker_ne_sequencer ticks entry
        exact ⟨ticks, Function.update_of_ne apart ..⟩
      · intro task routine acts other
        refine ⟨fun entry' => ?_, fun entry' => entry'⟩
        grind [acting_proceed, Function.update_apply]

theorem dropTicker (sound : Sound least v) (id : Int) : Sound least (v.dropTicker id) := by
  unfold View.dropTicker
  cases entry : v.ticker id with
  | none => exact sound
  | some ended =>
      dsimp only
      refine sound.release rfl rfl (Nat.le_refl _) ?_ ?_ ?_ ?_
      · intro task routine acts
        grind [acting_proceed]
      · intro other task entry'
        exact entry'
      · intro other task ticks
        have same : v.ticker other = some ended → id = other := sound.ticker_inj entry
        grind [acting_proceed, Function.update_apply]
      · intro task routine acts other
        refine ⟨fun entry' => entry', fun entry' => ?_⟩
        grind [acting_proceed, Function.update_apply]

theorem interrupt (sound : Sound least v) (id : Int) : Sound least (v.interrupt id) :=
  (sound.dropSequencer id).dropTicker id

/-- A sequence that acts after what is pending for a bot has been ended acted before, on another
bot. -/
theorem sequence_interrupt (sound : Sound least v) {task : Nat} {routine : Routine}
    {bot generation : Int} (acts : (v.interrupt id).acting task = some routine)
    (belongs : routine.sequence? = some (bot, generation)) :
    v.acting task = some routine ∧ bot ≠ id := by
  refine ⟨acting_of_dropSequencer (acting_of_dropTicker acts), ?_⟩
  rintro rfl
  have entry := ((sound.interrupt bot).sequence acts belongs).1
  simp at entry

/-- A sequence that comes to its end. -/
theorem conclude (sound : Sound least v) {task : Nat} {routine : Routine} {generation : Int}
    (acts : v.acting task = some routine) (belongs : routine.sequence? = some (id, generation)) :
    Sound least (v.proceed task none) := by
  have entry := (sound.sequence acts belongs).1
  refine sound.release rfl rfl (Nat.le_refl _) ?_ (fun _ _ entry => entry) ?_ ?_
  · intro other routine' acts'
    grind [acting_proceed]
  · intro other task' ticks
    have apart := sound.ticker_ne_sequencer ticks entry
    exact ⟨ticks, Function.update_of_ne apart ..⟩
  · intro task' routine' acts' other
    exact ⟨fun entry => entry, fun entry => entry⟩

/-! ## Records -/

/-- A record may change as long as it backs the sequence of its bot, and as long as its bot runs if
it has a ticker. -/
theorem write (sound : Sound least v) {old record : Record} (found : v.record id = some old)
    (proper : record.Proper least)
    (backs : ∀ {task routine generation}, v.acting task = some routine →
      routine.sequence? = some (id, generation) → record.Backs least generation routine)
    (runs : ∀ {task}, v.ticker id = some task → record.status = .running) :
    Sound least (v.write id record) where
  record_lt found' := by
    have inside := sound.record_lt found
    have others := @sound.record_lt
    grind [record_write, View.write]
  proper found' := by
    have others := @sound.proper
    grind [record_write]
  acting_lt := sound.acting_lt
  sequencer_lt := sound.sequencer_lt
  sequencer := sound.sequencer
  sequence {task routine other generation} acts belongs := by
    obtain ⟨entry, record', found', backed⟩ := sound.sequence acts belongs
    refine ⟨entry, ?_⟩
    by_cases same : other = id
    · subst same
      exact ⟨record, by simp, backs acts belongs⟩
    · exact ⟨record', by simpa [same] using found', backed⟩
  ticker {other task} entry := by
    obtain ⟨acts, record', found', running⟩ := sound.ticker entry
    refine ⟨acts, ?_⟩
    by_cases same : other = id
    · subst same
      exact ⟨record, by simp, runs entry⟩
    · exact ⟨record', by simpa [same] using found', running⟩
  watcher := sound.watcher

theorem erase (sound : Sound least v) (resting : v.sequencer id = none)
    (unwatched : v.ticker id = none) : Sound least (v.erase id) where
  record_lt found := by
    have others := @sound.record_lt
    grind [record_erase, View.erase]
  proper found := by
    have others := @sound.proper
    grind [record_erase]
  acting_lt := sound.acting_lt
  sequencer_lt := sound.sequencer_lt
  sequencer := sound.sequencer
  sequence {task routine other generation} acts belongs := by
    obtain ⟨entry, record, found, backed⟩ := sound.sequence acts belongs
    have apart : other ≠ id := by
      rintro rfl
      rw [resting] at entry
      contradiction
    exact ⟨entry, record, by simpa [apart] using found, backed⟩
  ticker {other task} entry := by
    obtain ⟨acts, record, found, running⟩ := sound.ticker entry
    have apart : other ≠ id := by
      rintro rfl
      change v.ticker other = some task at entry
      rw [unwatched] at entry
      contradiction
    exact ⟨acts, record, by simpa [apart] using found, running⟩
  watcher := sound.watcher

/-- The number of a new bot has no record yet. -/
theorem record_nextId (sound : Sound least v) : v.record v.nextId = none := by
  cases found : v.record v.nextId with
  | none => rfl
  | some record => exact absurd (sound.record_lt found) (by omega)

theorem enter (sound : Sound least v) {record : Record} (proper : record.Proper least) :
    Sound least (v.enter record) where
  record_lt {id record'} found := by
    have others := @sound.record_lt id
    rw [record_enter] at found
    change id < v.nextId + 1
    grind
  proper {id record'} found := by
    have others := @sound.proper id
    grind [record_enter]
  acting_lt := sound.acting_lt
  sequencer_lt := sound.sequencer_lt
  sequencer := sound.sequencer
  sequence {task routine other generation} acts belongs := by
    obtain ⟨entry, record', found, backed⟩ := sound.sequence acts belongs
    have apart : other ≠ v.nextId := by
      rintro rfl
      rw [sound.record_nextId] at found
      contradiction
    exact ⟨entry, record', by simpa [apart] using found, backed⟩
  ticker {other task} entry := by
    obtain ⟨acts, record', found, running⟩ := sound.ticker entry
    have apart : other ≠ v.nextId := by
      rintro rfl
      rw [sound.record_nextId] at found
      contradiction
    exact ⟨acts, record', by simpa [apart] using found, running⟩
  watcher := sound.watcher

/-! ## Starting what acts -/

/-- A bot on which no sequence acts may be given one that its record backs. -/
theorem schedule (sound : Sound least v) {routine : Routine} {generation : Int} {record : Record}
    (resting : ∀ {task routine generation}, v.acting task = some routine →
      routine.sequence? ≠ some (id, generation))
    (belongs : routine.sequence? = some (id, generation))
    (found : v.record id = some record) (backs : record.Backs least generation routine) :
    Sound least (v.schedule id routine) := by
  have acts := Routine.acts_of_sequence? belongs
  have acting (task : Nat) : (v.schedule id routine).acting task =
      if task = v.count then some routine else v.acting task := by
    change (v.spawn routine).acting task = _
    rw [acting_spawn, if_pos acts]
  have counts : (v.schedule id routine).count = v.count + 1 := rfl
  constructor
  case record_lt => exact sound.record_lt
  case proper => exact sound.proper
  case acting_lt =>
    intro task routine' acts'
    have others := @sound.acting_lt task
    grind
  case sequencer_lt =>
    intro other task entry
    have others := @sound.sequencer_lt other task
    grind [sequencer_schedule]
  case sequencer =>
    intro other task routine' entry acts'
    have others := @sound.sequencer other task routine'
    have below := @sound.sequencer_lt other task
    grind [sequencer_schedule]
  case sequence =>
    intro task routine' other generation' acts' belongs'
    have others := @sound.sequence task routine' other generation'
    rw [acting] at acts'
    rw [sequencer_schedule]
    by_cases new : task = v.count
    · rw [if_pos new, Option.some.injEq] at acts'
      subst acts' new
      rw [belongs, Option.some.injEq, Prod.mk.injEq] at belongs'
      obtain ⟨rfl, rfl⟩ := belongs'
      exact ⟨by simp, record, found, backs⟩
    · rw [if_neg new] at acts'
      obtain ⟨entry, backed⟩ := others acts' belongs'
      have apart : other ≠ id := by
        rintro rfl
        exact resting acts' belongs'
      exact ⟨by simpa [apart] using entry, backed⟩
  case ticker =>
    intro other task entry
    obtain ⟨⟨slept, acts'⟩, running⟩ := sound.ticker entry
    have below := sound.acting_lt acts'
    exact ⟨⟨slept, by rw [acting, if_neg (by omega)]; exact acts'⟩, running⟩
  case watcher =>
    intro task other slept acts'
    rw [acting] at acts'
    split at acts'
    · rename_i new
      simp only [Option.some.injEq] at acts'
      subst acts'
      contradiction
    · exact sound.watcher acts'

/-- A running bot that has no ticker may be given one. -/
theorem watch (sound : Sound least v) {record : Record} (unwatched : v.ticker id = none)
    (found : v.record id = some record) (running : record.status = .running) :
    Sound least (v.watch id) := by
  have acting (task : Nat) : (v.watch id).acting task =
      if task = v.count then some (.ticker id false) else v.acting task :=
    acting_spawn ..
  have counts : (v.watch id).count = v.count + 1 := rfl
  constructor
  case record_lt => exact sound.record_lt
  case proper => exact sound.proper
  case acting_lt =>
    intro task routine acts
    have others := @sound.acting_lt task
    grind
  case sequencer_lt =>
    intro other task entry
    exact Nat.lt_succ_of_lt (sound.sequencer_lt entry)
  case sequencer =>
    intro other task routine entry acts
    have below := sound.sequencer_lt entry
    rw [acting, if_neg (by omega)] at acts
    exact sound.sequencer entry acts
  case sequence =>
    intro task routine other generation acts belongs
    rw [acting] at acts
    split at acts
    · simp only [Option.some.injEq] at acts
      subst acts
      contradiction
    · exact sound.sequence acts belongs
  case ticker =>
    intro other task entry
    rw [ticker_watch] at entry
    split at entry
    · rename_i same
      simp only [Option.some.injEq] at entry
      subst entry same
      exact ⟨⟨false, by rw [acting, if_pos rfl]⟩, record, found, running⟩
    · obtain ⟨⟨slept, acts⟩, running'⟩ := sound.ticker entry
      have below := sound.acting_lt acts
      exact ⟨⟨slept, by rw [acting, if_neg (by omega)]; exact acts⟩, running'⟩
  case watcher =>
    intro task other slept acts
    rw [acting] at acts
    rw [ticker_watch]
    split at acts
    · rename_i new
      simp only [Option.some.injEq, Routine.ticker.injEq] at acts
      rw [if_pos acts.1.symm, new]
    · have entry := sound.watcher acts
      have apart : other ≠ id := by
        rintro rfl
        rw [unwatched] at entry
        contradiction
      rw [if_neg apart]
      exact entry

/-- A sequence may go on as far as the record of its bot backs it. -/
theorem proceed (sound : Sound least v) {task : Nat} {routine next : Routine} {generation : Int}
    {record : Record} (acts : v.acting task = some routine)
    (belongs : routine.sequence? = some (id, generation))
    (goes : next.sequence? = some (id, generation)) (found : v.record id = some record)
    (backs : record.Backs least generation next) : Sound least (v.proceed task (some next)) where
  record_lt := sound.record_lt
  proper := sound.proper
  acting_lt {task' routine'} acts' := by
    have inside := sound.acting_lt acts
    have others := @sound.acting_lt task'
    rw [acting_proceed] at acts'
    change task' < v.count
    grind
  sequencer_lt := sound.sequencer_lt
  sequencer {other task' routine'} entry acts' := by
    rw [acting_proceed] at acts'
    split at acts'
    · rename_i same
      simp only [Option.some.injEq] at acts'
      subst same acts'
      obtain ⟨generation', belongs'⟩ := sound.sequencer entry acts
      rw [belongs, Option.some.injEq, Prod.mk.injEq] at belongs'
      exact ⟨generation, belongs'.1 ▸ goes⟩
    · exact sound.sequencer entry acts'
  sequence {task' routine' other generation'} acts' belongs' := by
    rw [acting_proceed] at acts'
    split at acts'
    · rename_i same
      simp only [Option.some.injEq] at acts'
      subst same acts'
      rw [goes, Option.some.injEq, Prod.mk.injEq] at belongs'
      obtain ⟨rfl, rfl⟩ := belongs'
      exact ⟨(sound.sequence acts belongs).1, record, found, backs⟩
    · exact sound.sequence acts' belongs'
  ticker {other task'} entry := by
    obtain ⟨⟨slept, acts'⟩, running⟩ := sound.ticker entry
    have apart := sound.ticker_ne_sequencer entry (sound.sequence acts belongs).1
    exact ⟨⟨slept, by rw [acting_proceed, if_neg apart]; exact acts'⟩, running⟩
  watcher {task' other slept} acts' := by
    rw [acting_proceed] at acts'
    split at acts'
    · simp only [Option.some.injEq] at acts'
      subst acts'
      contradiction
    · exact sound.watcher acts'

/-- A ticker may go to sleep. -/
theorem tick (sound : Sound least v) {task : Nat} {slept : Bool}
    (acts : v.acting task = some (.ticker id slept)) :
    Sound least (v.proceed task (some (.ticker id true))) where
  record_lt := sound.record_lt
  proper := sound.proper
  acting_lt {task' routine'} acts' := by
    have inside := sound.acting_lt acts
    have others := @sound.acting_lt task'
    rw [acting_proceed] at acts'
    change task' < v.count
    grind
  sequencer_lt := sound.sequencer_lt
  sequencer {other task' routine'} entry acts' := by
    have apart := (sound.ticker_ne_sequencer (sound.watcher acts) entry).symm
    rw [acting_proceed, if_neg apart] at acts'
    exact sound.sequencer entry acts'
  sequence {task' routine' other generation'} acts' belongs' := by
    rw [acting_proceed] at acts'
    split at acts'
    · simp only [Option.some.injEq] at acts'
      subst acts'
      contradiction
    · exact sound.sequence acts' belongs'
  ticker {other task'} entry := by
    obtain ⟨⟨slept', acts'⟩, running⟩ := sound.ticker entry
    refine ⟨?_, running⟩
    rw [acting_proceed]
    by_cases same : task' = task
    · subst same
      rw [acts, Option.some.injEq, Routine.ticker.injEq] at acts'
      exact ⟨true, by rw [if_pos rfl, acts'.1]⟩
    · exact ⟨slept', by rw [if_neg same]; exact acts'⟩
  watcher {task' other slept'} acts' := by
    rw [acting_proceed] at acts'
    split at acts'
    · rename_i same
      simp only [Option.some.injEq, Routine.ticker.injEq] at acts'
      rw [same, ← acts'.1]
      exact sound.watcher acts
    · exact sound.watcher acts'

end Sound

end View

end BotBench
