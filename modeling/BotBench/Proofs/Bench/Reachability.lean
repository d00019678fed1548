import BotBench.Proofs.Bench.Transition

/-! # The joint invariant of every run

Every transition of the view keeps soundness, and so does a shutdown. Hence the view of a bench is
sound at every point of every run (`BotBench.Bench.sound_run`), and whatever else the transitions
keep of sound views holds there, too (`BotBench.Bench.remembered_views_keep`). -/

namespace BotBench

open Bench (isTokenValid)

/-- A sequence that has got past the check of the token has passed it with a valid one. -/
theorem Routine.checked_of_next {valid : Bool} {routine next : Routine}
    (goes : (routine.leg valid).next = some next) (past : next.checked = true) :
    routine.checked = true ∨ valid = true := by
  cases routine with
  | connect bot generation stage =>
      cases stage with
      | attempt | validate =>
          simp only [leg, Stage.leg, Option.some.injEq] at goes
          subst goes
          contradiction
      | check =>
          simp only [leg, Stage.leg] at goes
          split at goes
          · exact .inr (by assumption)
          · contradiction
      | establish | finish => exact .inl rfl
  | redeploy bot generation line slept =>
      cases slept <;>
        · simp only [leg, Stage.leg, ↓reduceIte, Bool.false_eq_true, Option.some.injEq] at goes
          subst goes
          contradiction
  | _ => contradiction

/-- The leg after which a bot runs lies past the check of the token. -/
theorem Routine.checked_of_running {valid : Bool} {routine : Routine}
    (runs : (routine.leg valid).outcome = some .running) : routine.checked = true := by
  cases routine with
  | connect bot generation stage =>
      cases stage with
      | attempt | validate | establish => contradiction
      | check =>
          simp only [leg, Stage.leg] at runs
          split at runs <;> contradiction
      | finish => rfl
  | redeploy bot generation line slept => cases slept <;> contradiction
  | _ => contradiction

/-- A leg with which a sequence is over gives its bot a status other than stopped. -/
theorem Routine.outcome_of_ended {valid : Bool} {routine : Routine} {id generation : Int}
    (belongs : routine.sequence? = some (id, generation))
    (ended : (routine.leg valid).next = none) :
    (routine.leg valid).outcome = some .running ∨ (routine.leg valid).outcome = some .error := by
  cases routine with
  | connect bot generation stage =>
      cases stage with
      | attempt | validate | establish => contradiction
      | check =>
          simp only [leg, Stage.leg] at ended ⊢
          split at ended
          · contradiction
          · rename_i refused
            rw [if_neg refused]
            exact .inr rfl
      | finish => exact .inl rfl
  | redeploy bot generation line slept => cases slept <;> contradiction
  | _ => contradiction

namespace View

variable {least : Int} {v v' : View}

namespace Sound

/-- Once a sequence is over, its bot has no sequence that acts. -/
theorem not_sequence_of_conclude (sound : Sound least v) {task : Nat} {routine : Routine}
    {id generation : Int} (acts : v.acting task = some routine)
    (belongs : routine.sequence? = some (id, generation)) {other : Nat} {routine' : Routine}
    {generation' : Int} (acts' : (v.proceed task none).acting other = some routine')
    (belongs' : routine'.sequence? = some (id, generation')) : False := by
  rw [acting_proceed] at acts'
  split at acts'
  · contradiction
  · rename_i apart
    have entry := (sound.sequence acts belongs).1
    have entry' := (sound.sequence acts' belongs').1
    rw [entry, Option.some.injEq] at entry'
    exact apart entry'.symm

/-- A leg keeps soundness. -/
theorem goLeg (sound : Sound least v) {task : Nat} {routine : Routine} {id generation : Int}
    {record : Record} (acts : v.acting task = some routine)
    (belongs : routine.sequence? = some (id, generation)) (found : v.record id = some record) :
    Sound least (v.goLeg task id record (routine.leg (isTokenValid record.token least))) := by
  obtain ⟨entry, record', found', backs⟩ := sound.sequence acts belongs
  rw [found, Option.some.injEq] at found'
  subst found'
  have unwatched := sound.unwatched acts belongs
  let leg := routine.leg (isTokenValid record.token least)
  change Sound least (v.goLeg task id record leg)
  cases ahead : leg.next with
  | some next =>
      -- only the stage changes: the next one needs a valid token if this one did or has checked it
      obtain ⟨silent, same⟩ := Routine.leg_goes ahead
      have gone : v.goLeg task id record leg = v.proceed task (some next) := by
        have silent : leg.outcome = none := silent
        unfold View.goLeg
        rw [ahead, silent, Record.marked_none, write_self found]
        rfl
      rw [gone]
      refine sound.proceed acts belongs (same.trans belongs) found ?_
      refine ⟨backs.current, backs.stopped, backs.messages, ?_⟩
      intro past
      rcases Routine.checked_of_next ahead past with before | valid
      · exact backs.valid before
      · exact valid
  | none =>
      -- the bot is no longer stopped, which no sequence that still acts on it would allow
      obtain ⟨status, given, awake, valid⟩ : ∃ status, leg.outcome = some status ∧
          status ≠ .stopped ∧ (status = .running → isTokenValid record.token least = true) := by
        rcases Routine.outcome_of_ended belongs ahead with runs | fails
        · exact ⟨.running, runs, by simp, fun _ => backs.valid (Routine.checked_of_running runs)⟩
        · exact ⟨.error, fails, by simp, by simp⟩
      have marked : (record.marked leg.outcome).status = status := by
        rw [given]
        rfl
      have written : Sound least ((v.proceed task none).write id (record.marked leg.outcome)) := by
        refine (sound.conclude acts belongs).write found ⟨?_, ?_⟩ ?_ ?_
        · rw [marked]
          exact valid
        · rw [marked]
          exact fun stopped => absurd stopped awake
        · intro other routine' generation' acts' belongs'
          exact (sound.not_sequence_of_conclude acts belongs acts' belongs').elim
        · intro watcher watched
          change v.ticker id = some watcher at watched
          rw [unwatched] at watched
          contradiction
      by_cases runs : leg.outcome = some .running
      · -- the ticker gets a task of its own, so that ending the sequence may come first
        have apart : task ≠ v.count := Nat.ne_of_lt (sound.acting_lt acts)
        have gone : v.goLeg task id record leg =
            ((v.proceed task none).write id (record.marked leg.outcome)).watch id := by
          unfold View.goLeg
          dsimp only
          rw [if_pos runs, ahead]
          ext1
          case acting => exact Function.update_comm (Ne.symm apart) ..
          all_goals rfl
        have kept : ((v.proceed task none).write id (record.marked leg.outcome)).record id =
            some (record.marked leg.outcome) := by simp
        rw [gone]
        exact written.watch unwatched kept (by rw [runs]; rfl)
      · have gone : v.goLeg task id record leg =
            (v.proceed task none).write id (record.marked leg.outcome) := by
          unfold View.goLeg
          dsimp only
          rw [if_neg runs, ahead]
          rfl
        rw [gone]
        exact written

/-- A bot whose pending tasks have been ended may be stopped. -/
theorem rest (sound : Sound least v) {id : Int} {old record : Record}
    (found : v.record id = some old) (stopped : record.status = .stopped)
    (zero : record.cpuUsage = 0 ∧ record.ramUsage = 0) :
    Sound least ((v.interrupt id).write id record) := by
  have found' : (v.interrupt id).record id = some old := by
    rw [record_interrupt]
    exact found
  refine (sound.interrupt id).write found' ⟨?_, fun _ => zero⟩ ?_ ?_
  · simp [stopped]
  · intro task routine generation acts belongs
    have entry := ((sound.interrupt id).sequence acts belongs).1
    simp at entry
  · intro task entry
    simp at entry

/-- A bot whose pending tasks have been ended may be deployed anew. -/
theorem redeploy (sound : Sound least v) {id : Int} {old record : Record}
    (found : v.record id = some old) (stopped : record.status = .stopped)
    (zero : record.cpuUsage = 0 ∧ record.ramUsage = 0) (silent : record.messages = [])
    {routine : Routine} (belongs : routine.sequence? = some (id, record.generation))
    (unchecked : routine.checked = false) :
    Sound least (((v.interrupt id).write id record).schedule id routine) := by
  have rested := sound.rest found stopped zero
  have written : ((v.interrupt id).write id record).record id = some record := by simp
  refine rested.schedule ?_ belongs written ⟨rfl, stopped, silent, by simp [unchecked]⟩
  intro task routine generation acts belongs
  have entry : (v.interrupt id).sequencer id = some task := (rested.sequence acts belongs).1
  simp at entry

/-- A change of a running bot that runs on keeps soundness. -/
theorem rewrite (sound : Sound least v) {id : Int} {old record : Record}
    (found : v.record id = some old) (running : old.status = .running)
    (status : record.status = .running) (token : record.token = old.token) :
    Sound least (v.write id record) := by
  refine sound.write found ⟨fun _ => ?_, by simp [status]⟩ ?_ fun _ => status
  · rw [token]
    exact (sound.proper found).running running
  · intro task routine generation acts belongs
    obtain ⟨-, record', found', backs⟩ := sound.sequence acts belongs
    rw [found, Option.some.injEq] at found'
    subst found'
    rw [backs.stopped] at running
    contradiction

/-- Every transition keeps soundness. -/
theorem transition (sound : Sound least v) {event : Option Event} {passage : Option Passage}
    (moved : Transition least v event passage v') : Sound least v' := by
  cases moved with
  | @launch code token language named answer name face =>
      have entered : Sound least (v.enter (.newcomer v.nextId code token named)) :=
        sound.enter ⟨by simp [Record.newcomer], fun _ => ⟨rfl, rfl⟩⟩
      have stands : (v.enter (.newcomer v.nextId code token named)).record v.nextId =
          some (.newcomer v.nextId code token named) := by simp
      refine entered.schedule ?_ rfl stands ⟨rfl, rfl, rfl, by simp [Routine.checked]⟩
      intro task routine generation acts belongs
      obtain ⟨-, record, found, -⟩ := sound.sequence acts belongs
      rw [sound.record_nextId] at found
      contradiction
  | update found name face =>
      exact sound.redeploy found rfl ⟨rfl, rfl⟩ rfl rfl rfl
  | restart found face =>
      exact sound.redeploy found rfl ⟨rfl, rfl⟩ rfl rfl rfl
  | stop found face => exact sound.rest found rfl ⟨rfl, rfl⟩
  | delete found =>
      exact (sound.interrupt _).erase (sequencer_interrupt v _) (ticker_interrupt v _)
  | turn found running turn =>
      obtain ⟨record, messages, found', rfl⟩ := turn
      rw [found, Option.some.injEq] at found'
      subst found'
      exact sound.rewrite found running running rfl
  | leg acts belongs found goes =>
      subst goes
      exact sound.goLeg acts belongs found
  | begin acts => exact sound.tick acts
  | @tick task id record cpuUsage ramUsage acts found running =>
      have written : Sound least (v.write id { record with cpuUsage, ramUsage }) :=
        sound.rewrite found running running rfl
      exact written.tick acts
  | @halt task id record acts found running =>
      have ended := sound.dropTicker id
      have entry := sound.watcher acts
      have kept : (v.dropTicker id).record id = some record := by
        unfold View.dropTicker
        rw [entry]
        exact found
      refine ended.write kept ⟨by simp, by simp⟩ ?_ ?_
      · intro other routine generation acts' belongs
        obtain ⟨-, record', found', backs⟩ := ended.sequence acts' belongs
        rw [kept, Option.some.injEq] at found'
        subst found'
        rw [backs.stopped] at running
        contradiction
      · intro watcher watched
        unfold View.dropTicker at watched
        rw [entry] at watched
        simp at watched
  | idle counts =>
      exact sound.release rfl rfl counts (fun _ _ acts => acts) (fun _ _ entry => entry)
        (fun _ _ entry => ⟨entry, rfl⟩) fun _ _ _ _ => ⟨fun entry => entry, fun entry => entry⟩

end Sound

end View

namespace Bench

variable {config : Config} {b : Bench} {least : Int}

/-- A shutdown keeps soundness. -/
theorem sound_shutdown (sound : b.view.Sound least) : b.shutdown.view.Sound least := by
  obtain ⟨acting, same, spared⟩ := view_shutdown b
  rw [same]
  refine sound.release rfl rfl (Nat.le_refl _) ?_ ?_ ?_ ?_
  · intro task routine acts
    exact (spared task routine acts).1
  · intro id task entry
    contradiction
  · intro id task entry
    contradiction
  · intro task routine acts id
    obtain ⟨-, apart⟩ := spared task routine acts
    exact ⟨fun entry => absurd entry (apart id).1, fun entry => absurd entry (apart id).2⟩

/-- Every move keeps soundness. -/
theorem sound_step (sound : b.view.Sound config.settings.minTokenPrefix) (move : Move) :
    (b.step config move).view.Sound config.settings.minTokenPrefix := by
  by_cases final : move = .operate .shutdown
  · subst final
    exact sound_shutdown sound
  · exact sound.transition (move_transition sound final)

/-- The view of a bench is sound at every point of every run. -/
theorem sound_run (config : Config) (draws : Draws) (moves : List Move) :
    ((opening draws).run config moves).view.Sound config.settings.minTokenPrefix :=
  run_keeps (motive := fun b => b.view.Sound config.settings.minTokenPrefix)
    (fun _ move _ sound => sound_step sound move) (View.Sound.opening draws)

/-- What transitions keep of a sound view and of what is remembered, and what a shutdown keeps that
empties both tables, every run keeps. -/
theorem remembered_views_keep {config : Config} {motive : View → List Event → List Passage → Prop}
    (transition : ∀ {v v' events passages event passage},
      v.Sound config.settings.minTokenPrefix → motive v events passages →
      v.Transition config.settings.minTokenPrefix event passage v' →
      motive v' (events ++ event.toList) (passages ++ passage.toList))
    (shutdown : ∀ {v acting events passages},
      (∀ task routine, acting task = some routine → v.acting task = some routine ∧
        ∀ id, v.sequencer id ≠ some task ∧ v.ticker id ≠ some task) →
      motive v events passages →
      motive { v with sequencer := fun _ => none, ticker := fun _ => none, acting } events passages)
    {draws : Draws} (start : motive (opening draws).view [] []) (moves : List Move) :
    motive ((opening draws).run config moves).view ((opening draws).history config moves)
      ((opening draws).passages config moves) := by
  have both : (opening draws).view.Sound config.settings.minTokenPrefix ∧
      motive (opening draws).view [] [] := ⟨.opening draws, start⟩
  refine (remembered_keeps (motive := fun b events passages =>
    b.view.Sound config.settings.minTokenPrefix ∧ motive b.view events passages)
    ?_ [] [] both moves).2
  rintro b events passages move ⟨sound, kept⟩
  refine ⟨sound_step sound move, ?_⟩
  by_cases final : move = .operate .shutdown
  · subst final
    obtain ⟨acting, same, spared⟩ := view_shutdown b
    have event : b.event? config (.operate .shutdown) = none := rfl
    have passage : b.passage? config (.operate .shutdown) = none := rfl
    change motive b.shutdown.view _ _
    rw [event, passage, same, Option.toList_none, Option.toList_none, List.append_nil,
      List.append_nil]
    exact shutdown spared kept
  · exact transition sound kept (move_transition sound final)

end Bench

end BotBench
