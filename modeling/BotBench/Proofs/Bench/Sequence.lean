import BotBench.Proofs.Bench.Effect

/-! # The legs of a sequence

A sequence goes from one wait to the next in legs. `BotBench.Routine.leg` says of each leg which
lines it writes, which status it gives its bot and where the sequence goes on;
`BotBench.Bench.perform_sequence` shows that the bench does just that as long as the generation is
the current one. -/

namespace BotBench

/-- What a sequence does between two waits: the lines it writes, the status it gives its bot, and
where it goes on. -/
structure Leg where
  lines : List String
  outcome : Option Status
  next : Option Routine

/-- The leg of the connect sequence at a stage, for a token that is valid or not. -/
def Stage.leg (bot generation : Int) (valid : Bool) : Stage → Leg
  | .attempt =>
      ⟨["Attempting to connect to Telegram API..."], none,
        some (.connect bot generation .validate)⟩
  | .validate =>
      ⟨["Validating Telegram token..."], none, some (.connect bot generation .check)⟩
  | .check =>
      if valid then
        ⟨["Token validation successful."], none, some (.connect bot generation .establish)⟩
      else ⟨[Bench.invalidTokenLine], some .error, none⟩
  | .establish =>
      ⟨["Establishing connection to api.telegram.org..."], none,
        some (.connect bot generation .finish)⟩
  | .finish => ⟨[Bench.runningLine], some .running, none⟩

/-- The line of a redeployment that has something to say. -/
def spokenLines : Option String → List String
  | none | some "" => []
  | some line => [line]

/-- The leg of a sequence. A redeployment pauses first and then goes on like the connect
sequence. -/
def Routine.leg (valid : Bool) : Routine → Leg
  | .connect bot generation stage => stage.leg bot generation valid
  | .redeploy bot generation line slept =>
      if slept then
        let attempt := Stage.leg bot generation valid .attempt
        { attempt with lines := spokenLines line ++ attempt.lines }
      else ⟨[], none, some (.redeploy bot generation line true)⟩
  | _ => ⟨[], none, none⟩

/-- A leg that leads on gives no status, and leads to the same generation of the same bot. -/
theorem Routine.leg_goes {valid : Bool} {routine next : Routine}
    (goes : (routine.leg valid).next = some next) :
    (routine.leg valid).outcome = none ∧ next.sequence? = routine.sequence? := by
  cases routine with
  | connect bot generation stage =>
      cases stage with
      | attempt | validate | establish =>
          simp only [leg, Stage.leg, Option.some.injEq] at goes
          subst goes
          exact ⟨rfl, rfl⟩
      | check =>
          simp only [leg, Stage.leg] at goes
          split at goes
          · rename_i accepted
            simp only [Option.some.injEq] at goes
            subst goes accepted
            exact ⟨rfl, rfl⟩
          · contradiction
      | finish => contradiction
  | redeploy bot generation line slept =>
      cases slept <;>
        · simp only [leg, Stage.leg, ↓reduceIte, Bool.false_eq_true, Option.some.injEq] at goes
          subst goes
          exact ⟨rfl, rfl⟩
  | _ => contradiction

/-- A log after some lines that were written at one time. -/
def extendLog (limit time : Int) (logs lines : List String) : List String :=
  lines.foldl (fun logs line => window limit (logs ++ [stamped time line])) logs

/-- A log that is kept whole grows by the lines. -/
theorem extendLog_zero (time : Int) (logs lines : List String) :
    extendLog 0 time logs lines = logs ++ lines.map (stamped time) := by
  unfold extendLog
  induction lines generalizing logs with
  | nil => simp
  | cons line lines ih =>
      rw [List.foldl_cons, ih]
      simp [window]

/-- The delay that follows the step of the connect sequence at a stage. -/
def Stage.delay (settings : Settings) : Stage → Float
  | .attempt => settings.connectDelay
  | .validate => settings.validateDelay
  | .check => settings.establishDelay
  | .establish | .finish => settings.runningDelay

/-- The delay that follows a leg of a sequence, if the leg leads on. -/
def Routine.delay (settings : Settings) : Routine → Float
  | .connect _ _ stage => stage.delay settings
  | .redeploy _ _ _ slept => if slept then settings.connectDelay else settings.redeployDelay
  | _ => 0

/-- After a leg a sequence sleeps and goes on, or is over. -/
def Leg.pace (leg : Leg) (delay : Float) : Bench.Pace :=
  match leg.next with
  | some routine => .sleep delay routine
  | none => .done

/-- A record with the status that a leg gives it, if it gives one. -/
def Record.marked (record : Record) (outcome : Option Status) : Record :=
  { record with status := outcome.getD record.status }

@[simp] theorem Record.marked_none (record : Record) : record.marked none = record := rfl

namespace Bench

/-- The bench `written` is the bench `b` after a bot, whose record was `record`, got some lines and
perhaps a new status. Tasks and time are as they were. -/
structure Wrote (config : Config) (b : Bench) (id : Int) (record : Record) (lines : List String)
    (outcome : Option Status) (written : Bench) : Prop where
  tasks : written.tasks = b.tasks
  clock : written.clock = b.clock
  view : written.view = b.view.write id (record.unlogged.marked outcome)
  stored : ∃ updated, written.registry.find? id = some updated ∧
    updated.unlogged = record.unlogged.marked outcome ∧
    updated.logs = extendLog config.settings.logLimit (b.now config) record.logs lines
  others : ∀ other, other ≠ id → written.registry.find? other = b.registry.find? other

variable {config : Config} {b : Bench} {id generation : Int} {record : Record}

/-- A bench on which nothing is written. -/
theorem wrote_nothing (config : Config) (found : b.registry.find? id = some record) :
    Wrote config b id record [] none b :=
  ⟨rfl, rfl, (View.write_self (view_of_find? found)).symm, ⟨record, found, rfl, rfl⟩,
    fun _ _ => rfl⟩

/-- One more line and perhaps a status are written on a bench that differs from the one with the
lines so far at most in its own log. -/
theorem Wrote.update {lines : List String} {written : Bench}
    (wrote : Wrote config b id record lines none written) (noted : Bench)
    (same : noted = { written with log := noted.log }) (line : String)
    (changes : List Change) (outcome : Option Status)
    (applied : ∀ record, Change.applyAll record changes = .ok (record.marked outcome)) :
    ∃ updated, noted.update config id (some line) changes =
        .ok (updated, noted.store id updated) ∧
      Wrote config b id record (lines ++ [line]) outcome (noted.store id updated) := by
  obtain ⟨old, found, face, logs⟩ := wrote.stored
  rw [Record.marked_none] at face
  have tasks : noted.tasks = written.tasks := by rw [same]
  have clock : noted.clock = written.clock := by rw [same]
  have view : noted.view = written.view := by rw [same]; rfl
  have present : noted.registry.find? id = some old := by rw [same]; exact found
  have time : noted.now config = b.now config :=
    congrArg (milliseconds config.rounding) (clock.trans wrote.clock)
  let updated : Record :=
    { old.marked outcome with
      logs := window config.settings.logLimit (old.logs ++ [stamped (noted.now config) line]) }
  have unlogged : updated.unlogged = record.unlogged.marked outcome := by
    rw [← face]
    rfl
  refine ⟨updated, update_of_find? present (applied old), tasks.trans wrote.tasks,
    clock.trans wrote.clock, ?_, ⟨updated, ?_, unlogged, ?_⟩, ?_⟩
  · rw [view_store present, view, wrote.view, View.write_write, unlogged]
  · change (noted.registry.put id updated).find? id = _
    rw [Registry.find?_put, if_pos rfl, present]
    rfl
  · change window _ (old.logs ++ _) = _
    rw [logs, time]
    simp [extendLog]
  · intro other apart
    change (noted.registry.put id updated).find? other = _
    rw [Registry.find?_put, if_neg apart, same]
    exact wrote.others other apart

theorem Wrote.appendLog {lines : List String} {written : Bench}
    (wrote : Wrote config b id record lines none written) (line : String) :
    Wrote config b id record (lines ++ [line]) none
      (written.after (written.appendLog config id line)) := by
  obtain ⟨updated, accepted, more⟩ :=
    wrote.update written rfl line [] none fun _ => rfl
  unfold Bench.appendLog
  rw [accepted]
  exact more

theorem Wrote.note {lines : List String} {outcome : Option Status} {written : Bench}
    (wrote : Wrote config b id record lines outcome written) (level : LogLevel) (text : String) :
    Wrote config b id record lines outcome (written.note level text) :=
  ⟨wrote.tasks, wrote.clock, wrote.view, wrote.stored, wrote.others⟩

/-- A step of the connect sequence goes its leg, and a leg that ends with a running bot starts the
ticker. -/
theorem connectStep_spec {lines : List String} {written : Bench} (generation : Int) (stage : Stage)
    (wrote : Wrote config b id record lines none written) :
    let leg := stage.leg id generation (isTokenValid record.token config.settings.minTokenPrefix)
    ∃ done, Wrote config b id record (lines ++ leg.lines) leg.outcome done ∧
      (written.connectStep config id generation stage).1 =
        (if leg.outcome = some .running then done.startTicker id else done) ∧
      (written.connectStep config id generation stage).2 =
        leg.pace (stage.delay config.settings) := by
  cases stage with
  | attempt => exact ⟨_, wrote.appendLog _, rfl, rfl⟩
  | validate => exact ⟨_, wrote.appendLog _, rfl, rfl⟩
  | establish => exact ⟨_, wrote.appendLog _, rfl, rfl⟩
  | check =>
      obtain ⟨old, found, face, -⟩ := wrote.stored
      have token : old.token = record.token := (congrArg Record.token face :)
      unfold connectStep Stage.leg
      dsimp only
      rw [found]
      dsimp only
      rw [token]
      split
      · exact ⟨_, wrote.appendLog _, rfl, rfl⟩
      · obtain ⟨updated, accepted, more⟩ := wrote.update
          (written.note .info (old.name ++ " rejected: invalid token format")) rfl
          invalidTokenLine [.status .error] (some .error) fun _ => rfl
        refine ⟨_, more, ?_, rfl⟩
        rw [accepted]
        rfl
  | finish =>
      obtain ⟨updated, accepted, more⟩ := wrote.update written rfl runningLine
        [.status .running] (some .running) fun _ => rfl
      unfold connectStep Stage.leg
      dsimp only
      rw [accepted]
      exact ⟨_, more.note .info (updated.name ++ " is running"), rfl, rfl⟩

theorem isCurrent_eq_true_iff :
    b.isCurrent id generation = true ↔
      ∃ record, b.registry.find? id = some record ∧ record.generation = generation := by
  unfold isCurrent
  cases b.registry.find? id with
  | none => simp
  | some record => simp

/-- A sequence whose generation is the current one goes its leg. -/
theorem perform_sequence (config : Config) {routine : Routine}
    (sequence : routine.sequence? = some (id, generation))
    (found : b.registry.find? id = some record) (current : record.generation = generation)
    (task : Nat) :
    let leg := routine.leg (isTokenValid record.token config.settings.minTokenPrefix)
    ∃ done : Bench, Wrote config b id record leg.lines leg.outcome done ∧
      b.perform config task routine =
        (if leg.outcome = some .running then done.startTicker id else done,
          (leg.pace (routine.delay config.settings)).verdict) := by
  have wrote := wrote_nothing config found
  -- the generation is compared again after an update has announced itself, and is still the same
  have connect_of (lines : List String) (written : Bench) (stage : Stage)
      (wrote : Wrote config b id record lines none written) :
      written.connect config id generation stage =
        written.connectStep config id generation stage := by
    obtain ⟨old, present, face, -⟩ := wrote.stored
    have same : old.generation = record.generation := (congrArg Record.generation face :)
    unfold connect
    rw [if_pos (isCurrent_eq_true_iff.mpr ⟨old, present, same.trans current⟩)]
  cases routine with
  | connect bot number stage =>
      simp only [Routine.sequence?, Option.some.injEq, Prod.mk.injEq] at sequence
      obtain ⟨rfl, rfl⟩ := sequence
      obtain ⟨done, more, same, goes⟩ := connectStep_spec number stage wrote
      refine ⟨done, more, ?_⟩
      change ((b.connect config bot number stage).1,
        (b.connect config bot number stage).2.verdict) = _
      rw [connect_of _ _ _ wrote, same, goes]
      rfl
  | redeploy bot number line slept =>
      simp only [Routine.sequence?, Option.some.injEq, Prod.mk.injEq] at sequence
      obtain ⟨rfl, rfl⟩ := sequence
      cases slept with
      | false => exact ⟨b, wrote, rfl⟩
      | true =>
          let spoken : Bench :=
            match line with
            | none | some "" => b
            | some line => b.after (b.appendLog config bot line)
          have said : Wrote config b bot record (spokenLines line) none spoken := by
            unfold spokenLines
            dsimp only [spoken]
            split
            · exact wrote
            · exact wrote
            · exact wrote.appendLog _
          obtain ⟨done, more, same, goes⟩ := connectStep_spec number .attempt said
          refine ⟨done, more, ?_⟩
          have passed : b.redeploy config bot number line true =
              spoken.connect config bot number .attempt := by
            unfold redeploy
            exact (if_neg (by simp)).trans
              (if_pos (isCurrent_eq_true_iff.mpr ⟨record, found, current⟩))
          change ((b.redeploy config bot number line true).1,
            (b.redeploy config bot number line true).2.verdict) = _
          rw [passed, connect_of _ _ _ said, same, goes]
          rfl
  | _ => contradiction

@[simp] theorem registry_startTicker (b : Bench) (id : Int) :
    (b.startTicker id).registry = b.registry := by
  unfold startTicker
  split <;> rfl

@[simp] theorem registry_obey (config : Config) (b : Bench) (id : Nat) (verdict : Verdict) :
    (b.obey config id verdict).registry = b.registry := by
  unfold obey
  cases verdict with
  | sleep span routine =>
      unfold sleep
      cases span with
      | finite seconds =>
          dsimp only
          split <;> rfl
      | endless => rfl
  | wait target routine =>
      unfold wait
      dsimp only
      split <;> rfl
  | finish answer =>
      unfold finish
      dsimp only
      split <;> rfl

/-- A sequence sleeps and goes on, or is at its end. -/
theorem view_obey_pace (config : Config) {task : Nat} {leg : Leg}
    (awake : ∀ routine, leg.next = some routine → routine.acts = true ∧
      ∃ found, b.tasks[task]? = some found ∧ found.cancelled = false) (delay : Float) :
    (b.obey config task (leg.pace delay).verdict).view = b.view.proceed task leg.next := by
  unfold Leg.pace
  cases ahead : leg.next with
  | some routine =>
      obtain ⟨acts, found, present, kept⟩ := awake routine ahead
      exact view_sleep present kept acts (.ofFloat delay)
  | none => exact view_finish b task none

/-- A bot that has no ticker is given one. -/
theorem view_startTicker_of_unwatched (unwatched : b.view.ticker id = none) :
    (b.startTicker id).view = b.view.watch id := by
  have missing : entry? b.tickers id = none := unwatched
  have silent : b.isTicking id = false := by
    unfold isTicking
    rw [missing]
  rw [view_startTicker, silent]
  rfl

/-- The view after a sequence, whose generation is the current one and whose bot has no ticker, has
been resumed. -/
theorem view_resume_sequence (config : Config) {task : Nat} {sequence : Task}
    (present : b.tasks[task]? = some sequence) (queued : sequence.state = .queued)
    (kept : sequence.cancelled = false)
    (belongs : sequence.routine.sequence? = some (id, generation))
    (found : b.registry.find? id = some record) (current : record.generation = generation)
    (unwatched : b.view.ticker id = none) :
    let leg := sequence.routine.leg (isTokenValid record.token config.settings.minTokenPrefix)
    let written := b.view.write id (record.unlogged.marked leg.outcome)
    (b.resume config task).view =
        (if leg.outcome = some .running then written.watch id else written).proceed task leg.next ∧
      (∃ updated, (b.resume config task).registry.find? id = some updated ∧
        updated.status = leg.outcome.getD record.status ∧
        updated.logs = extendLog config.settings.logLimit (b.now config) record.logs leg.lines) ∧
      ∀ other, other ≠ id →
        (b.resume config task).registry.find? other = b.registry.find? other := by
  intro leg written
  obtain ⟨done, wrote, performed⟩ := perform_sequence config belongs found current task
  have resumed : b.resume config task = (b.perform config task sequence.routine).1.obey config task
      (b.perform config task sequence.routine).2 := by
    unfold resume
    rw [present]
    simp [queued, kept]
  have shown : done.view = written := wrote.view
  have table : (if leg.outcome = some .running then done.startTicker id else done).registry =
      done.registry := by
    split
    · exact registry_startTicker ..
    · rfl
  rw [resumed, performed]
  dsimp only
  refine ⟨?_, ?_, ?_⟩
  · rw [view_obey_pace config]
    · split
      · have untouched : done.view.ticker id = none := by
          rw [shown]
          exact unwatched
        rw [view_startTicker_of_unwatched untouched, shown]
      · rw [shown]
    · -- a leg that leads on starts no ticker, so that the task is where it was
      intro next ahead
      obtain ⟨silent, same⟩ := Routine.leg_goes ahead
      rw [if_neg (by simp [silent])]
      exact ⟨Routine.acts_of_sequence? (same.trans belongs), sequence, wrote.tasks ▸ present, kept⟩
  · obtain ⟨updated, stored, face, logs⟩ := wrote.stored
    refine ⟨updated, ?_, (congrArg Record.status face :), logs⟩
    rw [registry_obey, table]
    exact stored
  · intro other apart
    rw [registry_obey, table]
    exact wrote.others other apart

end Bench

end BotBench
