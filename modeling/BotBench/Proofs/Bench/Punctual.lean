import BotBench.Proofs.Bench.Countdown

/-! # Deployments are punctual

When timers fire at their due time and no time is lost in between, the deployment of a bot takes as
long as its delays add up to, whatever is done for other bots in the meantime
(`BotBench.Bench.deployment_punctual`). -/

namespace BotBench

open Bench (isTokenValid)

/-- Whether an event begins a deployment. -/
def Event.deploys (event : Event) : Bool :=
  match event.operation with
  | .launch .. | .update .. | .restart _ => true
  | _ => false

/-- How long the deployment takes that an event begins: up to the check of the token, or up to the
end if the token is valid. All but a launch pause first. -/
def Event.duration (settings : Settings) (event : Event) : Rat :=
  (if event.isLaunch then 0 else pause settings.redeployDelay) +
    (pause settings.connectDelay + pause settings.validateDelay +
      if isTokenValid event.record.token settings.minTokenPrefix then
        pause settings.establishDelay + pause settings.runningDelay
      else 0)

/-- A set-up in which a sequence sleeps after its first and its last but one leg only. -/
def Config.brisk : Config :=
  { Config.silent with
    settings :=
      { connectDelay := 0.5, validateDelay := 0, establishDelay := -1, runningDelay := 0.25 } }

namespace View

/-- An event that begins a deployment starts a sequence, which has the whole deployment ahead. -/
theorem Transition.deployed {least : Int} {v v' : View} {event? : Option Event}
    {passage? : Option Passage} (transition : Transition least v event? passage? v')
    {event : Event} (happened : event? = some event) (deploys : event.deploys = true) :
    (∃ seen, v'.record event.bot = some seen ∧ seen.token = event.record.token) ∧
      ∃ routine generation, v'.acting v.count = some routine ∧
        routine.sequence? = some (event.bot, generation) ∧
        ∀ settings, routine.ahead settings
          (isTokenValid event.record.token settings.minTokenPrefix) = event.duration settings := by
  have started (v' : View) (count : v'.count = v.count) (id : Int) {routine : Routine}
      (acts : routine.acts = true) : (v'.schedule id routine).acting v.count = some routine := by
    change (v'.spawn routine).acting v.count = _
    rw [acting_spawn, if_pos count.symm, if_pos acts]
  have written (v : View) (id : Int) (record : Record) (routine : Routine) :
      ((v.write id record).schedule id routine).record id = some record :=
    (record_write ..).trans (if_pos rfl)
  cases transition with
  | @launch code token _ named _ name face =>
      obtain rfl := Option.some.inj happened
      have number := congrArg Record.id face
      have same := congrArg Record.token face
      refine ⟨⟨_, ?_, same.symm⟩, _, 0,
        started (v.enter (.newcomer v.nextId code token named)) rfl v.nextId rfl, ?_,
        fun _ => (zero_add _).symm⟩
      · exact (record_enter ..).trans (if_pos number)
      · exact congrArg (fun id => some (id, (0 : Int))) number.symm
  | @update id _ _ _ _ _ _ found name face =>
      obtain rfl := Option.some.inj happened
      have token := congrArg Record.token face
      exact ⟨⟨_, written .., token.symm⟩, _, _, started _ (count_interrupt ..) id rfl, rfl,
        fun _ => rfl⟩
  | @restart id _ _ found face =>
      obtain rfl := Option.some.inj happened
      have token := congrArg Record.token face
      exact ⟨⟨_, written .., token.symm⟩, _, _, started _ (count_interrupt ..) id rfl, rfl,
        fun _ => rfl⟩
  | stop found face =>
      obtain rfl := Option.some.inj happened
      contradiction
  | _ => contradiction

end View

namespace Bench

variable {config : Config} {b : Bench} {bot : Int} {task : Nat} {valid : Bool} {deadline : Rat}

/-- An event that begins a deployment sets a sequence on its way, which is over when the time has
passed that the deployment takes. -/
theorem underway_of_event (sound : b.view.Sound config.settings.minTokenPrefix) {start : Move}
    {event : Event} (begun : b.event? config start = some event) (deploys : event.deploys = true) :
    Underway config event.bot b.tasks.length
      (isTokenValid event.record.token config.settings.minTokenPrefix)
      (b.clock + event.duration config.settings) (b.step config start) := by
  have goesOn : start ≠ .operate .shutdown := by
    rintro rfl
    contradiction
  have still (time : Rat) : start ≠ .clock time := by
    rintro rfl
    contradiction
  obtain ⟨⟨seen, shown, token⟩, routine, generation, acts, belongs, ahead⟩ :=
    (move_transition sound goesOn).deployed begun deploys
  obtain ⟨found, present, -, kept, -, rfl⟩ := acting?_eq_some_iff.mp acts
  obtain ⟨queued, member⟩ := queued_of_started config b start _ found (Nat.le_refl _) present
  refine ⟨⟨seen, shown, by rw [token]⟩, found, generation, b.clock, present, kept, belongs,
    .inl ⟨queued, member, clock_step config b still⟩, ?_⟩
  rw [ahead]

/-! ## Runs -/

/-- Whether each move of a run is made on time. -/
def Punctual (config : Config) : Bench → List Move → Prop
  | _, [] => True
  | b, move :: moves => b.OnTime move ∧ Punctual config (b.step config move) moves

theorem Punctual.onTime {earlier later : List Move} {move : Move}
    (punctual : Punctual config b (earlier ++ move :: later)) :
    (b.run config earlier).OnTime move := by
  induction earlier generalizing b with
  | nil => exact punctual.1
  | cons first earlier ih => exact ih punctual.2

theorem Punctual.append {earlier later : List Move}
    (punctual : Punctual config b (earlier ++ later)) :
    Punctual config (b.run config earlier) later := by
  induction earlier generalizing b with
  | nil => exact punctual
  | cons first earlier ih => exact ih punctual.2

/-- The clock does not go back. -/
theorem Punctual.clock_le {earlier later : List Move}
    (punctual : Punctual config b (earlier ++ later)) :
    b.clock ≤ (b.run config earlier).clock := by
  induction earlier generalizing b with
  | nil => exact le_refl _
  | cons move moves ih =>
      refine le_trans ?_ (ih punctual.2)
      cases move with
      | clock time => exact punctual.1.1
      | _ => exact le_of_eq (clock_step config b (by simp)).symm

/-- In a run a bot is left to itself when it is not operated and nothing is shut down. -/
structure LeftAlone (config : Config) (bot : Int) (b : Bench) (moves : List Move) : Prop where
  goesOn : .operate .shutdown ∉ moves
  spared : ∀ event ∈ b.history config moves, event.bot ≠ bot
  kept : bot ∉ b.deleted config moves

theorem LeftAlone.move {earlier later : List Move} {move : Move}
    (alone : LeftAlone config bot b (earlier ++ move :: later)) :
    move ≠ .operate .shutdown ∧
      (∀ event, (b.run config earlier).event? config move = some event → event.bot ≠ bot) ∧
      (b.run config earlier).deleted? move ≠ some bot := by
  refine ⟨?_, fun event made => alone.spared event (mem_chronicle made later),
    fun made => alone.kept (mem_chronicle made later)⟩
  rintro rfl
  exact alone.goesOn (by simp)

theorem LeftAlone.append {earlier later : List Move}
    (alone : LeftAlone config bot b (earlier ++ later)) :
    LeftAlone config bot (b.run config earlier) later where
  goesOn member := alone.goesOn (List.mem_append_right _ member)
  spared event member := alone.spared event (by
    rw [history_append]
    exact List.mem_append_right _ member)
  kept member := alone.kept (by
    unfold deleted
    rw [chronicle_append]
    exact List.mem_append_right _ member)

section Reachable

variable {draws : Draws} {moves more : List Move}

/-- What is reached from a reachable bench is sound. -/
theorem sound_reached (config : Config) (draws : Draws) (moves more : List Move) :
    (((opening draws).run config moves).run config more).view.Sound
      config.settings.minTokenPrefix := by
  rw [← run_append]
  exact sound_run config draws _

/-- A sequence stays on its way up to the move that ends it. -/
theorem underway_until (exact : config.rounding = id)
    (finite : ∀ delay ∈ config.settings.deploymentDelays, Span.ofFloat delay ≠ .endless)
    (underway : Underway config bot task valid deadline ((opening draws).run config moves))
    (punctual : Punctual config ((opening draws).run config moves) more)
    (alone : LeftAlone config bot ((opening draws).run config moves) more) :
    let b := (opening draws).run config moves
    (∀ earlier, earlier <+: more → Pending bot task deadline (b.run config earlier)) ∨
      ∃ earlier move later, more = earlier ++ move :: later ∧
        (∀ first, first <+: earlier → Pending bot task deadline (b.run config first)) ∧
        Arrives config bot task valid deadline (b.run config earlier) move := by
  intro b
  have pending {earlier : List Move}
      (underway : Underway config bot task valid deadline (b.run config earlier)) :
      Pending bot task deadline (b.run config earlier) :=
    underway.pending (sound_reached config draws moves earlier)
  have step (earlier : List Move) (move : Move) (later : List Move)
      (split : more = earlier ++ move :: later)
      (underway : Underway config bot task valid deadline (b.run config earlier)) :
      Underway config bot task valid deadline ((b.run config earlier).step config move) ∨
        Arrives config bot task valid deadline (b.run config earlier) move := by
    subst split
    obtain ⟨goesOn, spared, kept⟩ := alone.move
    have timed : (b.run config earlier).Timed := by
      rw [← run_append]
      exact timed_run config draws _
    exact underway.step exact finite timed (sound_reached config draws moves earlier)
      punctual.onTime goesOn spared kept
  rcases run_until config more (Underway config bot task valid deadline)
      (Arrives config bot task valid deadline) underway step with
    throughout | ⟨earlier, move, later, split, before, arrives⟩
  · exact .inl fun earlier initial => pending (throughout earlier initial)
  · exact .inr ⟨earlier, move, later, split, fun first initial => pending (before first initial),
      arrives⟩

/-- A bot that has failed does not tick as long as it is left to itself. -/
theorem silent_after_failure
    (failed : ((opening draws).run config moves).status? bot = some .error)
    (alone : LeftAlone config bot ((opening draws).run config moves) more) :
    ∀ earlier, earlier <+: more →
      (((opening draws).run config moves).run config earlier).isTicking bot = false := by
  let b := (opening draws).run config moves
  have step (earlier : List Move) (move : Move) (later : List Move)
      (split : more = earlier ++ move :: later)
      (failed : (b.run config earlier).status? bot = some .error) :
      ((b.run config earlier).step config move).status? bot = some .error ∨ False := by
    subst split
    obtain ⟨goesOn, spared, kept⟩ := alone.move
    exact .inl (failed_step (sound_reached config draws moves earlier) failed goesOn spared kept)
  rcases run_until config more (fun b => b.status? bot = some .error) (fun _ _ => False) failed step
    with throughout | ⟨_, _, _, _, _, impossible⟩
  · intro earlier initial
    have sound := sound_reached config draws moves earlier
    rw [← Bool.not_eq_true, isTicking_iff_entry sound]
    rintro ⟨ticker, entry⟩
    obtain ⟨-, record, shown, running⟩ := sound.ticker entry
    have still := throughout earlier initial
    rw [status?_eq_view, shown, Option.map_some, running] at still
    contradiction
  · contradiction

end Reachable

/-- A run brings the deployment of a bot to its end: the deployment is pending up to a move, which
ends it, and if the token was not valid the bot does not tick after it. -/
def EndsOnTime (config : Config) (bot : Int) (task : Nat) (valid : Bool) (deadline : Rat) (b : Bench)
    (moves : List Move) : Prop :=
  ∃ earlier move later, moves = earlier ++ move :: later ∧
    (∀ first, first <+: earlier → Pending bot task deadline (b.run config first)) ∧
    Arrives config bot task valid deadline (b.run config earlier) move ∧
    (valid = false → ∀ last, last <+: later →
      (((b.run config earlier).step config move).run config last).isTicking bot = false)

/-- **Deployments are punctual.** Let the delays of a deployment be finite and the arithmetic of
times exact. From every reachable bench, let a move begin the deployment of a bot, and let a run
follow that is punctual and that leaves the bot to itself. The deadline is the sum of the delays
later. Before it the bot is stopped and does not tick. As long as the deployment is pending the
deadline has not passed, and the loop has still to resume the sequence by then. When it has passed,
the run has brought the deployment to its end: with a single move at the deadline the sequence is
over and the bot runs and begins to tick, or, if its token is not valid, fails and does not tick
any more. -/
theorem deployment_punctual (config : Config) (draws : Draws) (moves more : List Move)
    (start : Move) (event : Event) (exact : config.rounding = id)
    (finite : ∀ delay ∈ config.settings.deploymentDelays, Span.ofFloat delay ≠ .endless)
    (begun : ((opening draws).run config moves).event? config start = some event)
    (deploys : event.deploys = true)
    (punctual : Punctual config ((opening draws).run config (moves ++ [start])) more)
    (alone : LeftAlone config event.bot ((opening draws).run config (moves ++ [start])) more) :
    let task := ((opening draws).run config moves).tasks.length
    let deadline := ((opening draws).run config moves).clock + event.duration config.settings
    let valid := isTokenValid event.record.token config.settings.minTokenPrefix
    let b := (opening draws).run config (moves ++ [start])
    (∀ earlier, earlier <+: more → (b.run config earlier).clock < deadline →
        Pending event.bot task deadline (b.run config earlier)) ∧
      (Pending event.bot task deadline (b.run config more) ∨
        EndsOnTime config event.bot task valid deadline b more) ∧
      (deadline < (b.run config more).clock →
        EndsOnTime config event.bot task valid deadline b more) := by
  intro task deadline valid b
  have underway : Underway config event.bot task valid deadline b := by
    have begins := underway_of_event (sound_run config draws moves) begun deploys
    change Underway _ _ _ _ _ ((opening draws).run config (moves ++ [start]))
    rw [run_append]
    exact begins
  rcases underway_until exact finite underway punctual alone with
    throughout | ⟨earlier, move, later, rfl, before, arrives⟩
  · have pending := throughout more (List.prefix_refl more)
    exact ⟨fun earlier initial _ => throughout earlier initial, .inl pending,
      fun late => absurd late (not_lt_of_ge pending.clock)⟩
  · have silent (refused : valid = false) (last : List Move) (initial : last <+: later) :
        (((b.run config earlier).step config move).run config last).isTicking event.bot =
          false := by
      have failed := arrives.status
      rw [refused] at failed
      have reached : (b.run config earlier).step config move =
          (opening draws).run config (moves ++ [start] ++ (earlier ++ [move])) := by
        rw [run_append, run_append]
        rfl
      have onwards : LeftAlone config event.bot ((b.run config earlier).step config move)
          later := by
        have whole : earlier ++ move :: later = (earlier ++ [move]) ++ later := by simp
        rw [whole] at alone
        have rest := alone.append
        rw [run_append] at rest
        exact rest
      rw [reached] at failed onwards ⊢
      exact silent_after_failure failed onwards last initial
    have ends : EndsOnTime config event.bot task valid deadline b (earlier ++ move :: later) :=
      ⟨earlier, move, later, rfl, before, arrives, silent⟩
    refine ⟨?_, .inr ends, fun _ => ends⟩
    intro first initial early
    -- the clock does not go back, so that an early point lies before the end of the sequence
    have ending : earlier ++ [move] <+: earlier ++ move :: later := ⟨later, by simp⟩
    rcases List.prefix_or_prefix_of_prefix initial ending with inside | ⟨rest, rfl⟩
    · rcases List.prefix_concat_iff.mp inside with rfl | inside
      · rw [run_append] at early
        exact absurd arrives.after (ne_of_lt early)
      · exact before first inside
    · obtain ⟨tail, whole⟩ := initial
      have onwards : Punctual config (b.run config (earlier ++ [move])) (rest ++ tail) := by
        apply Punctual.append
        rw [← List.append_assoc, whole]
        exact punctual
      have late := onwards.clock_le
      rw [run_append, run_append config b earlier [move]] at early
      rw [run_append] at late
      exact absurd (late.trans_lt early) (not_lt_of_ge (le_of_eq arrives.after.symm))

instance (b : Bench) (move : Move) : Decidable (b.OnTime move) :=
  match move with
  | .clock _ => inferInstanceAs (Decidable (_ ∧ _))
  | .wake _ => inferInstanceAs (Decidable (∃ _ ∈ _, _))
  | .operate _ | .call _ | .awaitIdle _ | .callback _ => inferInstanceAs (Decidable True)

instance decidablePunctual (config : Config) : (b : Bench) → (moves : List Move) →
    Decidable (Punctual config b moves)
  | _, [] => inferInstanceAs (Decidable True)
  | b, move :: moves =>
      have := decidablePunctual config (b.step config move) moves
      inferInstanceAs (Decidable (b.OnTime move ∧ Punctual config (b.step config move) moves))

/-- Two bots are launched at once, and their sequences take turns in another order than that of the
launches. The first one runs after three quarters of a second. -/
theorem deployment_punctual_brisk :
    let launch : Move := .operate (.launch "print()" "123456:token" (.str "python"))
    let b := (opening (.ofLists [] [])).run .brisk [launch]
    let more : List Move :=
      [.callback 0, launch, .callback 0, .clock (1 / 2), .wake 1, .wake 0, .callback 0, .callback 0,
        .callback 1, .callback 0, .callback 0, .callback 0, .clock (3 / 4), .wake 1, .wake 0,
        .callback 0, .callback 0, .callback 0, .callback 0, .clock 1]
    Punctual .brisk b more ∧ LeftAlone .brisk 1 b more ∧ (b.run .brisk more).clock = 1 ∧
      EndsOnTime .brisk 1 0 true (3 / 4) b more := by
  intro launch b more
  have begins : ((opening (.ofLists [] [])).event? .brisk launch).any (fun event =>
      event.bot == 1 && event.deploys && event.duration Config.brisk.settings == 3 / 4 &&
        isTokenValid event.record.token Config.brisk.settings.minTokenPrefix) = true := by
    decide +kernel
  obtain ⟨event, begun, facts⟩ := (Option.any_eq_true ..).mp begins
  simp only [Bool.and_eq_true, beq_iff_eq] at facts
  obtain ⟨⟨⟨bot, deploys⟩, duration⟩, valid⟩ := facts
  have punctual : Punctual .brisk b more := by decide +kernel
  have alone : LeftAlone .brisk 1 b more := by
    have others : (b.history .brisk more).map Event.bot = [2] := by decide +kernel
    have none : b.deleted .brisk more = [] := by decide +kernel
    refine ⟨by simp [more, launch], ?_, by simp [none]⟩
    intro event member same
    have listed : event.bot ∈ (b.history .brisk more).map Event.bot := List.mem_map_of_mem member
    rw [others, same] at listed
    exact absurd listed (by decide)
  have finite : ∀ delay ∈ Config.brisk.settings.deploymentDelays, Span.ofFloat delay ≠ .endless := by
    decide +kernel
  obtain ⟨-, -, ends⟩ := deployment_punctual .brisk (.ofLists [] []) [] more launch event rfl finite
    begun deploys punctual (bot ▸ alone)
  have late : (b.run .brisk more).clock = 1 := by decide +kernel
  have start : ((opening (.ofLists [] [])).run .brisk []).clock + 3 / 4 = 3 / 4 := zero_add _
  rw [bot, duration, valid, start] at ends
  exact ⟨punctual, alone, late, ends (by decide +kernel)⟩

end Bench

end BotBench
