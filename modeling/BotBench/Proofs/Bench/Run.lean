import BotBench.Bench.Loop

/-! # Runs of the bench

A run is a list of moves. A move is an operation of a user, a call or a wait that gets a task of its
own, or a step of the event loop. The steps of the loop come in every order: any callback of the
queue may run next, any sleeping task may wake, and the clock may show any time. What holds of every
run holds in particular under the bench's own loop, which takes callbacks first in, first out and
wakes tasks when they are due. -/

namespace BotBench

/-- What a user does to the bench at once. -/
inductive Operation
  | launch (code token : String) (language : Json)
  | update (bot : Int) (code token : String) (language : Json)
  | restart (bot : Int)
  | stop (bot : Int)
  | delete (bot : Int)
  | shutdown
  | send (bot : Int) (text : String)
  | press (bot : Int) (button : Button)

/-- One move of a run. -/
inductive Move
  /-- A user carries out an operation. -/
  | operate (operation : Operation)
  /-- A call arrives and gets a task that will answer it. -/
  | call (call : Call)
  /-- Somebody begins to wait for the sequence of a bot to end. -/
  | awaitIdle (bot : Int)
  /-- The callback at a place of the queue runs. -/
  | callback (place : Nat)
  /-- A sleeping task wakes. -/
  | wake (task : Nat)
  /-- The clock shows a time. -/
  | clock (time : Rat)

namespace Bench

/-- The bench as it is set up: no bots, no tasks, and the numbers that will be drawn. -/
def opening (draws : Draws) : Bench := { draws }

/-- Carry out an operation. A refused operation changes nothing, and a button can be pressed when
its payload is text. -/
def operate (config : Config) (b : Bench) : Operation → Bench
  | .launch code token language => b.after (b.launch config code token language)
  | .update bot code token language => b.after (b.updateBot config bot code token language)
  | .restart bot => b.after (b.restart config bot)
  | .stop bot => b.after (b.stop config bot)
  | .delete bot =>
      match b.delete bot with
      | .ok b' => b'
      | .error _ => b
  | .shutdown => b.shutdown
  | .send bot text => (b.send config bot text).1
  | .press bot button =>
      match button.payload with
      | .str text => (b.send config bot text).1
      | _ => b

/-- Run the callback at a place of the queue. -/
def runAt (config : Config) (b : Bench) (place : Nat) : Bench :=
  match b.ready[place]? with
  | some callback => { b with ready := b.ready.eraseIdx place }.runCallback config callback
  | none => b

/-- Wake a sleeping task. -/
def wake (b : Bench) (id : Nat) : Bench :=
  match b.tasks[id]? with
  | some task =>
      if task.state == .asleep then
        { b.setTask id fun task => { task with state := .queued } with
          ready := b.ready ++ [.resume id]
          timers := b.timers.filter fun timer => timer.task != id }
      else b
  | none => b

/-- Make one move. -/
def step (config : Config) (b : Bench) : Move → Bench
  | .operate operation => b.operate config operation
  | .call call => (b.spawn (.serve call)).2
  | .awaitIdle bot => (b.spawn (.awaitIdle bot false)).2
  | .callback place => b.runAt config place
  | .wake task => b.wake task
  | .clock time => { b with clock := time }

/-- Make several moves, one after the other. -/
def run (config : Config) (b : Bench) (moves : List Move) : Bench := moves.foldl (step config) b

@[simp] theorem run_nil (config : Config) (b : Bench) : b.run config [] = b := rfl

@[simp] theorem run_cons (config : Config) (b : Bench) (move : Move) (moves : List Move) :
    b.run config (move :: moves) = (b.step config move).run config moves := rfl

theorem run_append (config : Config) (b : Bench) (earlier later : List Move) :
    b.run config (earlier ++ later) = (b.run config earlier).run config later :=
  List.foldl_append

/-- What every move of a run keeps, the run keeps. -/
theorem run_keeps {config : Config} {motive : Bench → Prop} {moves : List Move}
    (step : ∀ b, ∀ move ∈ moves, motive b → motive (b.step config move)) {b : Bench}
    (start : motive b) : motive (b.run config moves) := by
  induction moves generalizing b with
  | nil => exact start
  | cons move moves ih =>
      rw [run_cons]
      apply ih
      · intro b' move' member
        exact step b' move' (List.mem_cons_of_mem _ member)
      · exact step b move List.mem_cons_self start

/-- What every move of a run keeps or makes way for something else holds at every point of the run,
or up to the move that makes way. -/
theorem run_until (config : Config) (moves : List Move) (motive : Bench → Prop)
    (other : Bench → Move → Prop) {b : Bench} (start : motive b)
    (step : ∀ earlier move later, moves = earlier ++ move :: later →
      motive (b.run config earlier) → motive ((b.run config earlier).step config move) ∨
        other (b.run config earlier) move) :
    (∀ earlier, earlier <+: moves → motive (b.run config earlier)) ∨
      ∃ earlier move later, moves = earlier ++ move :: later ∧
        (∀ first, first <+: earlier → motive (b.run config first)) ∧
        other (b.run config earlier) move := by
  induction moves generalizing b with
  | nil =>
      left
      intro earlier initial
      rw [List.prefix_nil.mp initial]
      exact start
  | cons move moves ih =>
      have from_start {rest : List Move}
          (holds : ∀ earlier, earlier <+: rest → motive ((b.step config move).run config earlier)) :
          ∀ earlier, earlier <+: move :: rest → motive (b.run config earlier) := by
        intro earlier initial
        rcases List.prefix_cons_iff.mp initial with rfl | ⟨tail, rfl, inside⟩
        · exact start
        · exact holds tail inside
      rcases step [] move moves rfl start with kept | made
      · rcases ih kept (fun earlier next later split => step (move :: earlier) next later
          (by rw [split]; rfl)) with holds | ⟨earlier, next, later, rfl, holds, made⟩
        · exact .inl (from_start holds)
        · exact .inr ⟨move :: earlier, next, later, rfl, from_start holds, made⟩
      · refine .inr ⟨[], move, moves, rfl, ?_, made⟩
        intro first initial
        rw [List.prefix_nil.mp initial]
        exact start

/-! ## A first run -/

end Bench

/-- A set-up with exact times and an engine that has no reply to anything. -/
def Config.silent : Config where
  rounding := id
  engine _ _ _ _ := { answer := .ok none }

/-- A user launches a bot, and the loop lets its sequence run to its end. -/
def Move.firstLaunch : List Move :=
  [.operate (.launch "print()" "123456:token" (.str "python")), .callback 0, .wake 0, .callback 0,
    .wake 0, .callback 0, .wake 0, .callback 0, .wake 0, .callback 0]

end BotBench
