import BotBench.Bench.Answering

/-! # The event loop

Queued callbacks run first in, first out. When the queue is empty, time may move on to the earliest
timer. `settle` empties the queue, `advance` lets a span of time pass, and `drive` runs a task to
its end. The number of steps is bounded by a fuel that no run of a bench comes near. -/

namespace BotBench.Bench

/-- What a verdict makes of the bench. -/
def obey (config : Config) (b : Bench) (id : Nat) : Verdict → Bench
  | .sleep span routine => b.sleep config id span routine
  | .wait target routine => b.wait id target routine
  | .finish answer => b.finish id answer

/-- The verdict of a sequence's pace. -/
def Pace.verdict : Pace → Verdict
  | .sleep delay routine => .sleep (.ofFloat delay) routine
  | .done => .finish none

/-- Run a task from where it goes on to its next wait or its end. -/
def perform (config : Config) (b : Bench) (id : Nat) : Routine → Bench × Verdict
  | .connect bot generation stage =>
      let (b, pace) := b.connect config bot generation stage
      (b, pace.verdict)
  | .redeploy bot generation line slept =>
      let (b, pace) := b.redeploy config bot generation line slept
      (b, pace.verdict)
  | .ticker bot slept =>
      let (goesOn, b) := if slept then b.tick config bot else (true, b)
      if goesOn then
        let (pause, b) := b.tickerPause config
        (b, .sleep pause (.ticker bot true))
      else (b.leaveTicker bot id, .finish none)
  | .awaitIdle bot waited =>
      match if waited then none else entry? b.sequencers bot with
      | some target => (b, .wait target (.awaitIdle bot true))
      | none => (b, .finish none)
  | .serve call => b.serve config call
  | .report status bot => (b, .finish (some (b.reportAnswer status bot)))

/-- End a cancelled task. A ticker that has begun leaves the table. -/
def unwind (b : Bench) (id : Nat) (routine : Routine) : Bench :=
  let b :=
    match routine with
    | .ticker bot true => b.leaveTicker bot id
    | _ => b
  b.finish id none

/-- Resume a queued task. -/
def resume (config : Config) (b : Bench) (id : Nat) : Bench :=
  match b.tasks[id]? with
  | none => b
  | some task =>
      if task.state != .queued then b
      else if task.cancelled then b.unwind id task.routine
      else
        let (b, verdict) := b.perform config id task.routine
        b.obey config id verdict

/-- Tell a waiting task that its wait is over. -/
def notify (b : Bench) (id : Nat) : Bench :=
  match b.tasks[id]? with
  | none => b
  | some task =>
      if task.state == .waiting then
        { b.setTask id fun task => { task with state := .queued } with
          ready := b.ready ++ [.resume id] }
      else b

/-- Run one callback that has been taken from the queue. -/
def runCallback (config : Config) (b : Bench) : Callback → Bench
  | .resume id => b.resume config id
  | .notify id => b.notify id

/-- Run callbacks until none is left, at most `fuel` of them. -/
def settle (config : Config) : Nat → Bench → Bench
  | 0, b => b
  | fuel + 1, b =>
      match b.ready with
      | [] => b
      | callback :: rest =>
          settle config fuel ({ b with ready := rest }.runCallback config callback)

/-- The earliest time at which a timer is due. -/
def nextDue? (b : Bench) : Option Rat :=
  b.timers.foldl (fun earliest timer =>
    match timer.due, earliest with
    | .endless, _ => earliest
    | .finite due, none => some due
    | .finite due, some time => some (if due < time then due else time)) none

/-- The tolerance within which timers count as due at the same time. -/
def tolerance : Rat := 1 / 1000000000

/-- Insert a timer behind all timers that are due no later. -/
def insertTimer (timer : Timer) : List Timer → List Timer
  | [] => [timer]
  | other :: rest =>
      if timer.due.before other.due then timer :: other :: rest
      else other :: insertTimer timer rest

/-- Wake the tasks whose timers are due, in the order in which they are due and then in the order in
which they were set. -/
def fireDue (b : Bench) : Bench :=
  let limit := Span.finite (b.clock + tolerance)
  let due := (b.timers.filter fun timer => timer.due.before limit).foldl
    (fun sorted timer => insertTimer timer sorted) []
  let b := { b with timers := b.timers.filter fun timer => !timer.due.before limit }
  due.foldl (fun b timer =>
    { b.setTask timer.task fun task => { task with state := .queued } with
      ready := b.ready ++ [.resume timer.task] }) b

/-- Move the clock to a time, wake what is due, and settle. -/
def moveTo (config : Config) (fuel : Nat) (b : Bench) (time : Rat) : Bench :=
  ({ b with clock := time }.fireDue).settle config fuel

/-- Let timers run up to a time. -/
def runUntil (config : Config) (fuel : Nat) (target : Rat) : Nat → Bench → Bench
  | 0, b => b
  | steps + 1, b =>
      match b.nextDue? with
      | some due =>
          if due ≤ target then runUntil config fuel target steps (b.moveTo config fuel due) else b
      | none => b

/-- Let a span of time pass. -/
def advance (config : Config) (fuel : Nat) (b : Bench) (seconds : Rat) : Bench :=
  let b := b.settle config fuel
  let target := config.rounding (b.clock + seconds)
  { runUntil config fuel target fuel b with clock := target }

/-- Let time pass until a task has ended. -/
def runToEnd (config : Config) (fuel : Nat) (task : Nat) : Nat → Bench → Bench
  | 0, b => b
  | steps + 1, b =>
      if b.isFinished task then b
      else
        match b.nextDue? with
        | some due => runToEnd config fuel task steps (b.moveTo config fuel due)
        | none => b

/-- Start a task and run it to its end; the clock stands at the time of its end. -/
def drive (config : Config) (fuel : Nat) (b : Bench) (routine : Routine) : Nat × Bench :=
  let (task, b) := b.spawn routine
  (task, runToEnd config fuel task fuel (b.settle config fuel))

/-- The answer that a task gave. -/
def answer? (b : Bench) (task : Nat) : Option Answer := b.tasks[task]?.bind (·.answer)

end BotBench.Bench
