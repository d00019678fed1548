import BotBench.Bench.Timing
import BotBench.Bot.Registry
import BotBench.Sandbox.Outcome

/-! # The state of the bench

The bench holds the registry, the tasks that act on it later, and the queue and timers by which they
are woken. A task runs from one wait to the next without interruption. A task that is cancelled
before it is resumed does nothing more but leave the ticker's table. -/

namespace BotBench

/-- Where the connect sequence of a bot goes on. -/
inductive Stage
  | attempt
  | validate
  | check
  | establish
  | finish
  deriving DecidableEq, Repr, Inhabited

/-- What a user asks of the bench. -/
inductive Call
  | list
  | show (bot : Int)
  | launch (code token : String) (language : Language) (wait : Bool)
  | update (bot : Int) (code token : String) (language : Language) (wait : Bool)
  | stop (bot : Int)
  | restart (bot : Int) (wait : Bool)
  | delete (bot : Int)
  | send (bot : Int) (text : String)
  deriving DecidableEq, Repr, Inhabited

/-- How the bench answers a call: with a value, with a problem that the caller is told about, or not
at all because something else went wrong. -/
inductive Answer
  | success (status : Nat) (body : Json)
  | problem (status : Nat) (detail : Json)
  | crash (refusal : Refusal)
  | fault (fault : SimulationFault)

/-- What a task does when it is resumed. -/
inductive Routine
  /-- The connect sequence of a generation of a bot. -/
  | connect (bot generation : Int) (stage : Stage)
  /-- A pause, a line for the log, and then the connect sequence. -/
  | redeploy (bot generation : Int) (line : Option String) (slept : Bool)
  /-- The telemetry of a running bot. -/
  | ticker (bot : Int) (slept : Bool)
  /-- Waiting for the sequence of a bot to end. -/
  | awaitIdle (bot : Int) (waited : Bool)
  /-- Answering a call. -/
  | serve (call : Call)
  /-- Answering with a bot's record after waiting. -/
  | report (status : Nat) (bot : Int)
  deriving DecidableEq, Repr, Inhabited

/-- Whether a task is queued, asleep, waiting for another task, or at its end. -/
inductive TaskState
  | queued
  | asleep
  | waiting
  | finished
  deriving DecidableEq, Repr, Inhabited

/-- A task: where it goes on, its state, whether it is cancelled, the tasks to tell when it ends,
and the answer it gave. -/
structure Task where
  routine : Routine
  state : TaskState := .queued
  cancelled : Bool := false
  watchers : List Nat := []
  answer : Option Answer := none
  deriving Inhabited

/-- An entry of the queue: a task to resume, or a waiting task to be told that its wait is over. -/
inductive Callback
  | resume (task : Nat)
  | notify (task : Nat)
  deriving DecidableEq, Repr, Inhabited

/-- A task to be woken at a time. -/
structure Timer where
  due : Span
  task : Nat
  deriving DecidableEq, Repr, Inhabited

/-- What a bench is set up with: the settings, the rounding of times, and the engine that simulates
a bot from its language, source, token and a message. -/
structure Config where
  settings : Settings := {}
  rounding : Rat → Rat := Number.roundToBinary64
  engine : Language → String → String → String → Simulation

/-- The state of the bench. Timers stand in the order of their creation. -/
structure Bench where
  registry : Registry := {}
  sequencers : List (Int × Nat) := []
  tickers : List (Int × Nat) := []
  tasks : List Task := []
  ready : List Callback := []
  timers : List Timer := []
  clock : Rat := 0
  draws : Draws
  log : List LogEntry := []

/-- The entry under a key of a table. -/
def entry? {α : Type} (table : List (Int × α)) (key : Int) : Option α :=
  (table.find? fun entry => entry.1 == key).map (·.2)

/-- A table without a key. -/
def eraseEntry {α : Type} (table : List (Int × α)) (key : Int) : List (Int × α) :=
  table.filter fun entry => entry.1 != key

/-- A table with an entry under a key; a key that is there keeps its place. -/
def setEntry {α : Type} (table : List (Int × α)) (key : Int) (value : α) : List (Int × α) :=
  if table.any fun entry => entry.1 == key then
    table.map fun entry => if entry.1 == key then (key, value) else entry
  else table ++ [(key, value)]

namespace Bench

/-- The time in whole milliseconds. -/
def now (config : Config) (b : Bench) : Int := milliseconds config.rounding b.clock

/-- Write an entry into the bench's own log. -/
def note (b : Bench) (level : LogLevel) (text : String) : Bench :=
  { b with log := b.log ++ [⟨level, text⟩] }

/-- Change a bot's record and write a line into its log. -/
def update (config : Config) (b : Bench) (id : Int) (log : Option String) (changes : List Change) :
    Except Refusal (Record × Bench) :=
  (b.registry.update config.settings (b.now config) id log changes).map fun (record, registry) =>
    (record, { b with registry })

/-- Write a line into a bot's log. -/
def appendLog (config : Config) (b : Bench) (id : Int) (text : String) :
    Except Refusal (Record × Bench) :=
  b.update config id (some text) []

/-- Append a message to a bot's transcript. -/
def appendMessage (config : Config) (b : Bench) (id : Int) (message : Message) :
    Except Refusal (Record × Bench) :=
  (b.registry.appendMessage config.settings (b.now config) id message).map
    fun (record, registry) => (record, { b with registry })

/-- The bench after an operation; a refused operation changes nothing. -/
def after {α : Type} (b : Bench) : Except Refusal (α × Bench) → Bench
  | .ok (_, b') => b'
  | .error _ => b

/-- Change a task. -/
def setTask (b : Bench) (id : Nat) (change : Task → Task) : Bench :=
  { b with tasks := b.tasks.modify id change }

/-- Start a task: it is queued and has not run yet. -/
def spawn (b : Bench) (routine : Routine) : Nat × Bench :=
  let id := b.tasks.length
  (id, { b with tasks := b.tasks ++ [{ routine }], ready := b.ready ++ [.resume id] })

/-- Whether a task has come to its end. -/
def isFinished (b : Bench) (id : Nat) : Bool :=
  match b.tasks[id]? with
  | some task => task.state == .finished
  | none => true

/-- Ask a task to end. It is resumed once more to unwind, at the place of its next resumption if it
is queued, and at the end of the queue if it sleeps or waits. -/
def cancel (b : Bench) (id : Nat) : Bench :=
  match b.tasks[id]? with
  | none => b
  | some task =>
      match task.state with
      | .finished => b
      | .queued => b.setTask id fun task => { task with cancelled := true }
      | .asleep | .waiting =>
          { b.setTask id fun task => { task with cancelled := true, state := .queued } with
            ready := b.ready ++ [.resume id]
            timers := b.timers.filter fun timer => timer.task != id }

/-- Let a task sleep for a span before it goes on with `routine`. A span that is over at once only
lets the other tasks of the queue run first. -/
def sleep (config : Config) (b : Bench) (id : Nat) (span : Span) (routine : Routine) : Bench :=
  match span with
  | .finite seconds =>
      if seconds ≤ 0 then
        { b.setTask id fun task => { task with routine, state := .queued } with
          ready := b.ready ++ [.resume id] }
      else
        let due := Span.finite (config.rounding (b.clock + seconds))
        { b.setTask id fun task => { task with routine, state := .asleep } with
          timers := b.timers ++ [⟨due, id⟩] }
  | .endless =>
      { b.setTask id fun task => { task with routine, state := .asleep } with
        timers := b.timers ++ [⟨.endless, id⟩] }

/-- Let a task wait for another one before it goes on with `routine`. -/
def wait (b : Bench) (id target : Nat) (routine : Routine) : Bench :=
  let b := b.setTask id fun task => { task with routine, state := .waiting }
  if b.isFinished target then { b with ready := b.ready ++ [.notify id] }
  else b.setTask target fun task => { task with watchers := task.watchers ++ [id] }

/-- End a task with an answer, and tell the tasks that wait for it. -/
def finish (b : Bench) (id : Nat) (answer : Option Answer) : Bench :=
  match b.tasks[id]? with
  | none => b
  | some task =>
      { b.setTask id fun task => { task with state := .finished, answer } with
        ready := b.ready ++ task.watchers.map .notify }

end Bench

end BotBench
