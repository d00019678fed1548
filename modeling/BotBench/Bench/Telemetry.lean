import BotBench.Bench.State

/-! # Telemetry

A running bot is watched by at most one ticker. Each tick either lets the bot fail or writes a
health line and new usage figures; a bot that is not running any more ends its ticker. -/

namespace BotBench.Bench

open Number

/-- The lines that a healthy bot writes. -/
def healthLines : List String :=
  ["Polling for updates...", "API call to telegram successful. No new messages.",
    "Processing update queue... empty.", "Memory usage stable.", "CPU load nominal.",
    "Healthcheck passed.", "Connection to Telegram API is healthy.",
    "Checking for pending tasks..."]

/-- The line of a bot that fails. -/
def haltLine : String := "Error: Unhandled exception. Bot halted."

/-- Whether a bot has a ticker that has not ended. -/
def isTicking (b : Bench) (id : Int) : Bool :=
  match entry? b.tickers id with
  | some task => !b.isFinished task
  | none => false

/-- Start the ticker of a bot, unless it has one. -/
def startTicker (b : Bench) (id : Int) : Bench :=
  if b.isTicking id then b
  else
    let (task, b) := b.spawn (.ticker id false)
    { b with tickers := setEntry b.tickers id task }

/-- Stop the ticker of a bot, if it has one. -/
def stopTicker (b : Bench) (id : Int) : Bench :=
  match entry? b.tickers id with
  | some task => { b with tickers := eraseEntry b.tickers id }.cancel task
  | none => b

/-- Stop all tickers. -/
def stopAllTickers (b : Bench) : Bench :=
  (b.tickers.map (·.1)).foldl stopTicker b

/-- Whether a drawn number lies below a rate. -/
def drawnBelow (draw : Rat) (rate : Float) : Bool :=
  match Binary64.ofFloat rate with
  | .infinite negative => !negative
  | exact =>
      match exact.toRat? with
      | some value => draw < value
      | none => false

/-- A usage figure: a drawn number scaled to a range and rounded to two decimals, a half to the even
neighbour. -/
def usageFigure (rounding : Rat → Rat) (width low draw : Rat) : Rat :=
  rounding (roundDecimals 2 (rounding (rounding (draw * width) + low)))

/-- Draw a number. -/
def drawNumber (b : Bench) : Rat × Bench :=
  let (draw, draws) := b.draws.drawNumber
  (draw, { b with draws })

/-- Choose an item of a list. -/
def choose {α : Type} [Inhabited α] (b : Bench) (items : List α) : α × Bench :=
  let (item, draws) := b.draws.choose items
  (item, { b with draws })

/-- Apply one telemetry sample to a bot, and say whether its ticker goes on. -/
def tick (config : Config) (b : Bench) (id : Int) : Bool × Bench :=
  match b.registry.find? id with
  | none => (false, b)
  | some record =>
      if record.status != .running then (false, b)
      else
        let (draw, b) := b.drawNumber
        if drawnBelow draw config.settings.telemetryFailureRate then
          let b := b.note .info (record.name ++ " halted by simulated failure")
          (false, b.after (b.update config id (some haltLine) [.status .error]))
        else
          let (line, b) := b.choose healthLines
          let (cpu, b) := b.drawNumber
          let (ram, b) := b.drawNumber
          (true, b.after (b.update config id (some line)
            [.cpuUsage (usageFigure config.rounding 8 2 cpu),
              .ramUsage (usageFigure config.rounding 25 25 ram)]))

/-- The pause before the next tick. -/
def tickerPause (config : Config) (b : Bench) : Span × Bench :=
  let (draw, b) := b.drawNumber
  (Span.addJitter config.rounding draw (.ofFloat config.settings.telemetryInterval)
    (.ofFloat config.settings.telemetryJitter), b)

/-- Take a ticker that ends out of the table, if it is the one that stands there. -/
def leaveTicker (b : Bench) (id : Int) (task : Nat) : Bench :=
  if entry? b.tickers id == some task then { b with tickers := eraseEntry b.tickers id } else b

end BotBench.Bench
