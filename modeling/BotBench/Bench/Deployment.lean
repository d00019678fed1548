import BotBench.Bench.Telemetry
import BotBench.Text.Blank

/-! # Deployments

Launching, updating, restarting, stopping and deleting a bot each end what is pending for it.
Launches, updates and restarts start a connect sequence of the bot's new generation; before every
step it makes sure that its generation is still the current one. -/

namespace BotBench.Bench

open Text

/-- The line of a bot whose token has not the right form. -/
def invalidTokenLine : String :=
  "Error: Invalid Telegram token format. Please check your token."

/-- The line of a bot that begins to run. -/
def runningLine : String := "Successfully connected. Bot is now running and polling for updates."

/-- Whether a token has a colon and more than `least` characters in front of the first one. -/
def isTokenValid (token : String) (least : Int) : Bool :=
  let cs := token.toList
  cs.contains ':' && least < ((cs.takeWhile (· != ':')).length : Int)

/-- Refuse a blank token. -/
def requireToken (token : String) : Except Refusal Unit :=
  if isAllBlank token then .error .blankToken else .ok ()

/-- Start a sequence for a bot. -/
def schedule (b : Bench) (id : Int) (routine : Routine) : Bench :=
  let (task, b) := b.spawn routine
  { b with sequencers := setEntry b.sequencers id task }

/-- End what is pending for a bot, and return the next generation. -/
def interrupt (b : Bench) (id : Int) : Except Refusal (Int × Bench) := do
  let record ← b.registry.get id
  let b :=
    match entry? b.sequencers id with
    | some task => { b with sequencers := eraseEntry b.sequencers id }.cancel task
    | none => b
  return (record.generation + 1, b.stopTicker id)

/-- Launch a new bot. -/
def launch (config : Config) (b : Bench) (code token : String) (language : Json) :
    Except Refusal (Record × Bench) := do
  requireToken token
  let language ← Language.ofJson language
  let (record, registry) := b.registry.create (b.now config) code token language
  let b := { b with registry }.note .info ("Launching " ++ record.name)
  let (record, b) ← b.appendLog config record.id "Deployment initiated..."
  return (record, b.schedule record.id (.connect record.id record.generation .attempt))

/-- Give a bot a new source, token and language, and deploy it anew. -/
def updateBot (config : Config) (b : Bench) (id : Int) (code token : String) (language : Json) :
    Except Refusal (Record × Bench) := do
  requireToken token
  let language ← Language.ofJson language
  let (generation, b) ← b.interrupt id
  let (record, b) ← b.update config id (some "Bot update initiated...")
    [.code code, .token token, .language language, .status .stopped, .cpuUsage 0, .ramUsage 0,
      .messages [], .generation generation]
  let b := b.note .info ("Updating " ++ record.name)
  return (record, b.schedule id
    (.redeploy id generation (some "Redeploying with new configuration...") false))

/-- Deploy a bot anew as it is. -/
def restart (config : Config) (b : Bench) (id : Int) : Except Refusal (Record × Bench) := do
  let (generation, b) ← b.interrupt id
  let (record, b) ← b.update config id (some "Restarting bot...")
    [.status .stopped, .cpuUsage 0, .ramUsage 0, .messages [], .generation generation]
  let b := b.note .info ("Restarting " ++ record.name)
  return (record, b.schedule id (.redeploy id generation none false))

/-- Stop a bot. -/
def stop (config : Config) (b : Bench) (id : Int) : Except Refusal (Record × Bench) := do
  let (generation, b) ← b.interrupt id
  let b := b.note .info s!"Stopping bot {id}"
  b.update config id (some "Bot stopped by user.")
    [.status .stopped, .cpuUsage 0, .ramUsage 0, .generation generation]

/-- Delete a bot. -/
def delete (b : Bench) (id : Int) : Except Refusal Bench := do
  let (_, b) ← b.interrupt id
  let (record, registry) ← b.registry.remove id
  return { b with registry }.note .info ("Deleted " ++ record.name)

/-- Cancel everything that is pending. -/
def shutdown (b : Bench) : Bench :=
  let b := { (b.sequencers.map (·.2)).foldl cancel b with sequencers := [] }
  b.stopAllTickers

/-- Whether a bot exists and a generation is its current one. -/
def isCurrent (b : Bench) (id generation : Int) : Bool :=
  match b.registry.find? id with
  | some record => record.generation == generation
  | none => false

/-- What a sequence does next: it sleeps and goes on, or it is over. -/
inductive Pace
  | sleep (delay : Float) (routine : Routine)
  | done

/-- One step of the connect sequence of a generation that is the current one. -/
def connectStep (config : Config) (b : Bench) (id generation : Int) (stage : Stage) :
    Bench × Pace :=
  let settings := config.settings
  let logged (line : String) : Bench := b.after (b.appendLog config id line)
  match stage with
  | .attempt =>
      (logged "Attempting to connect to Telegram API...",
        .sleep settings.connectDelay (.connect id generation .validate))
  | .validate =>
      (logged "Validating Telegram token...",
        .sleep settings.validateDelay (.connect id generation .check))
  | .check =>
      match b.registry.find? id with
      | none => (b, .done)
      | some record =>
          if isTokenValid record.token settings.minTokenPrefix then
            (logged "Token validation successful.",
              .sleep settings.establishDelay (.connect id generation .establish))
          else
            let b := b.note .info (record.name ++ " rejected: invalid token format")
            (b.after (b.update config id (some invalidTokenLine) [.status .error]), .done)
  | .establish =>
      (logged "Establishing connection to api.telegram.org...",
        .sleep settings.runningDelay (.connect id generation .finish))
  | .finish =>
      match b.update config id (some runningLine) [.status .running] with
      | .error _ => (b, .done)
      | .ok (record, b) => ((b.note .info (record.name ++ " is running")).startTicker id, .done)

/-- Go on with the connect sequence of a generation, unless the generation is stale. -/
def connect (config : Config) (b : Bench) (id generation : Int) (stage : Stage) : Bench × Pace :=
  if b.isCurrent id generation then b.connectStep config id generation stage else (b, .done)

/-- Go on with a redeployment: a pause first, then its line and the connect sequence. -/
def redeploy (config : Config) (b : Bench) (id generation : Int) (line : Option String)
    (slept : Bool) : Bench × Pace :=
  if !slept then (b, .sleep config.settings.redeployDelay (.redeploy id generation line true))
  else if b.isCurrent id generation then
    let b :=
      match line with
      | none | some "" => b
      | some line => b.after (b.appendLog config id line)
    b.connect config id generation .attempt
  else (b, .done)

end BotBench.Bench
