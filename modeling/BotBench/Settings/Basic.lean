import BotBench.Json.Basic
import BotBench.Number.Numeral

/-! # Settings

Thirteen settings govern the bench: the delays of a deployment, the ticker, the windows kept of logs
and transcripts, the token rule and the limits of the script sandbox. `Settings.fromMapping` reads
them from a mapping. Each key stands on its own: a known key is converted to the kind of its
default, an unknown key is passed over, and a key that is missing keeps its default. -/

namespace BotBench

open Number Text

/-- The settings of a bench. Delays, intervals and the time limit are in seconds. -/
structure Settings where
  connectDelay : Float := 0.5
  validateDelay : Float := 1.0
  establishDelay : Float := 0.8
  runningDelay : Float := 1.2
  redeployDelay : Float := 1.0
  telemetryInterval : Float := 5.0
  telemetryJitter : Float := 2.0
  telemetryFailureRate : Float := 0.02
  logLimit : Int := 100
  transcriptLimit : Int := 100
  minTokenPrefix : Int := 5
  sandboxMemoryLimit : Int := 33554432
  sandboxTimeLimit : Float := 1.0
  deriving Inhabited

/-- A value as a mapping may hold it for a setting. Of values that cannot be converted only the kind
matters. -/
inductive RawSetting
  | flag (value : Bool)
  | whole (value : Int)
  | real (value : Float)
  | written (value : Inscription)
  | unconvertible (kind : String)
  deriving Inhabited

/-- A value of plain data as a setting. -/
def Json.toRawSetting : Json → RawSetting
  | .bool value => .flag value
  | .int value => .whole value
  | .float value => .real value
  | .str value => .written (.text value)
  | value => .unconvertible value.kind

/-- Why a value cannot be a setting. -/
inductive SettingFault
  /-- What is written is not a real number. -/
  | notReal (written : Inscription)
  /-- What is written is not a whole number. -/
  | notWhole (written : Inscription)
  /-- A value of this kind is never a real number. -/
  | kindNotReal (kind : String)
  /-- A value of this kind is never a whole number. -/
  | kindNotWhole (kind : String)
  /-- The whole number is beyond the range of real settings. -/
  | tooLarge
  /-- No number is not a whole number. -/
  | undefinedWhole
  /-- An infinity is not a whole number. -/
  | infiniteWhole
  deriving DecidableEq, Repr

/-- The wording of a fault. -/
def SettingFault.message : SettingFault → String
  | .notReal written => "could not convert string to float: " ++ written.shown
  | .notWhole written => wholeProblem 10 written.chars written.shownShort
  | .kindNotReal kind => "float() argument must be a string or a real number, not '" ++ kind ++ "'"
  | .kindNotWhole kind =>
      "int() argument must be a string, a bytes-like object or a real number, not '" ++ kind ++ "'"
  | .tooLarge => "int too large to convert to float"
  | .undefinedWhole => "cannot convert float NaN to integer"
  | .infiniteWhole => "cannot convert float infinity to integer"

/-- What a fault is reported as to whoever asked for the settings. -/
inductive Report
  /-- A value is not one of those that are allowed. -/
  | badValue
  /-- A value is of a kind that is never allowed. -/
  | badKind
  /-- A number is beyond the range of its setting. -/
  | outOfRange
  /-- A value was used as a mapping that is none. -/
  | noMapping
  /-- What reads documents is not there. -/
  | noReader
  /-- A directory cannot be read as a file. -/
  | directory
  /-- A document is not well-formed. -/
  | malformed
  deriving DecidableEq, Repr

/-- What a fault of a setting is reported as. -/
def SettingFault.report : SettingFault → Report
  | .notReal _ | .notWhole _ | .undefinedWhole => .badValue
  | .kindNotReal _ | .kindNotWhole _ => .badKind
  | .tooLarge | .infiniteWhole => .outOfRange

/-- A value as a real number. -/
def RawSetting.toReal : RawSetting → Except SettingFault Float
  | .flag value => .ok (if value then 1.0 else 0.0)
  | .whole value =>
      let x := (Binary64.ofRat value).toFloat
      if x.isInf then .error .tooLarge else .ok x
  | .real value => .ok value
  | .written value =>
      match value.real? with
      | some x => .ok x
      | none => .error (.notReal value)
  | .unconvertible kind => .error (.kindNotReal kind)

/-- A value as a whole number; the fraction of a real number is dropped. -/
def RawSetting.toWhole : RawSetting → Except SettingFault Int
  | .flag value => .ok (if value then 1 else 0)
  | .whole value => .ok value
  | .real value =>
      match truncate? value with
      | some n => .ok n
      | none => .error (if value.isNaN then .undefinedWhole else .infiniteWhole)
  | .written value =>
      match value.whole? with
      | some n => .ok n
      | none => .error (.notWhole value)
  | .unconvertible kind => .error (.kindNotWhole kind)

namespace Settings

/-- The settings with a real value. -/
inductive RealKey
  | connectDelay
  | validateDelay
  | establishDelay
  | runningDelay
  | redeployDelay
  | telemetryInterval
  | telemetryJitter
  | telemetryFailureRate
  | sandboxTimeLimit
  deriving DecidableEq, Repr

/-- The settings with a whole value. -/
inductive WholeKey
  | logLimit
  | transcriptLimit
  | minTokenPrefix
  | sandboxMemoryLimit
  deriving DecidableEq, Repr

/-- A setting. -/
inductive Key
  | real (key : RealKey)
  | whole (key : WholeKey)
  deriving DecidableEq, Repr

/-- The name of a setting with a real value. -/
def RealKey.name : RealKey → String
  | .connectDelay => "connect_delay_s"
  | .validateDelay => "validate_delay_s"
  | .establishDelay => "establish_delay_s"
  | .runningDelay => "running_delay_s"
  | .redeployDelay => "redeploy_delay_s"
  | .telemetryInterval => "telemetry_interval_s"
  | .telemetryJitter => "telemetry_jitter_s"
  | .telemetryFailureRate => "telemetry_failure_rate"
  | .sandboxTimeLimit => "sandbox_time_limit_s"

/-- The name of a setting with a whole value. -/
def WholeKey.name : WholeKey → String
  | .logLimit => "log_limit"
  | .transcriptLimit => "transcript_limit"
  | .minTokenPrefix => "min_token_prefix"
  | .sandboxMemoryLimit => "sandbox_memory_limit"

/-- The name of a setting. -/
def Key.name : Key → String
  | .real key => key.name
  | .whole key => key.name

/-- All settings, in the order in which they are listed. -/
def Key.all : List Key :=
  [.real .connectDelay, .real .validateDelay, .real .establishDelay, .real .runningDelay,
    .real .redeployDelay, .real .telemetryInterval, .real .telemetryJitter,
    .real .telemetryFailureRate, .whole .logLimit, .whole .transcriptLimit, .whole .minTokenPrefix,
    .whole .sandboxMemoryLimit, .real .sandboxTimeLimit]

/-- The setting with a given name. -/
def Key.ofName? (name : String) : Option Key := Key.all.find? fun key => key.name == name

/-- The value of a real setting. -/
def getReal (s : Settings) : RealKey → Float
  | .connectDelay => s.connectDelay
  | .validateDelay => s.validateDelay
  | .establishDelay => s.establishDelay
  | .runningDelay => s.runningDelay
  | .redeployDelay => s.redeployDelay
  | .telemetryInterval => s.telemetryInterval
  | .telemetryJitter => s.telemetryJitter
  | .telemetryFailureRate => s.telemetryFailureRate
  | .sandboxTimeLimit => s.sandboxTimeLimit

/-- The value of a whole setting. -/
def getWhole (s : Settings) : WholeKey → Int
  | .logLimit => s.logLimit
  | .transcriptLimit => s.transcriptLimit
  | .minTokenPrefix => s.minTokenPrefix
  | .sandboxMemoryLimit => s.sandboxMemoryLimit

/-- The settings with one real setting changed. -/
def setReal (s : Settings) (x : Float) : RealKey → Settings
  | .connectDelay => { s with connectDelay := x }
  | .validateDelay => { s with validateDelay := x }
  | .establishDelay => { s with establishDelay := x }
  | .runningDelay => { s with runningDelay := x }
  | .redeployDelay => { s with redeployDelay := x }
  | .telemetryInterval => { s with telemetryInterval := x }
  | .telemetryJitter => { s with telemetryJitter := x }
  | .telemetryFailureRate => { s with telemetryFailureRate := x }
  | .sandboxTimeLimit => { s with sandboxTimeLimit := x }

/-- The settings with one whole setting changed. -/
def setWhole (s : Settings) (n : Int) : WholeKey → Settings
  | .logLimit => { s with logLimit := n }
  | .transcriptLimit => { s with transcriptLimit := n }
  | .minTokenPrefix => { s with minTokenPrefix := n }
  | .sandboxMemoryLimit => { s with sandboxMemoryLimit := n }

/-- Convert a value and put it under a key. -/
def put (s : Settings) (key : Key) (raw : RawSetting) : Except SettingFault Settings :=
  match key with
  | .real key => raw.toReal.map fun x => s.setReal x key
  | .whole key => raw.toWhole.map fun n => s.setWhole n key

/-- Take over one entry of a mapping; an unknown name changes nothing. -/
def putNamed (s : Settings) (entry : String × RawSetting) : Except SettingFault Settings :=
  match Key.ofName? entry.1 with
  | some key => s.put key entry.2
  | none => .ok s

/-- The settings of a mapping: its entries over the defaults, read in order up to the first fault.
-/
def fromMapping (entries : List (String × RawSetting)) : Except SettingFault Settings :=
  entries.foldlM putNamed {}

/-- The value of a setting as plain data. -/
def get (s : Settings) : Key → Json
  | .real key => .float (s.getReal key)
  | .whole key => .int (s.getWhole key)

/-- The settings as an object with all thirteen fields. -/
def toJson (s : Settings) : Json := .obj (Key.all.map fun key => (key.name, s.get key))

/-- The mapping of all fields, as `fromMapping` takes it. -/
def toMapping (s : Settings) : List (String × RawSetting) :=
  Key.all.map fun key => (key.name, (s.get key).toRawSetting)

end Settings

end BotBench
