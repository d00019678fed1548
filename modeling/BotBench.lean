import BotBench.Text.CodePointSet
import BotBench.Text.Blank
import BotBench.Text.Word
import BotBench.Text.Printable
import BotBench.Text.Digit
import BotBench.Text.Casing
import BotBench.Text.Quoted
import BotBench.Text.Utf16
import BotBench.Number.Binary64
import BotBench.Number.Shortest
import BotBench.Number.Numeral
import BotBench.Json.Basic
import BotBench.Json.Reader
import BotBench.Chat.Layout
import BotBench.Chat.Message
import BotBench.Yaml.Token
import BotBench.Yaml.Node
import BotBench.Yaml.Scalar
import BotBench.Yaml.Value
import BotBench.Settings.Basic
import BotBench.Settings.File
import BotBench.Mining.Literal
import BotBench.Mining.Search
import BotBench.Mining.Command
import BotBench.Mining.Handler
import BotBench.Mining.FunctionBody
import BotBench.Mining.Extraction
import BotBench.Bot.Language
import BotBench.Bot.Record
import BotBench.Bot.Registry
import BotBench.Bot.Template
import BotBench.Script.Numeral
import BotBench.Script.Program
import BotBench.Script.Token
import BotBench.Script.Reader
import BotBench.Script.Grammar.Expression
import BotBench.Script.Grammar.Statement
import BotBench.Script.Value
import BotBench.Script.Native
import BotBench.Sandbox.Host
import BotBench.Script.Machine
import BotBench.Script.Evaluator
import BotBench.Script.Property
import BotBench.Script.Conversion
import BotBench.Script.Naming
import BotBench.Script.Iteration
import BotBench.Script.Closure
import BotBench.Script.Class
import BotBench.Script.Expression
import BotBench.Script.Pattern
import BotBench.Script.Statement
import BotBench.Script.Library.Objects
import BotBench.Script.Library.Lists
import BotBench.Script.Library.Texts
import BotBench.Script.Library.Numbers
import BotBench.Script.PlainData
import BotBench.Script.Library.Others
import BotBench.Script.Library.Table
import BotBench.Sandbox.Keyboard
import BotBench.Sandbox.Module
import BotBench.Script.Interpreter
import BotBench.Sandbox.Outcome
import BotBench.Sandbox.Rehearsal
import BotBench.Bench.Timing
import BotBench.Bench.State
import BotBench.Bench.Telemetry
import BotBench.Bench.Deployment
import BotBench.Bench.Dispatch
import BotBench.Bench.Answering
import BotBench.Bench.Loop
import BotBench.Http.Parameter
import BotBench.Http.Route
import BotBench.Engine
import BotBench.Proofs.Bench.Run
import BotBench.Proofs.Bench.Table
import BotBench.Proofs.Bench.View
import BotBench.Proofs.Bench.Effect
import BotBench.Proofs.Bench.Queue
import BotBench.Proofs.Bench.Schedule
import BotBench.Proofs.Bench.Sequence
import BotBench.Proofs.Bench.Soundness
import BotBench.Proofs.Bench.History
import BotBench.Proofs.Bench.Transition
import BotBench.Proofs.Bench.Reachability
import BotBench.Proofs.Bench.Ticking
import BotBench.Proofs.Bench.Staleness
import BotBench.Proofs.Bench.Provenance
import BotBench.Proofs.Bench.Trace
import BotBench.Proofs.Bench.Resting
import BotBench.Proofs.Sandbox.Shape
import BotBench.Proofs.Bench.Turn
import BotBench.Proofs.Mining.Roundtrip
import BotBench.Proofs.Bench.Handling
import BotBench.Proofs.Bench.Shutdown
import BotBench.Proofs.Bench.Atomicity
import BotBench.Proofs.Bench.Windows
import BotBench.Proofs.Number.Whole
import BotBench.Proofs.Script.Run
import BotBench.Proofs.Script.TextList
import BotBench.Proofs.Sandbox.Registration
import BotBench.Proofs.Sandbox.Telling
import BotBench.Proofs.Sandbox.Gifts
import BotBench.Proofs.Sandbox.Calls
import BotBench.Proofs.Sandbox.Pristine
import BotBench.Proofs.Sandbox.Resolution
import BotBench.Proofs.Bench.Exchange
import BotBench.Proofs.Bench.Roster
import BotBench.Proofs.Bench.Share
import BotBench.Proofs.Bench.Separation
import BotBench.Proofs.Bench.Undisturbed
import BotBench.Proofs.Bench.Countdown
import BotBench.Proofs.Bench.Punctual
import BotBench.Proofs.Mining.Occurrence
import BotBench.Proofs.Mining.Header
import BotBench.Proofs.Mining.Body
import BotBench.Proofs.Script.Datum
import BotBench.Proofs.Sandbox.Keyboard
import BotBench.Proofs.Sandbox.Drafting
import BotBench.Proofs.Sandbox.Effects
import BotBench.Proofs.Sandbox.Course
import BotBench.Proofs.Sandbox.Handing
import BotBench.Proofs.Sandbox.Trial
import BotBench.Proofs.Mining.Passing
import BotBench.Proofs.Mining.Spelling
import BotBench.Proofs.Mining.Reply
import BotBench.Proofs.Mining.Buttons
import BotBench.Proofs.Mining.Command
import BotBench.Proofs.Number.Nearest
import BotBench.Proofs.Bench.Sampling
import BotBench.Proofs.Number.Infinite
import BotBench.Proofs.Settings.Loading
import BotBench.Proofs.Chat.Layout
import BotBench.Proofs.Mining.Truncation
import BotBench.Proofs.Bench.Booking
import BotBench.Proofs.Bench.FreeRun
