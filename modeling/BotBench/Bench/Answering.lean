import BotBench.Bench.Deployment
import BotBench.Bench.Dispatch

/-! # Answering calls

A call is answered by one task. Most calls are answered at once. A launch, update or restart that is
to wait lets its task wait for the bot's sequence and looks the bot up again afterwards. -/

namespace BotBench.Bench

open Text

/-- The answer to a refused call: an unknown bot is not found, any other refusal is unacceptable. -/
def refusalAnswer (refusal : Refusal) : Answer :=
  match refusal with
  | .unknownBot _ => .problem 404 (.str refusal.message)
  | .blankToken | .unknownLanguage _ | .unknownStatus _ => .problem 422 (.str refusal.message)
  | .unknownField _ => .crash refusal

/-- The answer to a chat turn that has no result. A missing field is reported as something that was
not found. -/
def turnFaultAnswer : TurnFault → Answer
  | .refused refusal => refusalAnswer refusal
  | .simulation (.missingField name) => .problem 404 (.str name)
  | .simulation (.unsupported language) => .fault (.unsupported language)
  | .simulation fault => .fault fault

/-- What a task does after a step. -/
inductive Verdict
  | sleep (span : Span) (routine : Routine)
  | wait (target : Nat) (routine : Routine)
  | finish (answer : Option Answer)

/-- Answer with the present record of a bot. -/
def reportAnswer (b : Bench) (status : Nat) (id : Int) : Answer :=
  match b.registry.get id with
  | .ok record => .success status record.toJson
  | .error refusal => .crash refusal

/-- Wait for the sequence of a bot, if it has one, or answer at once. -/
def waitOrReport (b : Bench) (wait : Bool) (status : Nat) (id : Int) : Verdict :=
  match if wait then entry? b.sequencers id else none with
  | some target => .wait target (.report status id)
  | none => .finish (some (b.reportAnswer status id))

/-- Begin to answer a call. -/
def serve (config : Config) (b : Bench) (call : Call) : Bench × Verdict :=
  let refused (refusal : Refusal) : Bench × Verdict := (b, .finish (some (refusalAnswer refusal)))
  match call with
  | .list =>
      (b, .finish (some (.success 200 (.arr (b.registry.records.map Record.toJson)))))
  | .show id =>
      match b.registry.get id with
      | .ok record => (b, .finish (some (.success 200 record.toJson)))
      | .error refusal => refused refusal
  | .launch code token language wait =>
      match b.launch config code token (.str language.name) with
      | .ok (record, b) => (b, b.waitOrReport wait 201 record.id)
      | .error refusal => refused refusal
  | .update id code token language wait =>
      match b.updateBot config id code token (.str language.name) with
      | .ok (_, b) => (b, b.waitOrReport wait 200 id)
      | .error refusal => refused refusal
  | .stop id =>
      match b.stop config id with
      | .ok (record, b) => (b, .finish (some (.success 200 record.toJson)))
      | .error refusal => refused refusal
  | .restart id wait =>
      match b.restart config id with
      | .ok (_, b) => (b, b.waitOrReport wait 200 id)
      | .error refusal => refused refusal
  | .delete id =>
      match b.delete id with
      | .ok b => (b, .finish (some (.success 204 .null)))
      | .error refusal => refused refusal
  | .send id text =>
      if isAllBlank text then
        (b, .finish (some (.problem 422 (.str "Message text must not be empty."))))
      else
        match b.send config id text with
        | (b, .error fault) => (b, .finish (some (turnFaultAnswer fault)))
        | (b, .ok reply) =>
            match b.registry.get id with
            | .error refusal => (b, .finish (some (.crash refusal)))
            | .ok record =>
                (b, .finish (some (.success 200 (.obj
                  [("reply", (reply.map Message.toJson).getD .null), ("bot", record.toJson)]))))

end BotBench.Bench
