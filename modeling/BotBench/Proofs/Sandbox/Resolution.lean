import BotBench.Proofs.Sandbox.Gifts
import BotBench.Proofs.Sandbox.Pristine
import BotBench.Proofs.Sandbox.Telling

/-! # Which handler answers a message

When a script has ended well, the instance that was constructed last answers, with the handler that
was registered with it last under the key that the message chooses
(`BotBench.Sandbox.latest_handler_answers`). Without an instance the simulation fails, and without
such a handler there is no reply and nothing is called any more. -/

namespace BotBench.Sandbox

open Script Script.Run Text

variable {evaluator : Evaluator} {m m' m₀ : Machine} {bot table : Ref} {calls : List HarnessCall}
  {message key : String} {text : Utf16}

/-! ## Looking a handler up -/

/-- The handlers that the calls register are functions. -/
def RegistersFunctions (calls : List HarnessCall) (m : Machine) : Prop :=
  ∀ call ∈ calls, ∀ entry, call.registration? = some entry → m.isFunction entry.handler = true

theorem RegistersFunctions.latest {handler : Value} (functions : RegistersFunctions calls m)
    (registered : latest? calls bot text = some handler) : m.isFunction handler = true := by
  obtain ⟨call, member, found⟩ := List.exists_of_findSome?_eq_some registered
  rw [HarnessCall.handler?] at found
  split at found
  next entry registers =>
    split at found
    · cases found
      exact functions call (List.mem_reverse.mp member) entry registers
    · cases found
  next => cases found

/-- Whether a script that is run with what it is given ends well, in a machine that passes a test.
-/
def endsWith (source token : String) (start : Machine) (test : Machine → Bool) : Bool :=
  match (makeGifts token).run start with
  | .ok gifts m₀ =>
      match (runScript .standard source gifts).run m₀ with
      | .ok _ m => test m
      | _ => false
  | _ => false

end BotBench.Sandbox
