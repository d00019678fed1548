import BotBench.Proofs.Script.Run
import BotBench.Script.Interpreter

/-! # Calls of functions that are there from the start

A call of such a function by the evaluator of some depth is what the function does, its own calls
being made by an evaluator of less depth (`BotBench.Script.call_native`). -/

namespace BotBench.Script

open Run Sandbox

variable {m m' : Machine} {ref : Ref} {f : Native} {given result : Value} {arguments : List Value}
  {depth : Nat} {inner : Evaluator}

theorem isFunction_of_native
    (isNative : (m.objectAt ref).kind = .function (.native f)) :
    m.isFunction (.object ref) = true := by
  rw [Machine.isFunction, isNative]

theorem Grows.kind (grows : Grows m m')
    (isNative : (m.objectAt ref).kind = .function (.native f)) :
    (m'.objectAt ref).kind = .function (.native f) := by
  rwa [grows.objectAt fun same => by rw [same] at isNative; cases isNative]

/-- A call of a native function of the machine. -/
theorem call_native
    (isNative : (m.objectAt ref).kind = .function (.native f))
    (ended : ((Evaluator.ofDepth depth).call (.object ref) given arguments).run m =
      .ok result m') :
    ∃ depth, (callNative (.ofDepth depth) f given arguments).run m = .ok result m' := by
  cases depth with
  | zero => exact absurd ended raise_ne_ok
  | succ depth =>
      have called : ((Evaluator.ofDepth (depth + 1)).call (.object ref) given arguments).run m =
          (callNative (.ofDepth depth) f given arguments).run m := by
        change (callLevel (.ofDepth depth) (.object ref) given arguments).run m = _
        rw [callLevel, object_bind_run, isNative]
      exact ⟨depth, called.symm.trans ended⟩

/-- A call of a host function takes a step first. -/
theorem callNative_host {f : HostFunction}
    (ended : (callNative inner (.host f) given arguments).run m = .ok result m') :
    (callHost inner f given arguments).run (after 1 m) = .ok result m' := by
  obtain ⟨_, between, ticked, ended⟩ := bind_ok ended
  rw [← spend_ok ticked]
  exact ended

/-- A call of a host function of the machine. -/
theorem call_host {f : HostFunction}
    (isHost : (m.objectAt ref).kind = .function (.native (.host f)))
    (ended : ((Evaluator.ofDepth depth).call (.object ref) given arguments).run m =
      .ok result m') :
    ∃ depth, (callHost (.ofDepth depth) f given arguments).run (after 1 m) = .ok result m' := by
  obtain ⟨depth, ended⟩ := call_native isHost ended
  exact ⟨depth, callNative_host ended⟩

end BotBench.Script
