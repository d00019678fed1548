import BotBench.Sandbox.Module
import BotBench.Script.Library.Numbers
import BotBench.Script.Library.Others
import BotBench.Script.Library.Texts
import BotBench.Script.Statement

/-! # The interpreter

The levels of evaluators tied together: each level calls functions, written in the script or there
from the start, with the level below it. Below the last level a script nests too deeply. -/

namespace BotBench.Script

open Text Run

variable (inner : Evaluator)

/-- Call a function that is there from the start. -/
def callNative (f : Native) (receiver : Value) (arguments : List Value) : Run Value := do
  tick
  match f with
  | .object f => callObjectFunction inner Sandbox.hostText f receiver arguments
  | .array f => callArrayFunction inner f receiver arguments
  | .text f => callTextFunction inner f receiver arguments
  | .number f => callNumberFunction inner f receiver arguments
  | .other f => callOtherFunction inner f receiver arguments
  | .host f => Sandbox.callHost inner f receiver arguments

/-- Call a value. -/
def callLevel (callee receiver : Value) (arguments : List Value) : Run Value := do
  match callee with
  | .object ref =>
      match (← object ref).kind with
      | .function (.closure node scope _) => callClosure inner ref node scope receiver arguments
      | .function (.native f) => callNative inner f receiver arguments
      | .function (.bound target receiver first) => inner.call target receiver (first ++ arguments)
      | _ => raise .type "not a function"
  | _ => raise .type "not a function"

/-- Give an object an ancestor of its own. -/
def withAncestor (value : Value) (ancestor : Ref) : Run Value := do
  if let .object ref := value then
    modifyObject ref fun object => { object with ancestor := some ancestor }
  return value

/-- Construct with a function that is there from the start. -/
def constructNative (f : Native) (arguments : List Value) (newTarget : Value) : Run Value := do
  let ancestorOr (fallback : Intrinsic) := ancestorFor inner newTarget fallback
  let box (value : Value) (fallback : Intrinsic) : Run Value := do
    return .object (← allocate { kind := .boxed value, ancestor := some (← ancestorOr fallback) })
  match f with
  | .object .construct =>
      if (argument arguments 0).isMissing then
        return .object (← allocate { ancestor := some (← ancestorOr .objectAncestor) })
      else callNative inner f .undefined arguments
  | .array .construct => do
      withAncestor (← constructList arguments) (← ancestorOr .arrayAncestor)
  | .text .construct => do box (← callNative inner f .undefined arguments) .textAncestor
  | .number .construct => do box (← callNative inner f .undefined arguments) .numberAncestor
  | .number .constructBool => do box (← callNative inner f .undefined arguments) .boolAncestor
  | .other (.constructError kind) => do
      makeError inner (← ancestorOr (.errorAncestor kind)) (argument arguments 0)
  | .other .constructMap => do
      let entries ← fillMap inner (argument arguments 0)
      return .object (← allocate
        { kind := .map entries, ancestor := some (← ancestorOr .mapAncestor) })
  | .other .constructSet => do
      let items ← fillSet inner (argument arguments 0)
      let ancestor ← ancestorOr .setAncestor
      return .object (← allocate { kind := .set items, ancestor := some ancestor })
  | .other .constructPromise => do
      makePromise inner (← ancestorOr .promiseAncestor) (argument arguments 0)
  | .host f => do
      let made := Value.object (← allocate { ancestor := some (← ancestorOr .objectAncestor) })
      let result ← Sandbox.callHost inner f made arguments
      return if result.isObject then result else made
  | f => callNative inner f .undefined arguments

/-- Construct with a value, for a value behind `new`. -/
def constructLevel (callee : Value) (arguments : List Value) (newTarget : Value) : Run Value := do
  match callee with
  | .object ref =>
      match (← object ref).kind with
      | .function (.closure node scope fields) =>
          constructClosure inner ref node scope fields arguments newTarget
      | .function (.native f) => constructNative inner f arguments newTarget
      | .function (.bound target _ first) =>
          let newTarget := if newTarget.same callee then target else newTarget
          inner.construct target (first ++ arguments) newTarget
      | _ => raise .type "not a constructor"
  | _ => raise .type "not a constructor"

namespace Evaluator

/-- The evaluator whose nested parts are run by another. -/
def next : Evaluator where
  expression scope e := do
    tick
    evaluate inner scope e
  statement scope statement := do
    tick
    execute inner scope statement
  bind := bindPattern inner
  call := callLevel inner
  construct := constructLevel inner

/-- The evaluator for scripts that nest up to a depth. -/
def ofDepth : Nat → Evaluator
  | 0 => exhausted
  | depth + 1 => (ofDepth depth).next

/-- The depth to which scripts may nest their calls and what stands in them. -/
def nestingDepth : Nat := 2400

/-- The evaluator for scripts. -/
def standard : Evaluator := ofDepth nestingDepth

end Evaluator

end BotBench.Script
