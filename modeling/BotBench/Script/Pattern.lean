import BotBench.Script.Expression

/-! # Giving values to patterns

A value is taken apart along a pattern: a list by its items, an object by its properties. A part
that is undefined is replaced by the value that stands in for it. -/

namespace BotBench.Script

open Run

variable (inner : Evaluator)

/-- Give a value to a part of a pattern. -/
def bindPart (scope : Scope) (isDeclaration : Bool) (part : Part) (given : Value) : Run Unit := do
  let value ← match given, part.value with
    | .undefined, some value => inner.expression scope value
    | value, _ => pure value
  inner.bind scope isDeclaration part.pattern value

/-- Give items to the parts of a pattern, and what is left to the rest. -/
def bindItems (scope : Scope) (isDeclaration : Bool) (rest : Pattern) :
    List Part → List Value → Run Unit
  | [], items =>
      match rest with
      | .nothing => return
      | pattern => do inner.bind scope isDeclaration pattern (← allocateList items)
  | part :: parts, items => do
      bindPart inner scope isDeclaration part (items.head?.getD .undefined)
      bindItems scope isDeclaration rest parts (items.drop 1)

/-- Give properties to the parts of a pattern, and those that are left to the rest. -/
def bindProperties (scope : Scope) (isDeclaration : Bool) (value : Value) (rest : Pattern) :
    List (PropertyName × Part) → List Key → Run Unit
  | [], taken =>
      match rest with
      | .nothing => return
      | pattern => do
          let ref ← allocatePlain []
          copyProperties inner ref value taken
          inner.bind scope isDeclaration pattern (.object ref)
  | (name, part) :: parts, taken => do
      let key ← keyOf inner scope name
      bindPart inner scope isDeclaration part (← read inner value key)
      bindProperties scope isDeclaration value rest parts (key :: taken)

/-- Give a value to a pattern. -/
def bindPattern (scope : Scope) (isDeclaration : Bool) (pattern : Pattern) (value : Value) :
    Run Unit := do
  match pattern with
  | .nothing => return
  | .name name =>
      if isDeclaration then declareValue scope name value else writeName inner scope name value
  | .place e => writePlace inner scope value (← evaluatePlace inner scope e)
  | .array parts rest => do
      bindItems inner scope isDeclaration rest parts (← itemsOf inner value)
  | .record parts rest => do
      discard (toObject value)
      bindProperties inner scope isDeclaration value rest parts []

end BotBench.Script
