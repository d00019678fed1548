import BotBench.Script.Conversion

/-! # Names in a run

What a name stands for is looked up in the scope and then among the properties of the global object.
A name that is declared further down cannot be read before its declaration is reached. -/

namespace BotBench.Script

open Run

variable (inner : Evaluator)

/-- The value of a cell that belongs to a name. -/
def readCell (name : String) (place : Nat) : Run Value := do
  match (← get).cells[place]?.join with
  | some value => return value
  | none => raise .reference s!"{name} is not initialized"

/-- The value of a name, if it stands for anything. -/
def valueOfName? (scope : Scope) (name : String) : Run (Option Value) := do
  match scope.bindings.lookup name with
  | some (.cell place _) => return some (← readCell name place)
  | some (.fixed value) => return some value
  | none =>
      match ← property? Intrinsic.global.ref name with
      | some property =>
          return some (← propertyValue inner (some property) (.object Intrinsic.global.ref))
      | none => return none

/-- The value of a name. -/
def valueOfName (scope : Scope) (name : String) : Run Value := do
  match ← valueOfName? inner scope name with
  | some value => return value
  | none => raise .reference s!"'{name}' is not defined"

/-- Write to a name. -/
def writeName (scope : Scope) (name : String) (value : Value) : Run Unit := do
  match scope.bindings.lookup name with
  | some (.cell place mutability) =>
      let _ ← readCell name place
      match mutability with
      | .free => writeCell place value
      | .constant => raise .type s!"'{name}' is read-only"
  | some (.fixed _) => refuse scope.isStrict s!"'{name}' is read-only"
  | none =>
      if scope.isStrict && !(← hasProperty Intrinsic.global.ref name) then
        raise .reference s!"'{name}' is not defined"
      else write inner scope.isStrict (.object Intrinsic.global.ref) name value

/-- Give a declared name its value. -/
def declareValue (scope : Scope) (name : String) (value : Value) : Run Unit := do
  match scope.bindings.lookup name with
  | some (.cell place _) => writeCell place value
  | _ => return

/-- A scope with new names, each with a cell of its own. -/
def withCells (scope : Scope) (mutability : Mutability) (value : Option Value)
    (names : List String) : Run Scope := do
  let bindings ← names.foldlM (fun bindings name => do
    return (name, .cell (← allocateCell value) mutability) :: bindings) scope.bindings
  return { scope with bindings }

/-- A scope with the names of a block that cannot be read yet. -/
def withLexicals (scope : Scope) (lexicals : List (String × Bool)) : Run Scope := do
  let bindings ← lexicals.foldlM (fun bindings (name, isConstant) => do
    let mutability := if isConstant then Mutability.constant else .free
    return (name, .cell (← allocateCell none) mutability) :: bindings) scope.bindings
  return { scope with bindings }

/-- A scope in which some names have new cells with the values of the old ones. -/
def withFreshCells (scope : Scope) (names : List String) : Run Scope := do
  let bindings ← names.foldlM (fun bindings name => do
    match scope.bindings.lookup name with
    | some (.cell place mutability) =>
        let value := (← get).cells[place]?.join
        return (name, .cell (← allocateCell value) mutability) :: bindings
    | _ => return bindings) (scope.bindings.drop names.length)
  return { scope with bindings }

end BotBench.Script
