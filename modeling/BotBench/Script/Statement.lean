import BotBench.Script.Pattern

/-! # Running statements

How a statement ends, its parts being run by the evaluator one level deeper. A loop goes on until it
is left or until the time of the run is over. -/

namespace BotBench.Script

open Run

variable (inner : Evaluator)

/-- Declare names and give them their values. A `var` without a value keeps what it has. -/
def runDeclaration (scope : Scope) (kind : DeclarationKind) : List Part → Run Unit
  | [] => return
  | part :: rest => do
      match part.value, kind with
      | none, .var => pure ()
      | none, _ => bindPattern inner scope true part.pattern .undefined
      | some e, kind => do
          bindPattern inner scope (kind != .var) part.pattern (← inner.expression scope e)
      runDeclaration scope kind rest

/-- What a loop does after its body: go on (`inl`) or end (`inr`). -/
def afterBody : Completion → Unit ⊕ Completion
  | .normal | .continued => .inl ()
  | .broken => .inr .normal
  | .returned value => .inr (.returned value)

/-- Whether a condition holds; a condition that is left out does. -/
def holds (scope : Scope) : Option Expr → Run Bool
  | some e => do return (← inner.expression scope e).isTruthy
  | none => return true

/-- What becomes of a write to the names that a statement declares. -/
def mutabilityOf : Stmt → Mutability
  | .declare .constName _ => .constant
  | _ => .free

/-- Run a counting loop. The names that its start declares are made anew for each round, with the
values that they have. -/
def runFor (scope : Scope) (names : List String) (start : Stmt) (test update : Option Expr)
    (body : Stmt) : Run Completion := do
  let scope ← withCells scope (mutabilityOf start) none names
  discard (inner.statement scope start)
  repeating scope fun scope => do
    unless ← holds inner scope test do return .inr .normal
    match afterBody (← inner.statement scope body) with
    | .inr completion => return .inr completion
    | .inl () =>
        let scope ← if names.isEmpty then pure scope else withFreshCells scope names
        if let some e := update then discard (inner.expression scope e)
        return .inl scope

/-- Run the body of a loop for an item. -/
def runRound (scope : Scope) (kind : Option DeclarationKind) (names : List String)
    (target : Pattern) (body : Stmt) (item : Value) : Run (Unit ⊕ Completion) := do
  let mutability := if kind == some .constName then Mutability.constant else .free
  let scope ← withCells scope mutability none names
  bindPattern inner scope (kind.isSome && kind != some .var) target item
  return afterBody (← inner.statement scope body)

/-- The names of the listed properties of an object and its ancestors, each once. -/
def listedNames : Nat → Option Ref → List Key → Run (List Key)
  | 0, _, known => return known
  | _, none, known => return known
  | fuel + 1, some ref, known => do
      let keys := (← listedKeys ref).filter fun key => !known.contains key
      listedNames fuel (← object ref).ancestor (known ++ keys)

/-- Run a loop over the items of a value, or over the names of its properties. -/
def runForEach (scope : Scope) (isOf : Bool) (kind : Option DeclarationKind) (names : List String)
    (target : Pattern) (subject : Expr) (body : Stmt) : Run Completion := do
  let hidden ← withCells scope .free none names
  let subject ← inner.expression hidden subject
  let visit (_ : Unit) (item : Value) := runRound inner scope kind names target body item
  let result ←
    if isOf then visitItems inner subject () visit
    else if subject.isMissing then pure (.inl ())
    else do
      let ref ← toObject subject
      let keys ← listedNames ((← get).objects.size + 1) (some ref) []
      visitValues (fun _ key => do
        if ← hasProperty ref (← keyOfPlain key) then visit () key else return .inl ())
        (keys.map Key.toValue) ()
  match result with
  | .inl () => return .normal
  | .inr completion => return completion

/-- The statements of a switch from the first label on that is for a value. -/
def statementsFor (scope : Scope) (subject : Value) : List Stmt → Run (Option (List Stmt))
  | [] => return none
  | .label (some e) :: rest => do
      if subject.same (← inner.expression scope e) then return some rest
      else statementsFor scope subject rest
  | _ :: rest => statementsFor scope subject rest

/-- The statements of a switch from the label on that is for all other values. -/
def otherStatements : List Stmt → List Stmt
  | [] => []
  | .label none :: rest => rest
  | _ :: rest => otherStatements rest

/-- Run a switch. -/
def runSwitch (scope : Scope) (subject : Expr) (block : Block) : Run Completion := do
  let subject ← inner.expression scope subject
  let scope ← openBlock scope block
  let chosen := (← statementsFor inner scope subject block.statements).getD
    (otherStatements block.statements)
  match ← runStatements inner scope chosen with
  | .broken => return .normal
  | completion => return completion

/-- Run what is done with a thrown value. -/
def runHandler (scope : Scope) (parameter : Pattern) (names : List String) (block : Block)
    (value : Value) : Run Completion := do
  let scope ← withCells scope .free none names
  bindPattern inner scope true parameter value
  runBlock inner scope block

/-- Run a part of an attempt, and tell a thrown value from an ending. What a script cannot catch
goes past the attempt. -/
def outcomeOf (run : Run Completion) : Run (Except Value Completion) :=
  tryCatch (do return .ok (← run)) fun
    | .thrown value => return .error value
    | other => throw other

/-- Run an attempt. -/
def runAttempt (scope : Scope) (body : Block) (parameter : Pattern) (names : List String)
    (handler finalizer : Option Block) : Run Completion := do
  let attempted := runBlock inner scope body
  let handled : Run Completion := do
    match ← outcomeOf attempted, handler with
    | .ok completion, _ => return completion
    | .error value, some block => runHandler inner scope parameter names block value
    | .error value, none => throwValue value
  match finalizer with
  | none => handled
  | some block =>
      let outcome ← outcomeOf handled
      match ← runBlock inner scope block, outcome with
      | .normal, .ok completion => return completion
      | .normal, .error value => throwValue value
      | completion, _ => return completion

/-- Run a statement. -/
def execute (scope : Scope) (statement : Stmt) : Run Completion := do
  match statement with
  | .empty => return .normal
  | .expression e =>
      discard (inner.expression scope e)
      return .normal
  | .declare kind bindings =>
      runDeclaration inner scope kind bindings
      return .normal
  | .declareClass node =>
      declareValue scope node.name (← evaluateClass inner scope node)
      return .normal
  | .block block => runBlock inner scope block
  | .ifElse test whenTrue whenFalse =>
      if (← inner.expression scope test).isTruthy then inner.statement scope whenTrue
      else inner.statement scope whenFalse
  | .forLoop names start test update body => runFor inner scope names start test update body
  | .forEach isOf kind names target subject body =>
      runForEach inner scope isOf kind names target subject body
  | .whileLoop test body =>
      repeating () fun () => do
        if (← inner.expression scope test).isTruthy then
          return afterBody (← inner.statement scope body)
        else return .inr .normal
  | .doWhile body test =>
      repeating () fun () => do
        match afterBody (← inner.statement scope body) with
        | .inr completion => return .inr completion
        | .inl () =>
            if (← inner.expression scope test).isTruthy then return .inl () else return .inr .normal
  | .switch subject block => runSwitch inner scope subject block
  | .label _ => return .normal
  | .attempt body parameter names handler finalizer =>
      runAttempt inner scope body parameter names handler finalizer
  | .throw e => do throwValue (← inner.expression scope e)
  | .return e? =>
      match e? with
      | some e => return .returned (← inner.expression scope e)
      | none => return .returned .undefined
  | .break => return .broken
  | .continue => return .continued

end BotBench.Script
