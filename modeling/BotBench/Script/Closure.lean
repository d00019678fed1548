import BotBench.Script.Naming
import BotBench.Script.Iteration

/-! # Functions written in the script

Functions are objects that remember the names around them. Calling one gives its parameters their
values, makes the names of its body, and runs the body. -/

namespace BotBench.Script

open Text Run

/-- The first names of a list of parameters, up to one that may be left out. -/
def requiredCount : List Part → Nat
  | [] => 0
  | part :: rest => if part.value.isSome then 0 else 1 + requiredCount rest

/-- The hidden properties of a function that tell its number of parameters and its name. -/
def functionProperties (count : Nat) (name : Utf16) : List (Key × Property) :=
  [ ("length", { content := .data (.ofNat count) false, isEnumerable := false }),
    ("name", { content := .data (.text name) false, isEnumerable := false }) ]

/-- Make a function of a node. A plain function can construct, so it gets an object for what it
constructs. -/
def allocateClosure (scope : Scope) (node : FunctionNode) (home : Option Ref) : Run Value := do
  let scope := match node.flavour with
    | .arrow => scope
    | _ => { scope with home }
  let ref ← allocate
    { kind := .function (.closure node scope [])
      ancestor := some Intrinsic.functionAncestor.ref
      properties := functionProperties (requiredCount node.parameters) node.name }
  if node.flavour == .plain && !node.isAsync then
    let constructed ← allocatePlain [("constructor", .hidden (.object ref))]
    modifyObject ref (·.put "prototype"
      { content := .data (.object constructed) true
        isEnumerable := false
        isConfigurable := false })
  return .object ref

/-- The scope of a block: its names, and its functions. Outside a strict script a function of a
block is seen in the function around too. -/
def openBlock (scope : Scope) (block : Block) : Run Scope := do
  if block.lexicals.isEmpty && block.functions.isEmpty then return scope
  let inside ← withLexicals scope block.lexicals
  for node in block.functions do
    let f ← allocateClosure inside node none
    declareValue inside node.name f
    if !scope.isStrict && block.lexicals.any (·.1 == node.name) then
      match scope.bindings.lookup node.name with
      | some (.cell place .free) => writeCell place f
      | _ => pure ()
  return inside

variable (inner : Evaluator)

/-- Run statements in order until one does not end normally. -/
def runStatements (scope : Scope) : List Stmt → Run Completion
  | [] => return .normal
  | statement :: rest => do
      match ← inner.statement scope statement with
      | .normal => runStatements scope rest
      | completion => return completion

/-- Run a block. -/
def runBlock (scope : Scope) (block : Block) : Run Completion := do
  runStatements inner (← openBlock scope block) block.statements

/-- Give the parameters of a function their values. -/
def bindParameters (scope : Scope) (rest : Pattern) : List Part → List Value → Run Unit
  | [], arguments =>
      match rest with
      | .nothing => return
      | pattern => do inner.bind scope true pattern (← allocateList arguments)
  | part :: parts, arguments => do
      let given := arguments.head?.getD .undefined
      let value ← match given, part.value with
        | .undefined, some value => inner.expression scope value
        | value, _ => pure value
      match part.pattern with
      | .name name => declareValue scope name value
      | pattern => inner.bind scope true pattern value
      bindParameters scope rest parts (arguments.drop 1)

/-- The object through which a function sees all its arguments. -/
def allocateArguments (arguments : List Value) : Run Value := do
  let items := arguments.zipIdx.map fun (value, place) => (Key.index place, Property.plain value)
  return .object (← allocate
    { kind := .arguments
      ancestor := some Intrinsic.objectAncestor.ref
      properties := items ++ [(Key.ofText "length", .hidden (.ofNat arguments.length))] })

/-- The receiver that a function sees. Outside a strict script a missing one is the global object,
and a plain one is put into a box. -/
def receiverOf (isStrict : Bool) (receiver : Value) : Run Value := do
  if isStrict || receiver.isObject then return receiver
  else if receiver.isMissing then return .object Intrinsic.global.ref
  else return .object (← toObject receiver)

/-- The scope in which the body of a function runs. The slot is what `this` stands for. -/
def enterFunction (self : Ref) (node : FunctionNode) (scope : Scope) (this : Option Slot)
    (arguments : List Value) (newTarget : Value) : Run Scope := do
  let named :=
    if node.isNamedInside then (node.name, Slot.fixed (.object self)) :: scope.bindings
    else scope.bindings
  let scope := { scope with bindings := named, isStrict := node.isStrict }
  let scope := match this with
    | some slot =>
        { scope with bindings := ("this", slot) :: scope.bindings, active := some self, newTarget }
    | none => scope
  let scope ←
    if node.usesArguments then do
      let cell ← allocateCell (some (← allocateArguments arguments))
      pure { scope with bindings := ("arguments", .cell cell .free) :: scope.bindings }
    else pure scope
  let scope ← withCells scope .free (some .undefined) node.parameterNames
  let scope ← withCells scope .free (some .undefined) node.vars
  bindParameters inner scope node.rest node.parameters arguments
  return scope

/-- Run the body of a function. A body that is a single value to return is not run as a statement.
-/
def runBody (scope : Scope) (body : Block) : Run Value := do
  match body with
  | ⟨[], [], [.return (some e)]⟩ => inner.expression scope e
  | block =>
      match ← runBlock inner scope block with
      | .returned value => return value
      | _ => return .undefined

/-- Make a promise. What becomes of it is never seen. -/
def allocatePromise : Run Value :=
  return .object (← allocate { kind := .promise, ancestor := some Intrinsic.promiseAncestor.ref })

/-- Run an asynchronous function up to where it ends or waits. It gives a promise in any case. -/
def runAsync (run : Run Value) : Run Value := do
  tryCatch (discard run) fun
    | .thrown _ | .suspended => pure ()
    | other => throw other
  allocatePromise

/-- Call a function written in the script. -/
def callClosure (self : Ref) (node : FunctionNode) (scope : Scope) (receiver : Value)
    (arguments : List Value) : Run Value := do
  tick
  if let .constructor _ := node.flavour then
    raise .type "class constructors must be invoked with 'new'"
  let this ← match node.flavour with
    | .arrow => pure none
    | _ => do pure (some (Slot.fixed (← receiverOf node.isStrict receiver)))
  let run : Run Value := do
    runBody inner (← enterFunction inner self node scope this arguments .undefined) node.body
  if node.isAsync then runAsync run else run

/-- Give an instance the fields of its class. -/
def addFields (scope : Scope) (instanceRef : Ref) : List (Key × FunctionNode) → Run Unit
  | [] => return
  | (key, node) :: rest => do
      let inside :=
        { scope with
          bindings := ("this", .fixed (.object instanceRef)) :: scope.bindings
          newTarget := .undefined
          isStrict := true }
      defineValue instanceRef key (← runBody inner inside node.body)
      addFields scope instanceRef rest

/-- The ancestor of what is constructed for a value behind `new`. -/
def ancestorFor (newTarget : Value) (fallback : Intrinsic) : Run Ref := do
  match ← read inner newTarget "prototype" with
  | .object ref => return ref
  | _ => return fallback.ref

/-- Construct with a function written in the script. -/
def constructClosure (self : Ref) (node : FunctionNode) (scope : Scope)
    (fields : List (Key × FunctionNode)) (arguments : List Value) (newTarget : Value) :
    Run Value := do
  tick
  let isDerived := match node.flavour with
    | .constructor derived => derived
    | _ => false
  if isDerived then
    let cell ← allocateCell none
    let scope ← enterFunction inner self node scope (some (.cell cell .free)) arguments newTarget
    match ← runBody inner scope node.body with
    | .object ref => return .object ref
    | .undefined => readCell "this" cell
    | _ => raise .type "derived class constructor must return an object or undefined"
  else
    let ref ← allocate { ancestor := some (← ancestorFor inner newTarget .objectAncestor) }
    addFields inner scope ref fields
    let receiver : Slot := .fixed (.object ref)
    let scope ← enterFunction inner self node scope (some receiver) arguments newTarget
    match ← runBody inner scope node.body with
    | .object other => return .object other
    | _ => return .object ref

/-- Whether a callable can construct. -/
def Callable.canConstruct : Callable → Bool
  | .closure node _ _ =>
      match node.flavour with
      | .plain => !node.isAsync
      | .constructor _ => true
      | _ => false
  | .native f =>
      match f with
      | .object .construct | .object .constructFunction | .array .construct | .text .construct
      | .number .construct | .number .constructBool | .other (.constructError _)
      | .other .constructMap | .other .constructSet | .other .constructPromise | .host _ => true
      | _ => false
  | .bound .. => true

/-- Whether a value can construct. -/
def isConstructor (value : Value) : Run Bool := do
  return ((← callable? value).map Callable.canConstruct).getD false

/-- Construct with a value, for a value behind `new`. -/
def constructValue (callee : Value) (arguments : List Value) (newTarget : Value) : Run Value := do
  if ← isConstructor callee then inner.construct callee arguments newTarget
  else raise .type "not a constructor"

end BotBench.Script
