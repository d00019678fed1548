import BotBench.Script.Closure

/-! # Classes

A class is a constructor with an object of methods for its instances. The fields of instances are
kept with the constructor and computed anew for each instance. -/

namespace BotBench.Script

open Text Run

variable (inner : Evaluator)

/-- The key of a property name. -/
def keyOf (scope : Scope) : PropertyName → Run Key
  | .fixed name => return .ofText name
  | .computed e => do toKey inner (← inner.expression scope e)

/-- The name that a function gets from a key. -/
def nameOfKey (role : MethodRole) (key : Key) : String :=
  let name := match key with
    | .symbol s => match s.description with
      | some description => "[" ++ description.toString ++ "]"
      | none => ""
    | key => key.shown
  match role with
  | .call => name
  | .read => "get " ++ name
  | .write => "set " ++ name

/-- Define a method, or a half of a property that is read and written by functions. -/
def defineMethod (scope : Scope) (target : Ref) (isEnumerable : Bool) (role : MethodRole)
    (key : Key)
    (node : FunctionNode) : Run Unit := do
  let f ← allocateClosure scope { node with name := nameOfKey role key } (some target)
  let known := match (← object target).own? key with
    | some { content := .accessor known written, .. } => (known, written)
    | _ => (none, none)
  let content : Content := match role with
    | .call => .data f true
    | .read => .accessor (some f) known.2
    | .write => .accessor known.1 (some f)
  define target key { content, isEnumerable }

/-- The ancestors that a class gives to its instances and to itself. -/
def heritageOf (scope : Scope) : Option Expr → Run (Option Ref × Ref)
  | none => return (some Intrinsic.objectAncestor.ref, Intrinsic.functionAncestor.ref)
  | some e => do
      let parent ← inner.expression scope e
      match parent with
      | .null => return (none, Intrinsic.functionAncestor.ref)
      | .object ref =>
          unless ← isConstructor parent do raise .type "parent class must be constructor"
          match ← read inner parent "prototype" with
          | .object ancestor => return (some ancestor, ref)
          | .null => return (none, ref)
          | _ => raise .type "parent prototype must be an object or null"
      | _ => raise .type "parent class must be constructor"

/-- Define the members of a class, and give the fields of its instances and of the class itself, the
last ones first. -/
def defineMembers (scope : Scope) (constructor ancestor : Ref) :
    List ClassMember → List (Key × FunctionNode) → List (Key × FunctionNode) →
      Run (List (Key × FunctionNode) × List (Key × FunctionNode))
  | [], fields, statics => return (fields, statics)
  | member :: rest, fields, statics => do
      match member with
      | .method isStatic role key node =>
          let target := if isStatic then constructor else ancestor
          defineMethod scope target false role (← keyOf inner scope key) node
          defineMembers scope constructor ancestor rest fields statics
      | .field isStatic key node =>
          let field := (← keyOf inner scope key, node)
          if isStatic then defineMembers scope constructor ancestor rest fields (field :: statics)
          else defineMembers scope constructor ancestor rest (field :: fields) statics

/-- Make a class. -/
def evaluateClass (scope : Scope) (node : ClassNode) : Run Value := do
  let scope := { scope with isStrict := true }
  let cell ← allocateCell none
  let scope :=
    if node.name.isEmpty then scope
    else { scope with bindings := (node.name, .cell cell .constant) :: scope.bindings }
  let (instanceAncestor, classAncestor) ← heritageOf inner scope node.heritage
  let ancestor ← allocate { ancestor := instanceAncestor }
  let constructorNode :=
    { node.constructor with name := node.name, source := node.source, isStrict := true }
  let inside := { scope with home := some ancestor }
  let constructor ← allocate
    { kind := .function (.closure constructorNode inside [])
      ancestor := some classAncestor
      properties := functionProperties (requiredCount node.constructor.parameters) node.name ++
        [(Key.ofText "prototype",
          { content := .data (.object ancestor) false, isEnumerable := false
            isConfigurable := false })] }
  define ancestor "constructor" (.hidden (.object constructor))
  let (fields, statics) ← defineMembers inner scope constructor ancestor node.members [] []
  modifyObject constructor fun object =>
    { object with kind := .function (.closure constructorNode inside fields.reverse) }
  writeCell cell (.object constructor)
  addFields inner { scope with home := some constructor } constructor statics.reverse
  return .object constructor

/-- Construct with the class above, from within the constructor of a class. -/
def evaluateSuperCall (scope : Scope) (arguments : List Value) : Run Value := do
  let active := scope.active.getD default
  let parent := (← object active).ancestor
  let result ← constructValue inner ((parent.map Value.object).getD .null) arguments scope.newTarget
  match scope.bindings.lookup "this" with
  | some (.cell place _) =>
      if ((← get).cells[place]?.join).isSome then
        raise .reference "'this' can be initialized only once"
      writeCell place result
  | _ => pure ()
  match result, (← object active).kind with
  | .object ref, .function (.closure _ defining fields) => addFields inner defining ref fields
  | _, _ => pure ()
  return result

end BotBench.Script
