import BotBench.Script.Class
import BotBench.Script.Token

/-! # Running expressions

The value of an expression in a scope, its parts being run by the evaluator one level deeper. -/

namespace BotBench.Script

open Text Run

variable (inner : Evaluator)

/-- The values of items, spread ones taken apart. -/
def evaluateItems (scope : Scope) : List Item → Run (List (Option Value))
  | [] => return []
  | item :: rest => do
      let values ← match item with
        | .hole => pure [none]
        | .value e => do pure [some (← inner.expression scope e)]
        | .spread e => do
            pure ((← itemsOf inner (← inner.expression scope e)).map some)
      return values ++ (← evaluateItems scope rest)

/-- The values of arguments. -/
def evaluateArguments (scope : Scope) (items : List Item) : Run (List Value) := do
  return (← evaluateItems inner scope items).map fun value => value.getD .undefined

/-- Copy the listed properties of a value to an object, some keys left out. -/
def copyProperties (target : Ref) (source : Value) (without : List Key) : Run Unit := do
  if source.isMissing then return
  let ref ← toObject source
  for (key, isListed) in ← listingOf ref do
    if isListed && !without.contains key then defineValue target key (← read inner source key)

/-- Give a value the name of its key, if it is a class or a function without a name. -/
def nameByKey (key : Key) (e : Expr) : Expr := e.named (nameOfKey .call key)

/-- Define a field of an object. -/
def defineField (scope : Scope) (target : Ref) : Field → Run Unit
  | .value key e => do
      let known ← keyOf inner scope key
      let e := match key with
        | .fixed _ => e
        | .computed _ => nameByKey known e
      defineValue target known (← inner.expression scope e)
  | .method role key node => do
      defineMethod scope target true role (← keyOf inner scope key) node
  | .ancestor e => do
      match ← inner.expression scope e with
      | .object ref => modifyObject target fun object => { object with ancestor := some ref }
      | .null => modifyObject target fun object => { object with ancestor := none }
      | _ => return
  | .spread e => do copyProperties inner target (← inner.expression scope e) []

/-- Make an object. -/
def evaluateRecord (scope : Scope) (fields : List Field) : Run Value := do
  let ref ← allocatePlain []
  for field in fields do defineField inner scope ref field
  return .object ref

/-- Make a text of a template. All parts are run before the first becomes a text. -/
def evaluateTemplate (scope : Scope) (parts : List Item) : Run Value := do
  let texts ← (← evaluateArguments inner scope parts).mapM (toText inner)
  return .text (← checkText (.concat texts))

/-- The object on which `super` looks for properties. -/
def superBase (scope : Scope) : Run Ref := do
  match scope.home with
  | some home => return (← object home).ancestor.getD Intrinsic.objectAncestor.ref
  | none => return Intrinsic.objectAncestor.ref

/-- The value of a property of a value. -/
def readMember (scope : Scope) (base : Value) (key : PropertyName) : Run Value := do
  match key with
  | .fixed name => read inner base (.ofText name)
  | .computed e => read inner base (← toKey inner (← inner.expression scope e))

/-- The object of a member expression, and the value of the member. A chain ends where an optional
link is missing. -/
def evaluateMember (scope : Scope) (base : Expr) (key : PropertyName) (isOptional : Bool) :
    Run (Value × Value) := do
  let base ← inner.expression scope base
  if isOptional && base.isMissing then throw .skipped
  return (base, ← readMember inner scope base key)

/-- The receiver and the function of a callee. -/
def evaluateCallee (scope : Scope) : Expr → Run (Value × Value)
  | .member base key isOptional => evaluateMember inner scope base key isOptional
  | .superMember key => do
      let this ← valueOfName inner scope "this"
      return (this, ← readFrom inner (← superBase scope) (← keyOf inner scope key) this)
  | callee => return (.undefined, ← inner.expression scope callee)

/-- Call a callee. -/
def evaluateCall (scope : Scope) (callee : Expr) (arguments : List Item) (isOptional : Bool) :
    Run Value := do
  let (receiver, f) ← evaluateCallee inner scope callee
  if isOptional && f.isMissing then throw .skipped
  let arguments ← evaluateArguments inner scope arguments
  callValue inner f receiver arguments

/-- Run a chain, which is missing if one of its optional links is. -/
def evaluateChain (chain : Run Value) : Run Value :=
  tryCatch chain fun
    | .skipped => return .undefined
    | other => throw other

/-- A place to which a value can be written: a name, or a property of a value. -/
inductive Place
  | name (name : String)
  | member (base : Value) (key : Key)
  | superMember (key : Key)

/-- The place of an expression. -/
def evaluatePlace (scope : Scope) : Expr → Run Place
  | .name name => return .name name
  | .member base key _ => do
      let base ← inner.expression scope base
      return .member base (← keyOf inner scope key)
  | .superMember key => return .superMember (← keyOf inner scope key)
  | _ => raise .reading ReadingFault.badTarget.message

/-- The value at a place. -/
def readPlace (scope : Scope) : Place → Run Value
  | .name name => valueOfName inner scope name
  | .member base key => read inner base key
  | .superMember key => do
      readFrom inner (← superBase scope) key (← valueOfName inner scope "this")

/-- Write to a place. -/
def writePlace (scope : Scope) (value : Value) : Place → Run Unit
  | .name name => writeName inner scope name value
  | .member base key => write inner scope.isStrict base key value
  | .superMember key => do
      write inner scope.isStrict (← valueOfName inner scope "this") key value

/-- The number of an operation on whole numbers of 32 bits. -/
def onBits (operation : UInt32 → UInt32 → UInt32) (a b : Value) : Run Value := do
  let x ← toNumber inner a
  let y ← toNumber inner b
  return .number (signedOfBits (operation (bitsOf x) (bitsOf y)))

/-- The number of an operation on numbers. -/
def onNumbers (operation : Float → Float → Float) (a b : Value) : Run Value := do
  let x ← toNumber inner a
  let y ← toNumber inner b
  return .number (operation x y)

/-- Whether a chain of ancestors leads to an object. -/
def descendsFrom (ancestor : Ref) : Nat → Ref → Run Bool
  | 0, _ => return false
  | fuel + 1, ref => do
      match (← object ref).ancestor with
      | none => return false
      | some next => if next == ancestor then return true else descendsFrom ancestor fuel next

/-- Whether a value is an instance of what a constructor constructs. -/
def isInstance (value constructor : Value) : Run Bool := do
  match constructor with
  | .object ref =>
      let test ← read inner constructor (.symbol .hasInstance)
      if !test.isMissing then
        return (← callValue inner test constructor [value]).isTruthy
      match (← object ref).kind with
      | .function (.bound target _ _) =>
          match value, ← read inner target "prototype" with
          | .object ref, .object ancestor => descendsFrom ancestor ((← get).objects.size + 1) ref
          | _, _ => return false
      | .function _ =>
          match value, ← read inner constructor "prototype" with
          | .object ref, .object ancestor => descendsFrom ancestor ((← get).objects.size + 1) ref
          | .object _, _ => raise .type "operand 'prototype' property is not an object"
          | _, _ => return false
      | _ => raise .type "invalid 'instanceof' right operand"
  | _ => raise .type "invalid 'instanceof' right operand"

/-- Whether a value has a property. -/
def evaluateHasKey (key base : Value) : Run Value := do
  match base with
  | .object ref => return .bool (← hasProperty ref (← toKey inner key))
  | _ => raise .type "invalid 'in' operand"

/-- The value of an operator with two operands. -/
def evaluateBinary (operator : BinaryOperator) (a b : Value) : Run Value := do
  match operator with
  | .add => add inner a b
  | .subtract => onNumbers inner (· - ·) a b
  | .multiply => onNumbers inner (· * ·) a b
  | .divide => onNumbers inner (· / ·) a b
  | .remainder => onNumbers inner remainder a b
  | .power => onNumbers inner power a b
  | .bitAnd => onBits inner (· &&& ·) a b
  | .bitOr => onBits inner (· ||| ·) a b
  | .bitXor => onBits inner (· ^^^ ·) a b
  | .shiftLeft => onBits inner (fun x y => x <<< (y % 32)) a b
  | .shiftRight =>
      onBits inner (fun x y => (x.toInt32 >>> (y % 32).toInt32).toUInt32) a b
  | .shiftRightZero =>
      let x ← toNumber inner a
      let y ← toNumber inner b
      return .ofNat (bitsOf x >>> (bitsOf y % 32)).toNat
  | .less => return .bool (← compareValues inner Utf16.precedes (· < ·) a b)
  | .lessEqual =>
      return .bool (← compareValues inner (fun s t => !t.precedes s) (· ≤ ·) a b)
  | .greater => return .bool (← compareValues inner (fun s t => t.precedes s) (· > ·) a b)
  | .greaterEqual =>
      return .bool (← compareValues inner (fun s t => !s.precedes t) (· ≥ ·) a b)
  | .equal => return .bool (← looselyEqual inner a b)
  | .notEqual => return .bool !(← looselyEqual inner a b)
  | .same => return .bool (a.same b)
  | .notSame => return .bool !(a.same b)
  | .hasKey => evaluateHasKey inner a b
  | .instanceOf => return .bool (← isInstance inner a b)

/-- The value of an operator with one operand. -/
def evaluateUnary (operator : UnaryOperator) (value : Value) : Run Value := do
  match operator with
  | .minus => return .number (-(← toNumber inner value))
  | .plus => return .number (← toNumber inner value)
  | .negation => return .bool !value.isTruthy
  | .complement => return .number (signedOfBits (~~~(bitsOf (← toNumber inner value))))
  | .discard => return .undefined

/-- Whether the first operand of an operator decides its value. -/
def decides (operator : ShortCircuit) (value : Value) : Bool :=
  match operator with
  | .and => !value.isTruthy
  | .or => value.isTruthy
  | .coalesce => !value.isMissing

/-- Take away what an expression refers to. -/
def evaluateDelete (scope : Scope) : Expr → Run Value
  | .member base key isOptional => do
      let base ← inner.expression scope base
      if isOptional && base.isMissing then throw .skipped
      let key ← keyOf inner scope key
      let ref ← toObject base
      let isDone ← deleteProperty ref key
      if !isDone && scope.isStrict then raise .type "could not delete property"
      return .bool isDone
  | .name _ => return .bool false
  | e => do
      discard (inner.expression scope e)
      return .bool true

/-- Take away what an expression, perhaps a chain, refers to. Where a link is missing nothing is. -/
def evaluateDeleteChain (scope : Scope) : Expr → Run Value
  | .chain e =>
      tryCatch (evaluateDelete inner scope e) fun
        | .skipped => return .bool true
        | other => throw other
  | e => evaluateDelete inner scope e

/-- Add or take one at a place; the value is the one before or after. -/
def evaluateUpdate (scope : Scope) (increment before : Bool) (place : Expr) : Run Value := do
  let place ← evaluatePlace inner scope place
  let old ← toNumber inner (← readPlace inner scope place)
  let new := if increment then old + 1 else old - 1
  writePlace inner scope (.number new) place
  return .number (if before then new else old)

/-- Write the value of an expression to a target. -/
def evaluateAssign (scope : Scope) (target : Pattern) (e : Expr) : Run Value := do
  match target with
  | .name name =>
      let value ← inner.expression scope e
      writeName inner scope name value
      return value
  | .place place =>
      let place ← evaluatePlace inner scope place
      let value ← inner.expression scope e
      writePlace inner scope value place
      return value
  | pattern =>
      let value ← inner.expression scope e
      inner.bind scope false pattern value
      return value

/-- Combine the value at a place with another one. -/
def evaluateAssignBinary (scope : Scope) (operator : BinaryOperator) (place e : Expr) :
    Run Value := do
  let place ← evaluatePlace inner scope place
  let old ← readPlace inner scope place
  let value ← evaluateBinary inner operator old (← inner.expression scope e)
  writePlace inner scope value place
  return value

/-- Write to a place unless its value decides otherwise. -/
def evaluateAssignLogical (scope : Scope) (operator : ShortCircuit) (place e : Expr) :
    Run Value := do
  let place ← evaluatePlace inner scope place
  let old ← readPlace inner scope place
  if decides operator old then return old
  let value ← inner.expression scope e
  writePlace inner scope value place
  return value

/-- The name of the kind of what an expression gives. A name that stands for nothing is undefined.
-/
def evaluateTypeOf (scope : Scope) : Expr → Run Value
  | .name name => do
      return .text (.whole (← typeName ((← valueOfName? inner scope name).getD .undefined)))
  | e => do return .text (.whole (← typeName (← inner.expression scope e)))

/-- The value of an expression. -/
def evaluate (scope : Scope) : Expr → Run Value
  | .number x => return .number x
  | .text t => return .text t
  | .bool b => return .bool b
  | .null => return .null
  | .name name => valueOfName inner scope name
  | .newTarget => return scope.newTarget
  | .template parts => evaluateTemplate inner scope parts
  | .array items => do allocateArray (← evaluateItems inner scope items).toArray
  | .record fields => evaluateRecord inner scope fields
  | .function node => allocateClosure scope node none
  | .classOf node => evaluateClass inner scope node
  | .unary operator operand => do evaluateUnary inner operator (← inner.expression scope operand)
  | .typeOf operand => evaluateTypeOf inner scope operand
  | .delete operand => evaluateDeleteChain inner scope operand
  | .update increment before place => evaluateUpdate inner scope increment before place
  | .binary operator left right => do
      let left ← inner.expression scope left
      evaluateBinary inner operator left (← inner.expression scope right)
  | .logical operator left right => do
      let left ← inner.expression scope left
      if decides operator left then return left else inner.expression scope right
  | .conditional test whenTrue whenFalse => do
      if (← inner.expression scope test).isTruthy then inner.expression scope whenTrue
      else inner.expression scope whenFalse
  | .assign target e => evaluateAssign inner scope target e
  | .assignBinary operator place e => evaluateAssignBinary inner scope operator place e
  | .assignLogical operator place e => evaluateAssignLogical inner scope operator place e
  | .member base key isOptional => do return (← evaluateMember inner scope base key isOptional).2
  | .superMember key => do return (← evaluateCallee inner scope (.superMember key)).2
  | .call callee arguments isOptional => evaluateCall inner scope callee arguments isOptional
  | .superCall arguments => do
      evaluateSuperCall inner scope (← evaluateArguments inner scope arguments)
  | .construct callee arguments => do
      let callee ← inner.expression scope callee
      let arguments ← evaluateArguments inner scope arguments
      constructValue inner callee arguments callee
  | .chain whole => evaluateChain (inner.expression scope whole)
  | .sequence first second => do
      discard (inner.expression scope first)
      inner.expression scope second
  | .await operand => do
      discard (inner.expression scope operand)
      throw .suspended

end BotBench.Script
