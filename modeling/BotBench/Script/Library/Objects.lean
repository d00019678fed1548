import BotBench.Script.Expression
import BotBench.Script.Grammar.Statement

/-! # The library: objects and functions

What the functions of `Object` and `Function` do. -/

namespace BotBench.Script

open Text Run

/-- An argument; a missing one is undefined. -/
def argument (arguments : List Value) (place : Nat) : Value := arguments[place]?.getD .undefined

variable (inner : Evaluator)

/-- A list of two values. -/
def allocatePair (first second : Value) : Run Value := allocateList [first, second]

/-- What the listed properties of a value give. -/
def listedParts (part : Key → Value → Run Value) (subject : Value) : Run Value := do
  let ref ← toObject subject
  let keys ← listedKeys ref
  allocateList (← keys.mapM fun key => do part key (← read inner (.object ref) key))

/-- Copy the listed properties of values to an object, as if they were written one by one. -/
def assignAll (target : Ref) : List Value → Run Unit
  | [] => return
  | source :: rest => do
      if !source.isMissing then
        let ref ← toObject source
        for (key, isListed) in ← listingOf ref do
          if isListed then write inner true (.object target) key (← read inner source key)
      assignAll target rest

/-- A field of the description of a property, if it is there. -/
def describedField? (description : Value) (name : String) : Run (Option Value) := do
  match description with
  | .object ref =>
      if ← hasProperty ref name then return some (← read inner description name) else return none
  | _ => return none

/-- The property that an object describes, what is not said taken from what is known. -/
def describedProperty (known : Option Property) (description : Value) : Run Property := do
  unless description.isObject do raise .type "not an object"
  let isFree := (known.map (·.isConfigurable)).getD false
  let isEnumerable ← describedField? inner description "enumerable"
  let isConfigurable ← describedField? inner description "configurable"
  let value ← describedField? inner description "value"
  let isWritable ← describedField? inner description "writable"
  let read ← describedField? inner description "get"
  let write ← describedField? inner description "set"
  let oldContent := (known.map (·.content)).getD (.data .undefined false)
  let content : Content :=
    if read.isSome || write.isSome then
      match oldContent with
      | .accessor oldRead oldWrite => .accessor (read <|> oldRead) (write <|> oldWrite)
      | .data _ _ => .accessor read write
    else
      match oldContent with
      | .data old wasWritable =>
          .data (value.getD old) ((isWritable.map Value.isTruthy).getD wasWritable)
      | .accessor oldRead oldWrite =>
          match value with
          | some value => .data value ((isWritable.map Value.isTruthy).getD false)
          | none => .accessor oldRead oldWrite
  let wasEnumerable := (known.map (·.isEnumerable)).getD false
  return {
    content
    isEnumerable := (isEnumerable.map Value.isTruthy).getD wasEnumerable
    isConfigurable := (isConfigurable.map Value.isTruthy).getD isFree }

/-- Define the property of an object that another object describes. -/
def defineDescribed (target : Value) (key : Key) (description : Value) : Run Unit := do
  match target with
  | .object ref =>
      let known := (← object ref).own? key
      define ref key (← describedProperty inner known description)
  | _ => raise .type "not an object"

/-- Make an object with a given ancestor. -/
def createObject (ancestor descriptions : Value) : Run Value := do
  let ancestor ← match ancestor with
    | .object ref => pure (some ref)
    | .null => pure none
    | _ => raise .type "not a prototype"
  let ref ← allocate { ancestor }
  if !descriptions.isUndefined then
    let source ← toObject descriptions
    for key in ← listedKeys source do
      defineDescribed inner (.object ref) key (← read inner descriptions key)
  return .object ref

/-- A property that cannot be changed any more. -/
def Property.frozen (property : Property) : Property :=
  { property with
    isConfigurable := false
    content := match property.content with
      | .data value _ => .data value false
      | content => content }

/-- An object that cannot be changed any more. -/
def Object.frozen (object : Object) : Object :=
  { object with
    isExtensible := false
    properties := object.properties.map fun (key, property) => (key, property.frozen) }

/-- Whether an object cannot be changed any more. -/
def Object.isFrozen (object : Object) : Bool :=
  !object.isExtensible && object.properties.all fun (_, property) =>
    !property.isConfigurable && (match property.content with
      | .data _ isWritable => !isWritable
      | .accessor .. => true)

/-- The name of what an object is. -/
def tagOf (value : Value) : Run String := do
  match value with
  | .object ref =>
      match (← object ref).kind with
      | .array => return "Array"
      | .arguments => return "Arguments"
      | .function _ => return "Function"
      | .error => return "Error"
      | .boxed (.bool _) => return "Boolean"
      | .boxed (.number _) => return "Number"
      | .boxed (.text _) => return "String"
      | _ => return "Object"
  | _ => return "Object"

/-- An object as a text that tells what it is. -/
def objectText (receiver : Value) : Run Value := do
  match receiver with
  | .undefined => return "[object Undefined]"
  | .null => return "[object Null]"
  | receiver =>
      let boxed := Value.object (← toObject receiver)
      let known ← tagOf boxed
      match ← read inner boxed (.symbol .toStringTag) with
      | .text tag => return .text (.concat ["[object ", tag, "]"])
      | _ => return .text (.whole ("[object " ++ known ++ "]"))

/-- The ancestor of a value. -/
def ancestorOf (value : Value) : Run Value := do
  return (((← object (← toObject value)).ancestor).map Value.object).getD .null

/-- Give a value an ancestor. -/
def setAncestor (value ancestor : Value) : Run Unit := do
  match value, ancestor with
  | .object ref, .object other =>
      if ref == other || (← descendsFrom ref ((← get).objects.size + 1) other) then
        raise .type "circular prototype chain"
      modifyObject ref fun object => { object with ancestor := some other }
  | .object ref, .null => modifyObject ref fun object => { object with ancestor := none }
  | _, _ => return

/-- Make a function of texts: its parameters and, last, its body. -/
def functionOfTexts (arguments : List Value) : Run Value := do
  let texts ← arguments.mapM fun value => return (← toText inner value).toString
  match FunctionNode.ofProgram texts.dropLast (texts.getLast?.getD "") with
  | .ok node => allocateClosure {} node none
  | .error fault => raise .reading fault.message

/-- The text of a host function, which is written in the language too. -/
def textOfFunction (hostText : HostFunction → Option String) (receiver : Value) : Run Value := do
  match ← callable? receiver with
  | none => raise .type "not a function"
  | some (.closure node _ _) => return .text node.source
  | some callable =>
      let known := match callable with
        | .native (.host f) => hostText f
        | _ => none
      match known with
      | some text => return text
      | none =>
          let name ← match ← read inner receiver "name" with
            | .undefined => pure (Utf16.whole "")
            | name => toText inner name
          return .text (.concat ["function ", name, "() \x7b\n    [native code]\n\x7d"])

/-- Bind a receiver and the first arguments of a function. -/
def bindFunction (target : Value) (arguments : List Value) : Run Value := do
  unless ← isCallable target do raise .type "not a function"
  let name ← toText inner (← read inner target "name")
  let count ← lengthProperty inner target
  let ancestor := match target with
    | .object ref => do return (← object ref).ancestor
    | _ => pure none
  return .object (← allocate
    { kind := .function (.bound target (argument arguments 0) (arguments.drop 1))
      ancestor := ← ancestor
      properties := functionProperties (count - (arguments.length - 1)) ("bound " ++ name) })

/-- Call a function of objects and functions. -/
def callObjectFunction (hostText : HostFunction → Option String) (f : ObjectFunction)
    (receiver : Value) (arguments : List Value) : Run Value := do
  let first := argument arguments 0
  let second := argument arguments 1
  match f with
  | .construct =>
      if first.isMissing then return .object (← allocatePlain [])
      else return .object (← toObject first)
  | .keys => listedParts inner (fun key _ => return key.toValue) first
  | .values => listedParts inner (fun _ value => return value) first
  | .entries => listedParts inner (fun key value => allocatePair key.toValue value) first
  | .assign =>
      let target ← toObject first
      assignAll inner target (arguments.drop 1)
      return .object target
  | .create => createObject inner first second
  | .freeze =>
      if let .object ref := first then modifyObject ref Object.frozen
      return first
  | .isFrozen =>
      match first with
      | .object ref => return .bool (← object ref).isFrozen
      | _ => return .bool true
  | .ancestorOf => ancestorOf first
  | .setAncestorOf =>
      setAncestor first second
      return first
  | .defineProperty =>
      unless first.isObject do raise .type "not an object"
      defineDescribed inner first (← toKey inner second) (argument arguments 2)
      return first
  | .ownNames =>
      let keys := (← listingOf (← toObject first)).map (·.1)
      allocateList ((keys.filter Key.isPublic).map Key.toValue)
  | .ofEntries =>
      let ref ← allocatePlain []
      for entry in ← itemsOf inner first do
        unless entry.isObject do raise .type "not an object"
        let key ← toKey inner (← read inner entry (.index 0))
        defineValue ref key (← read inner entry (.index 1))
      return .object ref
  | .is => return .bool (first.indistinct second)
  | .hasOwn =>
      let key ← toKey inner first
      let object ← object (← toObject receiver)
      return .bool (object.own? key).isSome
  | .isAncestorOf =>
      match receiver, first with
      | .object ancestor, .object ref =>
          return .bool (← descendsFrom ancestor ((← get).objects.size + 1) ref)
      | _, _ => return .bool false
  | .isEnumerable =>
      let key ← toKey inner first
      let object ← object (← toObject receiver)
      return .bool (((object.own? key).map (·.isEnumerable)).getD false)
  | .toText => objectText inner receiver
  | .toLocalText => invoke inner receiver "toString" []
  | .valueOf => return .object (← toObject receiver)
  | .readAncestor => ancestorOf receiver
  | .writeAncestor =>
      setAncestor receiver first
      return .undefined
  | .constructFunction => functionOfTexts inner arguments
  | .functionText => textOfFunction inner hostText receiver
  | .call => callValue inner receiver first (arguments.drop 1)
  | .apply =>
      let items ← if second.isMissing then pure [] else listedItems inner second
      callValue inner receiver first items
  | .bind => bindFunction inner receiver arguments
  | .emptyFunction => return .undefined

end BotBench.Script
