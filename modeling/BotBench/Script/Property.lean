import BotBench.Script.Evaluator

/-! # Properties

Reading and writing the properties of values. A property is looked for on the object itself and then
on its ancestors; a property with functions is read and written by calling them. -/

namespace BotBench.Script

open Number Text Run

/-- The object on which the properties of a plain value are looked for. -/
def ancestorOfPlain? : Value → Option Ref
  | .undefined | .null => none
  | .bool _ => some Intrinsic.boolAncestor.ref
  | .number _ => some Intrinsic.numberAncestor.ref
  | .text _ => some Intrinsic.textAncestor.ref
  | .symbol _ => some Intrinsic.symbolAncestor.ref
  | .object ref => some ref

/-- The property of a text itself: a unit or the length. -/
def textProperty? (t : Utf16) : Key → Option Property
  | .index place =>
      (t.unit? place).map fun unit =>
        { content := .data (.text (.ofUnit unit)) false, isConfigurable := false }
  | key =>
      if key = "length" then
        some { content := .data (.ofNat t.length) false, isEnumerable := false
               isConfigurable := false }
      else none

/-- The property of a list itself: an item or the length. -/
def listProperty? (items : Array (Option Value)) (isOpen : Bool) : Key → Option Property
  | .index place =>
      (items[place]?.join).map fun value =>
        { content := .data value isOpen, isConfigurable := isOpen }
  | key =>
      if key = "length" then
        some { content := .data (.ofNat items.size) isOpen, isEnumerable := false
               isConfigurable := false }
      else none

/-- The property of an object itself. -/
def Object.own? (object : Object) (key : Key) : Option Property :=
  match object.kind with
  | .array => listProperty? object.items object.isExtensible key <|> object.property? key
  | .boxed (.text t) => textProperty? t key <|> object.property? key
  | _ => object.property? key

/-- The property that an object or one of its ancestors has. -/
def findProperty (key : Key) : Nat → Ref → Run (Option Property)
  | 0, _ => return none
  | fuel + 1, ref => do
      let object ← object ref
      match object.own? key, object.ancestor with
      | some property, _ => return some property
      | none, some ancestor => findProperty key fuel ancestor
      | none, none => return none

/-- The property that an object or one of its ancestors has. -/
def property? (ref : Ref) (key : Key) : Run (Option Property) := do
  findProperty key ((← get).objects.size + 1) ref

/-- Whether an object or one of its ancestors has a property. -/
def hasProperty (ref : Ref) (key : Key) : Run Bool := return (← property? ref key).isSome

variable (inner : Evaluator)

/-- The value that a property has for a receiver. -/
def propertyValue (property : Option Property) (receiver : Value) : Run Value :=
  match property with
  | some { content := .data value _, .. } => return value
  | some { content := .accessor (some read) _, .. } => inner.call read receiver []
  | _ => return .undefined

/-- Read a property that is looked for from an object on, for a receiver. -/
def readFrom (ref : Ref) (key : Key) (receiver : Value) : Run Value := do
  propertyValue inner (← property? ref key) receiver

/-- Read a property of a value. -/
def read (base : Value) (key : Key) : Run Value := do
  match base with
  | .undefined => raise .type s!"cannot read property '{key.shown}' of undefined"
  | .null => raise .type s!"cannot read property '{key.shown}' of null"
  | .text t =>
      passText t
      match textProperty? t key with
      | some property => propertyValue inner (some property) base
      | none => readFrom inner Intrinsic.textAncestor.ref key base
  | base =>
      match ancestorOfPlain? base with
      | some ref => readFrom inner ref key base
      | none => return .undefined

/-- Add holes to a list until it has a length. -/
def padItems (items : Array (Option Value)) (length : Nat) : Array (Option Value) :=
  items ++ Array.replicate (length - items.size) none

/-- Set the length of a list. -/
def setLength (ref : Ref) (length : Nat) : Run Unit := do
  if (← object ref).items.size < length then checkSize length
  modifyObject ref fun object =>
    { object with
      items :=
        if length ≤ object.items.size then object.items.extract 0 length
        else padItems object.items length }

/-- Put an item into a list. -/
def putItem (ref : Ref) (place : Nat) (value : Value) : Run Unit := do
  let size := (← object ref).items.size
  if size ≤ place then checkSize (place + 1)
  modifyObject ref fun object =>
    { object with
      items :=
        if place < object.items.size then object.items.setIfInBounds place (some value)
        else if place == object.items.size then object.items.push (some value)
        else (padItems object.items place).push (some value) }

/-- The length that a value stands for. -/
def lengthOf (value : Value) : Run Nat := do
  match value with
  | .number x =>
      match wholeNumber? x with
      | some n =>
          if 0 ≤ n && n < twoTo 32 then return n.toNat
          else raise .range "invalid array length"
      | none => raise .range "invalid array length"
  | _ => raise .range "invalid array length"

/-- Put a property that is not an item into an object itself. It takes the longer, the more there
are. -/
def putProperty (ref : Ref) (key : Key) (property : Property) : Run Unit := do
  spend ((← object ref).properties.length / 64)
  modifyObject ref (·.put key property)

/-- Put a property into an object itself, whatever was there. -/
def define (ref : Ref) (key : Key) (property : Property) : Run Unit := do
  let object ← object ref
  match object.kind, key, property.content with
  | .array, .index place, .data value _ => putItem ref place value
  | .array, key, .data value _ =>
      if key = "length" then setLength ref (← lengthOf value)
      else putProperty ref key property
  | _, key, _ => putProperty ref key property

/-- Put an ordinary property into an object itself. -/
def defineValue (ref : Ref) (key : Key) (value : Value) : Run Unit :=
  define ref key (.plain value)

/-- What a write that is not allowed does: nothing, or in a strict script an error. -/
def refuse (isStrict : Bool) (problem : String) : Run Unit :=
  if isStrict then raise .type problem else pure ()

/-- Write a value to an object, itself lacking the property, for a receiver. -/
def writeNew (isStrict : Bool) (ref : Ref) (key : Key) (value : Value) : Run Unit := do
  if (← object ref).isExtensible then defineValue ref key value
  else refuse isStrict "object is not extensible"

/-- Write a property of an object. -/
def writeObject (isStrict : Bool) (ref : Ref) (key : Key) (value : Value) : Run Unit := do
  let target ← object ref
  let found ← match target.own? key with
    | some property => pure (some property)
    | none => property? ref key
  match found with
  | some { content := .accessor _ (some write), .. } =>
      discard (inner.call write (.object ref) [value])
  | some { content := .accessor _ none, .. } => refuse isStrict "no setter for property"
  | some { content := .data _ false, .. } => refuse isStrict s!"'{key.shown}' is read-only"
  | some { content := .data _ true, .. } =>
      match target.own? key with
      | some property => define ref key { property with content := .data value true }
      | none => writeNew isStrict ref key value
  | none => writeNew isStrict ref key value

/-- Write a property of a value. A plain value has no properties of its own, so that nothing is
kept. -/
def write (isStrict : Bool) (base : Value) (key : Key) (value : Value) : Run Unit := do
  match base with
  | .undefined => raise .type s!"cannot set property '{key.shown}' of undefined"
  | .null => raise .type s!"cannot set property '{key.shown}' of null"
  | .object ref => writeObject inner isStrict ref key value
  | base =>
      match ancestorOfPlain? base with
      | some ref =>
          match ← property? ref key with
          | some { content := .accessor _ (some write), .. } =>
              discard (inner.call write base [value])
          | _ => refuse isStrict "not an object"
      | none => return

/-- Take a property away from an object; whether it could be. -/
def deleteProperty (ref : Ref) (key : Key) : Run Bool := do
  let object ← object ref
  match object.own? key with
  | none => return true
  | some property =>
      if !property.isConfigurable then return false
      match object.kind, key with
      | .array, .index place =>
          modifyObject ref fun object =>
            { object with items := object.items.setIfInBounds place none }
      | _, _ => modifyObject ref (·.drop key)
      return true

/-- The place that a key stands for; a name stands for the first one. -/
def Key.placeOrZero : Key → Nat
  | .index place => place
  | _ => 0

/-- The keys of an object itself and whether they are listed: places in order, then names in the
order in which they were made, then symbols. -/
def Object.listing (object : Object) : List (Key × Bool) :=
  let items :=
    match object.kind with
    | .array => (List.range object.items.size).filter fun place => object.items[place]?.join.isSome
    | .boxed (.text t) => List.range t.length
    | _ => []
  let length :=
    match object.kind with
    | .array | .boxed (.text _) => [(Key.ofText "length", false)]
    | _ => []
  let entries := object.properties.map fun (key, property) => (key, property.isEnumerable)
  let places := entries.filter fun (key, _) => key matches .index _
  let names := entries.filter fun (key, _) => key matches .name _
  let symbols := entries.filter fun (key, _) => key matches .symbol _
  items.map (fun place => (Key.index place, true)) ++
    places.mergeSort (fun a b => a.1.placeOrZero ≤ b.1.placeOrZero) ++ length ++ names ++ symbols

/-- The keys of an object itself and whether they are listed, if they do not take too much
memory. -/
def listingOf (ref : Ref) : Run (List (Key × Bool)) := do
  let object ← object ref
  if let .boxed (.text t) := object.kind then
    passText t
    checkSize t.length
  return object.listing

/-- Whether a key is a text and not a symbol or a private name. -/
def Key.isPublic : Key → Bool
  | .index _ => true
  | .name (.whole word) => word.front != '#' || word.length == 1
  | .name _ => true
  | .symbol _ => false

/-- The keys of an object itself that are listed, symbols left out. -/
def listedKeys (ref : Ref) : Run (List Key) := do
  return (← listingOf ref).filterMap fun (key, isListed) =>
    if isListed && key.isPublic then some key else none

/-- The callable of a value that can be called. -/
def callable? (value : Value) : Run (Option Callable) := do
  match value with
  | .object ref =>
      match (← object ref).kind with
      | .function callable => return some callable
      | _ => return none
  | _ => return none

/-- Whether a value can be called. -/
def isCallable (value : Value) : Run Bool := return (← callable? value).isSome

/-- Whether a value is a list. -/
def isArray (value : Value) : Run Bool := do
  match value with
  | .object ref =>
      match (← object ref).kind with
      | .array => return true
      | _ => return false
  | _ => return false

/-- Call a value if it can be called. -/
def callValue (callee receiver : Value) (arguments : List Value) : Run Value := do
  if ← isCallable callee then inner.call callee receiver arguments
  else raise .type "not a function"

/-- Call a method of a value. -/
def invoke (base : Value) (key : Key) (arguments : List Value) : Run Value := do
  callValue inner (← read inner base key) base arguments

end BotBench.Script
