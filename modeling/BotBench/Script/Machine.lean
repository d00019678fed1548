import BotBench.Sandbox.Host
import BotBench.Script.Native
import BotBench.Script.Program

/-! # The machine of a script

The state in which a script runs: the objects, the cells of its variables, what is left of its time,
and what the host keeps. A run gives a value, or ends early: by a thrown value, which the script can
catch, or because its time is over, which it cannot. -/

namespace BotBench.Script

open Text

/-- What happens to a write to a variable. -/
inductive Mutability
  | free
  | constant
  deriving DecidableEq, Repr, Inhabited

/-- What a name stands for: a cell, or a value that never changes. -/
inductive Slot
  | cell (place : Nat) (mutability : Mutability)
  | fixed (value : Value)
  deriving Inhabited

/-- What the names in a part of a script stand for. The innermost bindings come first. -/
structure Scope where
  bindings : List (String × Slot) := []
  /-- The object to whose ancestor `super` refers. -/
  home : Option Ref := none
  /-- The function that runs, and what it was constructed for. -/
  active : Option Ref := none
  newTarget : Value := .undefined
  isStrict : Bool := false
  deriving Inhabited

/-- A function that can be called: written in the script, there from the start, or another one with
its receiver and its first arguments given. -/
inductive Callable
  | closure (node : FunctionNode) (scope : Scope) (fields : List (Key × FunctionNode))
  | native (f : Native)
  | bound (target receiver : Value) (arguments : List Value)
  deriving Inhabited

/-- What an object is, besides its properties. -/
inductive Kind
  | plain
  | array
  | arguments
  | function (callable : Callable)
  | error
  | boxed (value : Value)
  | promise
  | map (entries : List (Value × Value))
  | set (items : List Value)
  /-- An iterator over the items of a list, or over the characters of a text. -/
  | iterator (subject : Value) (place : Nat) (kind : IterationKind)
  deriving Inhabited

/-- What a property holds: a value, or functions that are called to read and to write it. -/
inductive Content
  | data (value : Value) (isWritable : Bool)
  | accessor (read write : Option Value)
  deriving Repr, Inhabited

/-- A property. -/
structure Property where
  content : Content
  isEnumerable : Bool := true
  isConfigurable : Bool := true
  deriving Repr, Inhabited

/-- An object: its kind, its ancestor, its properties in the order in which they were made, and, for
a list, its items, of which some may be holes. -/
structure Object where
  kind : Kind := .plain
  ancestor : Option Ref
  properties : List (Key × Property) := []
  items : Array (Option Value) := #[]
  isExtensible : Bool := true
  deriving Inhabited

/-- The state in which a script runs. -/
structure Machine where
  objects : Array Object := #[]
  cells : Array (Option Value) := #[]
  symbols : Nat := Symbol.wellKnownCount
  /-- The steps that are left. -/
  steps : Nat
  /-- The bytes that one text or list may take. -/
  memory : Nat
  host : Sandbox.Host := {}
  deriving Inhabited

/-- Why a run ends early. -/
inductive Abrupt
  | thrown (value : Value)
  /-- The time is over. -/
  | interrupted
  /-- An asynchronous function waits. -/
  | suspended
  /-- A link of a chain is missing. -/
  | skipped
  deriving Inhabited

/-- A part of a run. -/
abbrev Run := EStateM Abrupt Machine

/-- The objects that are there from the start and that the language itself refers to. -/
inductive Intrinsic
  | global
  | objectAncestor
  | functionAncestor
  | arrayAncestor
  | textAncestor
  | numberAncestor
  | boolAncestor
  | symbolAncestor
  | promiseAncestor
  | mapAncestor
  | setAncestor
  | iteratorAncestor
  | botAncestor
  | errorAncestor (kind : ErrorKind)
  deriving DecidableEq, Repr, Inhabited

namespace Intrinsic

/-- The intrinsic objects in the order in which they are made. -/
def all : List Intrinsic :=
  [.global, .objectAncestor, .functionAncestor, .arrayAncestor, .textAncestor, .numberAncestor,
    .boolAncestor, .symbolAncestor, .promiseAncestor, .mapAncestor, .setAncestor, .iteratorAncestor,
    .botAncestor] ++ ErrorKind.all.map .errorAncestor

/-- The place of an intrinsic object. -/
def place : Intrinsic → Nat
  | .global => 0
  | .objectAncestor => 1
  | .functionAncestor => 2
  | .arrayAncestor => 3
  | .textAncestor => 4
  | .numberAncestor => 5
  | .boolAncestor => 6
  | .symbolAncestor => 7
  | .promiseAncestor => 8
  | .mapAncestor => 9
  | .setAncestor => 10
  | .iteratorAncestor => 11
  | .botAncestor => 12
  | .errorAncestor .error => 13
  | .errorAncestor .type => 14
  | .errorAncestor .range => 15
  | .errorAncestor .reference => 16
  | .errorAncestor .reading => 17
  | .errorAncestor .internal => 18
  | .errorAncestor .evaluation => 19
  | .errorAncestor .address => 20

/-- The reference to an intrinsic object. -/
def ref (intrinsic : Intrinsic) : Ref := ⟨intrinsic.place⟩

/-- The intrinsic objects stand at their places. -/
example : all.map place = List.range 21 := by decide

end Intrinsic

/-- A property that holds a value, can be changed, and is not listed. -/
def Property.hidden (value : Value) : Property :=
  { content := .data value true, isEnumerable := false }

/-- A property that holds a value and is an ordinary one. -/
def Property.plain (value : Value) : Property := { content := .data value true }

namespace Object

/-- A property of an object that is not kept among its items. -/
def property? (object : Object) (key : Key) : Option Property :=
  (object.properties.find? fun entry => entry.1 == key).map (·.2)

/-- Put a property into a list of properties: in the place of the one with its key, or at the end.
-/
def putProperty (key : Key) (property : Property) :
    List (Key × Property) → List (Key × Property)
  | [] => [(key, property)]
  | entry :: rest =>
      if entry.1 == key then (key, property) :: rest else entry :: putProperty key property rest

/-- An object with a property. -/
def put (object : Object) (key : Key) (property : Property) : Object :=
  { object with properties := putProperty key property object.properties }

/-- An object without a property. -/
def drop (object : Object) (key : Key) : Object :=
  { object with properties := object.properties.filter fun entry => !(entry.1 == key) }

end Object

namespace Run

/-- End a run with a thrown value. -/
def throwValue {α : Type} (value : Value) : Run α := throw (.thrown value)

/-- The object of a reference. -/
def object (ref : Ref) : Run Object := return (← get).objects[ref.index]?.getD default

/-- Change an object. -/
def modifyObject (ref : Ref) (change : Object → Object) : Run Unit :=
  modify fun machine => { machine with objects := machine.objects.modify ref.index change }

/-- Take steps. The run ends when there are not so many left. -/
def spend (count : Nat) : Run Unit := do
  if (← get).steps < count then throw .interrupted
  modify fun machine => { machine with steps := machine.steps - count }

/-- Take a step. -/
def tick : Run Unit := spend 1

/-- The steps that it takes to make an object. -/
def allocationSteps : Nat := 5

/-- Make an object. -/
def allocate (object : Object) : Run Ref := do
  spend allocationSteps
  modifyGet fun machine =>
    (⟨machine.objects.size⟩, { machine with objects := machine.objects.push object })

/-- Make a plain object with an intrinsic ancestor. -/
def allocatePlain (properties : List (Key × Property)) : Run Ref :=
  allocate { ancestor := some Intrinsic.objectAncestor.ref, properties }

/-- Make a list. -/
def allocateArray (items : Array (Option Value)) : Run Value :=
  return .object (← allocate
    { kind := .array, ancestor := some Intrinsic.arrayAncestor.ref, items })

/-- Make a list without holes. -/
def allocateList (items : List Value) : Run Value := allocateArray (items.map some).toArray

/-- Make an error. Its trace is hidden and empty. -/
def allocateError (kind : ErrorKind) (message : String) : Run Value :=
  return .object (← allocate
    { kind := .error
      ancestor := some (Intrinsic.errorAncestor kind).ref
      properties := [("message", .hidden message), ("stack", .hidden "")] })

/-- End a run with an error. -/
def raise {α : Type} (kind : ErrorKind) (message : String) : Run α := do
  throwValue (← allocateError kind message)

/-- End a run because the script nests too deeply. -/
def stackOverflow {α : Type} : Run α := raise .internal "stack overflow"

/-- End a run because a text or a list takes too much memory. -/
def outOfMemory {α : Type} : Run α := raise .internal "out of memory"

/-- Make a cell. -/
def allocateCell (value : Option Value) : Run Nat :=
  modifyGet fun machine =>
    (machine.cells.size, { machine with cells := machine.cells.push value })

/-- Write to a cell. -/
def writeCell (place : Nat) (value : Value) : Run Unit :=
  modify fun machine => { machine with cells := machine.cells.setIfInBounds place (some value) }

/-- Make a symbol. -/
def allocateSymbol (description : Option Utf16) : Run Symbol :=
  modifyGet fun machine => (⟨machine.symbols, description⟩,
    { machine with symbols := machine.symbols + 1 })

/-- Repeat a part of a run until it has a result, at most `fuel` times. -/
def iterate {α β : Type} (step : α → Run (α ⊕ β)) : Nat → α → Run β
  | 0, _ => throw .interrupted
  | fuel + 1, a => do
      match ← step a with
      | .inl next => iterate step fuel next
      | .inr result => pure result

/-- Repeat a part of a run until it has a result. Each time takes a step. -/
def repeating {α β : Type} (start : α) (step : α → Run (α ⊕ β)) : Run β := do
  iterate (fun a => do tick; step a) ((← get).steps + 1) start

/-- Take the steps that it takes to go through a text. -/
def passText (t : Utf16) : Run Unit := spend (t.size / 32)

/-- The steps that it takes to make a text of a size. A short text mostly grows where it is. -/
def textSteps (size : Nat) : Nat := if size < 262144 then size / 2048 else size / 160

/-- A text that a run makes, if it does not take too much memory. It never takes more than twice its
size, so a short text need not be measured. -/
def checkText (t : Utf16) : Run Utf16 := do
  spend (textSteps t.size)
  let limit := (← get).memory
  if 2 * t.size < limit then return t
  passText t
  if t.memory < limit then return t else outOfMemory

/-- The bytes that an item of a list takes, with the room that a growing list keeps. -/
def itemSize : Nat := 24

/-- Check that a list of a number of items does not take too much memory. -/
def checkSize (count : Nat) : Run Unit := do
  if (← get).memory < itemSize * count then outOfMemory

end Run

end BotBench.Script
