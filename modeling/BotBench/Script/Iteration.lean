import BotBench.Script.Conversion

/-! # Going through items

A value says by a method under a symbol how its items are gone through. Lists and texts have such a
method from the start, and are gone through directly while they have it. A visit takes what is known
so far and an item; it goes on with something more (`inl`) or ends with a result (`inr`). -/

namespace BotBench.Script

open Text Run

variable (inner : Evaluator) {α β : Type}

/-- Go through the items of a list, as long as there are any when they are asked for. -/
def visitList (ref : Ref) (start : α) (visit : α → Value → Run (α ⊕ β)) : Run (α ⊕ β) :=
  repeating (start, 0) fun (known, place) => do
    let object ← object ref
    if object.items.size ≤ place then return .inr (.inl known)
    let item ← match object.items[place]?.join with
      | some value => pure value
      | none => readFrom inner ref (.index place) (.object ref)
    match ← visit known item with
    | .inl known => return .inl (known, place + 1)
    | .inr result => return .inr (.inr result)

/-- Go through a finite number of values. -/
def visitValues (visit : α → Value → Run (α ⊕ β)) : List Value → α → Run (α ⊕ β)
  | [], known => return .inl known
  | value :: rest, known => do
      tick
      match ← visit known value with
      | .inl known => visitValues visit rest known
      | .inr result => return .inr result

/-- Tell an iterator that no more items are wanted. -/
def closeIterator (iterator : Value) : Run Unit := do
  let close ← read inner iterator "return"
  unless close.isMissing do discard (callValue inner close iterator [])

/-- Go through the items that an iterator gives. When the visit ends early the iterator is told so.
-/
def visitIterator (iterator : Value) (start : α) (visit : α → Value → Run (α ⊕ β)) :
    Run (α ⊕ β) := do
  let next ← read inner iterator "next"
  repeating start fun known => do
    let step ← callValue inner next iterator []
    unless step.isObject do raise .type "iterator must return an object"
    if (← read inner step "done").isTruthy then return .inr (.inl known)
    let item ← read inner step "value"
    let result ← tryCatch (visit known item) fun abrupt => do
      if let .thrown _ := abrupt then
        tryCatch (closeIterator inner iterator) fun
          | .thrown _ => pure ()
          | other => throw other
      throw abrupt
    match result with
    | .inl known => return .inl known
    | .inr result =>
        closeIterator inner iterator
        return .inr (.inr result)

/-- The native function of a value that is one. -/
def native? (value : Value) : Run (Option Native) := do
  match ← callable? value with
  | some (.native f) => return some f
  | _ => return none

/-- Go through the items of a value. -/
def visitItems (subject : Value) (start : α) (visit : α → Value → Run (α ⊕ β)) : Run (α ⊕ β) := do
  let method ← read inner subject (.symbol .iterator)
  unless ← isCallable method do raise .type "value is not iterable"
  match ← native? method, subject with
  | some (.array (.iterator .values)), .object ref =>
      if ← isArray subject then return ← visitList inner ref start visit
  | some (.text .characters), .text t =>
      return ← visitValues visit (t.characters.map .text) start
  | _, _ => pure ()
  let iterator ← inner.call method subject []
  unless iterator.isObject do raise .type "not an object"
  visitIterator inner iterator start visit

/-- The items of a value. -/
def itemsOf (subject : Value) : Run (List Value) := do
  let visit (known : List Value) (item : Value) : Run (List Value ⊕ Unit) :=
    return .inl (item :: known)
  match ← visitItems inner subject [] visit with
  | .inl known => return known.reverse
  | .inr () => return []

/-- The items of a value that only has to be like a list: it has a length and places. -/
def listedItems (subject : Value) : Run (List Value) := do
  let length ← lengthProperty inner subject
  checkSize length
  (List.range length).mapM fun place => do read inner subject (.index place)

end BotBench.Script
