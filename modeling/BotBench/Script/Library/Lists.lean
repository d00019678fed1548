import BotBench.Script.Library.Objects

/-! # The library: lists

What the functions of `Array` do. Most take anything that has a length and places for a list. -/

namespace BotBench.Script

open Text Run

variable (inner : Evaluator)

/-- What a function of lists works on: an object, and the number of its items. -/
structure Listed where
  base : Value
  length : Nat

/-- A value as something listed. -/
def listed (receiver : Value) : Run Listed := do
  let base := Value.object (← toObject receiver)
  return { base, length := ← lengthProperty inner base }

/-- The item at a place, if there is one. -/
def itemAt? (list : Listed) (place : Nat) : Run (Option Value) := do
  match list.base with
  | .object ref =>
      match ← property? ref (.index place) with
      | some property => return some (← propertyValue inner (some property) list.base)
      | none => return none
  | _ => return none

/-- The items of something listed from a place up to another, with holes. -/
def itemsAt (list : Listed) (start stop : Nat) : Run (Array (Option Value)) := do
  if let .object ref := list.base then
    if ← isArray list.base then return (← object ref).items.extract start stop
  checkSize (stop - start)
  let items ← ((List.range (stop - start)).map (· + start)).mapM fun place => do
    itemAt? inner list place
  return items.toArray

variable {α β : Type}

/-- Go through some places of something listed. Holes are passed over or count as undefined. -/
def visitPlaces (list : Listed) (passHoles : Bool) (visit : α → Nat → Value → Run (α ⊕ β)) :
    List Nat → α → Run (α ⊕ β)
  | [], known => return .inl known
  | place :: rest, known => do
      tick
      match ← itemAt? inner list place with
      | none =>
          if passHoles then visitPlaces list passHoles visit rest known
          else
            match ← visit known place .undefined with
            | .inl known => visitPlaces list passHoles visit rest known
            | .inr result => return .inr result
      | some value =>
          match ← visit known place value with
          | .inl known => visitPlaces list passHoles visit rest known
          | .inr result => return .inr result

/-- A function given as an argument. -/
def functionArgument (arguments : List Value) (place : Nat) : Run Value := do
  let f := argument arguments place
  unless ← isCallable f do raise .type "not a function"
  return f

/-- Call a function with each item, its place and the list, and go on with what is made of it. -/
def visitWith (receiver : Value) (arguments : List Value) (passHoles : Bool) (start : α)
    (handle : α → Value → Nat → Value → Run (α ⊕ β)) : Run (α ⊕ β) := do
  let list ← listed inner receiver
  let f ← functionArgument arguments 0
  let this := argument arguments 1
  visitPlaces inner list passHoles (fun known place value => do
    let result ← inner.call f this [value, .ofNat place, list.base]
    handle known value place result) (List.range list.length) start

/-- The result of a visit that has one. -/
def ended (start : β) : α ⊕ β → β
  | .inl _ => start
  | .inr result => result

/-- Combine the items of a list one after the other. -/
def reduceItems (receiver : Value) (arguments : List Value) (fromEnd : Bool) : Run Value := do
  let list ← listed inner receiver
  let f ← functionArgument arguments 0
  let places := if fromEnd then (List.range list.length).reverse else List.range list.length
  let start : Option Value := if 1 < arguments.length then some (argument arguments 1) else none
  let combine (known : Option Value) (place : Nat) (value : Value) :
      Run (Option Value ⊕ Unit) := do
    match known with
    | none => return .inl (some value)
    | some known =>
        return .inl (some (← inner.call f .undefined [known, value, .ofNat place, list.base]))
  match ← visitPlaces inner list true combine places start with
  | .inl (some result) => return result
  | _ => raise .type "empty array"

/-- The first of some places whose item is the same as a value. -/
def placeOfItem (list : Listed) (passHoles : Bool) (isSame : Value → Bool) (places : List Nat) :
    Run (Option Nat) := do
  let visit (_ : Unit) (place : Nat) (value : Value) : Run (Unit ⊕ Nat) :=
    return if isSame value then .inr place else .inl ()
  match ← visitPlaces inner list passHoles visit places () with
  | .inr place => return some place
  | .inl () => return none

/-- A place as a value; minus one stands for none. -/
def placeValue : Option Nat → Value
  | some place => .ofNat place
  | none => .number (-1)

/-- The items of a list as one text. A missing item gives nothing. -/
def joinItems (receiver separator : Value) : Run Value := do
  let list ← listed inner receiver
  let separator ← if separator.isUndefined then pure (Utf16.whole ",") else toText inner separator
  checkSize list.length
  let texts ← (List.range list.length).mapM fun place => do
    let value ← read inner list.base (.index place)
    if value.isMissing then return Utf16.whole "" else toText inner value
  return .text (← checkText (.join separator texts))

/-- Put a value into a sorted list that is held last value first. -/
def insertSorted (isBehind : Value → Value → Run Bool) (value : Value) :
    List Value → Run (List Value)
  | [] => return [value]
  | last :: rest => do
      if ← isBehind last value then return last :: (← insertSorted isBehind value rest)
      else return value :: last :: rest

/-- Merge two sorted lists. `isBehind` says whether the first of two values belongs behind the
second. -/
def mergeSorted (isBehind : Value → Value → Run Bool) :
    Nat → List Value → List Value → List Value → Run (List Value)
  | 0, _, _, known => return known.reverse
  | _ + 1, [], right, known => return known.reverse ++ right
  | _ + 1, left, [], known => return known.reverse ++ left
  | fuel + 1, a :: left, b :: right, known => do
      if ← isBehind a b then mergeSorted isBehind fuel (a :: left) right (b :: known)
      else mergeSorted isBehind fuel left (b :: right) (a :: known)

/-- Sort a list: a short one by insertion, a longer one by halves. Values of which neither belongs
behind the other keep their order. -/
def sortValues (isBehind : Value → Value → Run Bool) : Nat → List Value → Run (List Value)
  | 0, values => return values
  | fuel + 1, values => do
      if values.length ≤ 6 then
        return (← values.foldlM (fun known value => insertSorted isBehind value known) []).reverse
      let half := values.length / 2
      let left ← sortValues isBehind fuel (values.take half)
      let right ← sortValues isBehind fuel (values.drop half)
      mergeSorted isBehind (values.length + 1) left right []

/-- Sort the items of a list: by a function, or by their texts. Undefined items come last, and holes
behind them. -/
def sortItems (receiver : Value) (arguments : List Value) : Run Value := do
  let f := argument arguments 0
  unless f.isUndefined || (← isCallable f) do raise .type "not a function"
  let list ← listed inner receiver
  let items ← itemsAt inner list 0 list.length
  let present := items.toList.filterMap id
  let values := present.filter fun value => !value.isUndefined
  let isBehind (a b : Value) : Run Bool := do
    tick
    if f.isUndefined then return (← toText inner b).precedes (← toText inner a)
    else if a.indistinct b then return false
    else return 0 < (← toNumber inner (← inner.call f .undefined [a, b]))
  let sorted ← sortValues isBehind values.length values
  let missing := List.replicate (present.length - values.length) Value.undefined
  let filled := (sorted ++ missing).map some ++ List.replicate (items.size - present.length) none
  if let .object ref := list.base then
    if ← isArray list.base then
      modifyObject ref fun object => { object with items := filled.toArray }
  return list.base

/-- Replace the items of a list, if it can be changed. -/
def replaceItems (ref : Ref) (items : Array (Option Value)) : Run Unit := do
  unless (← object ref).isExtensible do raise .type "object is not extensible"
  checkSize items.size
  modifyObject ref fun object => { object with items }

/-- Add items behind those of a list. -/
def pushItems (receiver : Value) (arguments : List Value) : Run Value := do
  match receiver with
  | .object ref =>
      if ← isArray receiver then
        let object ← object ref
        unless object.isExtensible do raise .type "object is not extensible"
        checkSize (object.items.size + arguments.length)
        modifyObject ref fun object =>
          { object with
            items := arguments.foldl (fun items value => items.push (some value)) object.items }
        return .ofNat (object.items.size + arguments.length)
      else
        let length ← lengthProperty inner receiver
        for (value, place) in arguments.zipIdx do
          write inner true receiver (.index (length + place)) value
        write inner true receiver "length" (.ofNat (length + arguments.length))
        return .ofNat (length + arguments.length)
  | _ => raise .type "cannot convert to object"

/-- The items of a list that is to be changed. -/
def changedItems (receiver : Value) : Run (Ref × Array (Option Value)) := do
  let list ← listed inner receiver
  let ref ← toObject list.base
  return (ref, ← itemsAt inner list 0 list.length)

/-- Take out items of a list and put others in their place. -/
def spliceItems (receiver : Value) (arguments : List Value) : Run Value := do
  let (ref, items) ← changedItems inner receiver
  let start ← toPlace inner (argument arguments 0) items.size 0
  let count ←
    match arguments.length with
    | 0 => pure 0
    | 1 => pure (items.size - start)
    | _ => do
        pure (← toClamped inner (argument arguments 1) 0 (items.size - start : Nat)).toNat
  let added := ((arguments.drop 2).map some).toArray
  replaceItems ref
    (items.extract 0 start ++ added ++ items.extract (start + count) items.size)
  allocateArray (items.extract start (start + count))

/-- Take the last item away from a list. -/
def popItem (receiver : Value) : Run Value := do
  let (ref, items) ← changedItems inner receiver
  let last := items.back?.join.getD .undefined
  unless (← object ref).isExtensible do raise .type "object is not extensible"
  modifyObject ref fun object => { object with items := object.items.pop }
  return last

/-- The items of a list, nested lists taken apart up to a depth. -/
def flattened : Nat → Value → Run (List Value)
  | 0, value => return [value]
  | depth + 1, value => do
      if ← isArray value then
        let list ← listed inner value
        let parts ← (← itemsAt inner list 0 list.length).toList.mapM fun
          | some item => flattened depth item
          | none => pure []
        return parts.flatten
      else return [value]

/-- What an iterator of a list or a text gives next, as a value and whether there is none. -/
def nextItem (receiver : Value) : Run Value := do
  let step (value : Value) (isDone : Bool) : Run Value :=
    return .object (← allocatePlain [("value", .plain value), ("done", .plain (.bool isDone))])
  match receiver with
  | .object ref =>
      match (← object ref).kind with
      | .iterator subject place kind =>
          match subject with
          | .text t =>
              match t.characters[place]? with
              | some character =>
                  modifyObject ref fun object =>
                    { object with kind := .iterator subject (place + 1) kind }
                  step (.text character) false
              | none => step .undefined true
          | _ =>
              if (← lengthProperty inner subject) ≤ place then
                modifyObject ref fun object => { object with kind := .iterator (.text "") 0 kind }
                step .undefined true
              else
                modifyObject ref fun object =>
                  { object with kind := .iterator subject (place + 1) kind }
                match kind with
                | .keys => step (.ofNat place) false
                | .values => step (← read inner subject (.index place)) false
                | .entries =>
                    step (← allocatePair (.ofNat place) (← read inner subject (.index place))) false
      | _ => raise .type "not an iterator"
  | _ => raise .type "not an iterator"

/-- Make an iterator. -/
def allocateIterator (subject : Value) (kind : IterationKind) : Run Value :=
  return .object (← allocate
    { kind := .iterator subject 0 kind, ancestor := some Intrinsic.iteratorAncestor.ref })

/-- The items of a value that can be gone through, or that has places. -/
def anyItems (subject : Value) : Run (List Value) := do
  let method ← read inner subject (.symbol .iterator)
  if method.isMissing then listedItems inner (.object (← toObject subject))
  else itemsOf inner subject

/-- A list of a function of items. -/
def listOfItems (arguments : List Value) : Run Value := do
  let items ← anyItems inner (argument arguments 0)
  let f := argument arguments 1
  if f.isUndefined then allocateList items
  else
    let f ← functionArgument arguments 1
    let values ← items.zipIdx.mapM fun (value, place) => do
      inner.call f (argument arguments 2) [value, .ofNat place]
    allocateList values

/-- A list of a given length, or of given items. -/
def constructList (arguments : List Value) : Run Value := do
  match arguments with
  | [.number x] =>
      let length ← lengthOf (.number x)
      checkSize length
      allocateArray (Array.replicate length none)
  | items => allocateList items

/-- Call a function of lists. -/
def callArrayFunction (f : ArrayFunction) (receiver : Value) (arguments : List Value) :
    Run Value := do
  let first := argument arguments 0
  let isTrue (_ : Unit) (_ : Value) (_ : Nat) (result : Value) : Run (Unit ⊕ Unit) :=
    return if result.isTruthy then .inr () else .inl ()
  let isFalse (_ : Unit) (_ : Value) (_ : Nat) (result : Value) : Run (Unit ⊕ Unit) :=
    return if result.isTruthy then .inl () else .inr ()
  match f with
  | .construct => constructList arguments
  | .isArray => return .bool (← isArray first)
  | .ofItems => listOfItems inner arguments
  | .ofArguments => allocateList arguments
  | .concat =>
      let parts ← (receiver :: arguments).mapM fun value => do
        if ← isArray value then
          let list ← listed inner value
          itemsAt inner list 0 list.length
        else return #[some value]
      checkSize (parts.foldl (fun total part => total + part.size) 0)
      allocateArray (parts.foldl (· ++ ·) #[])
  | .every =>
      let result ← visitWith inner receiver arguments true () isFalse
      return .bool result.isLeft
  | .some =>
      let result ← visitWith inner receiver arguments true () isTrue
      return .bool result.isRight
  | .fill =>
      let (ref, items) ← changedItems inner receiver
      let start ← toPlace inner (argument arguments 1) items.size 0
      let stop ← toPlace inner (argument arguments 2) items.size items.size
      replaceItems ref (items.extract 0 start ++ Array.replicate (stop - start) (some first) ++
        items.extract (max start stop) items.size)
      return receiver
  | .filter =>
      let keep (known : List Value) (value : Value) (_ : Nat) (result : Value) :
          Run (List Value ⊕ List Value) :=
        return .inl (if result.isTruthy then value :: known else known)
      let result ← visitWith inner receiver arguments true [] keep
      allocateList (result.elim id id).reverse
  | .find =>
      let result ← visitWith inner receiver arguments false () fun _ value _ result =>
        return if result.isTruthy then .inr value else .inl ()
      return ended .undefined result
  | .findIndex =>
      let result ← visitWith inner receiver arguments false () fun _ _ place result =>
        return if result.isTruthy then .inr (Value.ofNat place) else .inl ()
      return ended (.number (-1)) result
  | .flat =>
      let depth ← if first.isUndefined then pure 1 else toClamped inner first 0 1000
      allocateList (← flattened inner (depth.toNat + 1) receiver)
  | .flatMap =>
      let add (known : List (List Value)) (_ : Value) (_ : Nat) (result : Value) :
          Run (List (List Value) ⊕ List (List Value)) := do
        return .inl ((← flattened inner 1 result) :: known)
      let result ← visitWith inner receiver arguments true [] add
      allocateList (result.elim id id).reverse.flatten
  | .forEach =>
      let goOn (_ : Unit) (_ : Value) (_ : Nat) (_ : Value) : Run (Unit ⊕ Unit) := return .inl ()
      discard (visitWith inner receiver arguments true () goOn)
      return .undefined
  | .includes =>
      let list ← listed inner receiver
      let start ← toPlace inner (argument arguments 1) list.length 0
      let places := (List.range list.length).drop start
      return .bool (← placeOfItem inner list false (Value.sameKey first) places).isSome
  | .indexOf =>
      let list ← listed inner receiver
      let start ← toPlace inner (argument arguments 1) list.length 0
      let places := (List.range list.length).drop start
      return placeValue (← placeOfItem inner list true (Value.same first) places)
  | .join => joinItems inner receiver first
  | .lastIndexOf =>
      let list ← listed inner receiver
      let places := (List.range list.length).reverse
      return placeValue (← placeOfItem inner list true (Value.same first) places)
  | .map =>
      let list ← listed inner receiver
      checkSize list.length
      let put (known : Array (Option Value)) (_ : Value) (place : Nat) (result : Value) :
          Run (Array (Option Value) ⊕ Array (Option Value)) :=
        return .inl (known.setIfInBounds place (some result))
      let start := Array.replicate list.length none
      let result ← visitWith inner receiver arguments true start put
      allocateArray (result.elim id id)
  | .pop => popItem inner receiver
  | .push => pushItems inner receiver arguments
  | .reduce => reduceItems inner receiver arguments false
  | .reduceRight => reduceItems inner receiver arguments true
  | .reverse =>
      let (ref, items) ← changedItems inner receiver
      replaceItems ref items.reverse
      return receiver
  | .shift =>
      let (ref, items) ← changedItems inner receiver
      replaceItems ref (items.extract 1 items.size)
      return items[0]?.join.getD .undefined
  | .slice =>
      let list ← listed inner receiver
      let start ← toPlace inner first list.length 0
      let stop ← toPlace inner (argument arguments 1) list.length list.length
      allocateArray (← itemsAt inner list start stop)
  | .sort => sortItems inner receiver arguments
  | .splice => spliceItems inner receiver arguments
  | .toText =>
      let base := Value.object (← toObject receiver)
      let join ← read inner base "join"
      if ← isCallable join then inner.call join base [] else objectText inner base
  | .unshift =>
      let (ref, items) ← changedItems inner receiver
      replaceItems ref ((arguments.map some).toArray ++ items)
      return .ofNat (items.size + arguments.length)
  | .iterator kind => allocateIterator (.object (← toObject receiver)) kind
  | .nextItem => nextItem inner receiver
  | .iteratorItself => return receiver

end BotBench.Script
