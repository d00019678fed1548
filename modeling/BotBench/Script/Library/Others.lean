import BotBench.Json.Reader
import BotBench.Script.Library.Lists
import BotBench.Script.PlainData

/-! # The library: collections, promises, errors and plain data

What the functions of `Map`, `Set`, `Promise`, `JSON` and of errors do. What is put off by a promise
is never done, because the run of a bot ends before. -/

namespace BotBench.Script

open Text Run

variable (inner : Evaluator)

/-- Put an entry into a list of entries, in the place of the one with its key. -/
def putEntry (key value : Value) : List (Value × Value) → List (Value × Value)
  | [] => [(key, value)]
  | entry :: rest =>
      if entry.1.sameKey key then (entry.1, value) :: rest else entry :: putEntry key value rest

/-- Put an item into a list of items, unless it is there. -/
def putItemOnce (item : Value) (items : List Value) : List Value :=
  if items.any (Value.sameKey item) then items else items ++ [item]

/-- The entries of a map. -/
def entriesOf (receiver : Value) : Run (Ref × List (Value × Value)) := do
  match receiver with
  | .object ref =>
      match (← object ref).kind with
      | .map entries => return (ref, entries)
      | _ => raise .type "not a Map"
  | _ => raise .type "not a Map"

/-- The items of a set. -/
def membersOf (receiver : Value) : Run (Ref × List Value) := do
  match receiver with
  | .object ref =>
      match (← object ref).kind with
      | .set items => return (ref, items)
      | _ => raise .type "not a Set"
  | _ => raise .type "not a Set"

/-- The entries of a map, or the items of a set as entries. -/
def anyEntries (receiver : Value) : Run (List (Value × Value)) := do
  match receiver with
  | .object ref =>
      match (← object ref).kind with
      | .map entries => return entries
      | .set items => return items.map fun item => (item, item)
      | _ => raise .type "not a Map"
  | _ => raise .type "not a Map"

/-- What an iterator over entries gives for one of them. -/
def entryPart (kind : IterationKind) (entry : Value × Value) : Run Value :=
  match kind with
  | .keys => return entry.1
  | .values => return entry.2
  | .entries => allocatePair entry.1 entry.2

/-- Make an iterator over what is in a map or a set now. -/
def iterateEntries (kind : IterationKind) (entries : List (Value × Value)) : Run Value := do
  allocateIterator (← allocateList (← entries.mapM (entryPart kind))) .values

/-- Go through the entries of a map or a set with a function. -/
def forEachEntry (f this receiver : Value) : List (Value × Value) → Run Unit
  | [] => return
  | (key, value) :: rest => do
      discard (inner.call f this [value, key, receiver])
      forEachEntry f this receiver rest

/-- Make an error of a kind with the ancestor that is asked for. -/
def makeError (ancestor : Ref) (message : Value) : Run Value := do
  let known ←
    if message.isUndefined then pure []
    else do pure [(Key.ofText "message", Property.hidden (.text (← toText inner message)))]
  return .object (← allocate
    { kind := .error, ancestor := some ancestor
      properties := known ++ [(Key.ofText "stack", .hidden "")] })

/-- An error as text: its name and its message, and a colon between them if neither is empty. -/
def errorText (receiver : Value) : Run Value := do
  unless receiver.isObject do raise .type "not an object"
  let name ← match ← read inner receiver "name" with
    | .undefined => pure (Utf16.whole "Error")
    | name => toText inner name
  let message ← match ← read inner receiver "message" with
    | .undefined => pure (Utf16.whole "")
    | message => toText inner message
  if name.isEmpty then return .text message
  else if message.isEmpty then return .text name
  else return .text (.concat [name, ": ", message])

/-- The promise that a value is, if it is one. -/
def isPromise (value : Value) : Run Bool := do
  match value with
  | .object ref =>
      match (← object ref).kind with
      | .promise => return true
      | _ => return false
  | _ => return false

/-- A promise of a value: the value itself if it is a promise. -/
def promiseOf (value : Value) : Run Value := do
  if ← isPromise value then return value else allocatePromise

/-- Make a map of entries. -/
def fillMap (entries : Value) : Run (List (Value × Value)) := do
  if entries.isMissing then return []
  let items ← itemsOf inner entries
  items.foldlM (fun known item => do
    unless item.isObject do raise .type "not an object"
    let key ← read inner item (.index 0)
    return putEntry key (← read inner item (.index 1)) known) []

/-- Make a set of items. -/
def fillSet (items : Value) : Run (List Value) := do
  if items.isMissing then return []
  return (← itemsOf inner items).foldl (fun known item => putItemOnce item known) []

/-- Make a promise by a function, which is called at once. What it throws is kept in the promise. -/
def makePromise (ancestor : Ref) (executor : Value) : Run Value := do
  unless ← isCallable executor do raise .type "not a function"
  let settle ← (List.range 2).mapM fun _ => do
    return Value.object (← allocate
      { kind := .function (.native (.other .settle))
        ancestor := some Intrinsic.functionAncestor.ref
        properties := functionProperties 1 "" })
  tryCatch (discard (inner.call executor .undefined settle)) fun
    | .thrown _ => pure ()
    | other => throw other
  return .object (← allocate { kind := .promise, ancestor := some ancestor })

/-- Put a property of an object through a function, after the properties inside of it. What becomes
undefined is taken away. -/
def revise (f : Value) : Nat → Value → Key → Run Value
  | 0, _, _ => stackOverflow
  | fuel + 1, holder, key => do
      let value ← read inner holder key
      if let .object ref := value then
        for inside in ← listedKeys ref do
          match ← revise f fuel value inside with
          | .undefined => discard (deleteProperty ref inside)
          | revised => defineValue ref inside revised
      inner.call f holder [key.toValue, value]

/-- Read a text of plain data, and revise it if a function is given. -/
def parseData (value reviser : Value) : Run Value := do
  let text ← toText inner value
  match Json.parsePlain? text.toString with
  | some data =>
      let read ← valueOfJson data
      if ← isCallable reviser then
        let holder ← allocatePlain [(Key.ofText "", .plain read)]
        revise inner reviser 1000 (.object holder) (Key.ofText "")
      else return read
  | none => raise .reading "unexpected token"

/-- Call a function of collections, promises, errors or plain data. -/
def callOtherFunction (f : OtherFunction) (receiver : Value) (arguments : List Value) :
    Run Value := do
  let first := argument arguments 0
  let second := argument arguments 1
  match f with
  | .constructError kind => makeError inner (Intrinsic.errorAncestor kind).ref first
  | .errorText => errorText inner receiver
  | .constructMap | .constructSet | .constructPromise =>
      raise .type "must be called with new"
  | .mapGet =>
      let (_, entries) ← entriesOf receiver
      return ((entries.find? fun entry => entry.1.sameKey first).map (·.2)).getD .undefined
  | .mapSet =>
      let (ref, entries) ← entriesOf receiver
      modifyObject ref fun object => { object with kind := .map (putEntry first second entries) }
      return receiver
  | .mapItems kind => iterateEntries kind (← entriesOf receiver).2
  | .setAdd =>
      let (ref, items) ← membersOf receiver
      modifyObject ref fun object => { object with kind := .set (putItemOnce first items) }
      return receiver
  | .setItems => iterateEntries .values (← anyEntries receiver)
  | .has => return .bool ((← anyEntries receiver).any fun entry => entry.1.sameKey first)
  | .remove =>
      let entries ← anyEntries receiver
      let isThere := entries.any fun entry => entry.1.sameKey first
      if let .object ref := receiver then
        modifyObject ref fun object =>
          { object with
            kind := match object.kind with
              | .map entries => .map (entries.filter fun entry => !entry.1.sameKey first)
              | .set items => .set (items.filter fun item => !item.sameKey first)
              | kind => kind }
      return .bool isThere
  | .size => return .ofNat (← anyEntries receiver).length
  | .forEach =>
      let f ← functionArgument arguments 0
      forEachEntry inner f second receiver (← anyEntries receiver)
      return .undefined
  | .promiseResolve => promiseOf first
  | .promiseOther => allocatePromise
  | .promiseThen =>
      unless ← isPromise receiver do raise .type "not an object"
      allocatePromise
  | .settle => return .undefined
  | .parseData => parseData inner first second
  | .writeData => writeData inner arguments

end BotBench.Script
