import BotBench.Script.Value

/-! # Functions that are there from the start

The functions of the language's library and of the host, by name. What they do is said in the
modules of the library and of the sandbox. -/

namespace BotBench.Script

/-- The kinds of errors. -/
inductive ErrorKind
  | error
  | type
  | range
  | reference
  | reading
  | internal
  | evaluation
  | address
  deriving DecidableEq, Repr, Inhabited

/-- The kinds of errors in order. -/
def ErrorKind.all : List ErrorKind :=
  [.error, .type, .range, .reference, .reading, .internal, .evaluation, .address]

/-- The name of a kind of errors. -/
def ErrorKind.name : ErrorKind → String
  | .error => "Error"
  | .type => "TypeError"
  | .range => "RangeError"
  | .reference => "ReferenceError"
  | .reading => "SyntaxError"
  | .internal => "InternalError"
  | .evaluation => "EvalError"
  | .address => "URIError"

/-- The functions of objects and functions. -/
inductive ObjectFunction
  | construct
  | keys
  | values
  | entries
  | assign
  | create
  | freeze
  | isFrozen
  | ancestorOf
  | setAncestorOf
  | defineProperty
  | ownNames
  | ofEntries
  | is
  | hasOwn
  | isAncestorOf
  | isEnumerable
  | toText
  | toLocalText
  | valueOf
  | readAncestor
  | writeAncestor
  | constructFunction
  | functionText
  | call
  | apply
  | bind
  | emptyFunction
  deriving DecidableEq, Repr, Inhabited

/-- What an iterator gives for each item. -/
inductive IterationKind
  | keys
  | values
  | entries
  deriving DecidableEq, Repr, Inhabited

/-- The functions of lists. -/
inductive ArrayFunction
  | construct
  | isArray
  | ofItems
  | ofArguments
  | concat
  | every
  | fill
  | filter
  | find
  | findIndex
  | flat
  | flatMap
  | forEach
  | includes
  | indexOf
  | join
  | lastIndexOf
  | map
  | pop
  | push
  | reduce
  | reduceRight
  | reverse
  | shift
  | slice
  | some
  | sort
  | splice
  | toText
  | unshift
  | iterator (kind : IterationKind)
  | nextItem
  | iteratorItself
  deriving DecidableEq, Repr, Inhabited

/-- The functions of texts. -/
inductive TextFunction
  | construct
  | ofUnits
  | charAt
  | charCodeAt
  | codePointAt
  | concat
  | endsWith
  | includes
  | indexOf
  | lastIndexOf
  | padEnd
  | padStart
  | repeated
  | replace
  | replaceAll
  | slice
  | split
  | startsWith
  | substr
  | substring
  | lower
  | upper
  | trim
  | trimStart
  | trimEnd
  | compare
  | toText
  | characters
  deriving DecidableEq, Repr, Inhabited

/-- The functions of numbers, truth values and symbols, and of arithmetic. -/
inductive NumberFunction
  | construct
  | isFinite
  | isWhole
  | isSafe
  | isNotNumber
  | leadingDecimal
  | leadingWhole
  | convertedFinite
  | convertedNotNumber
  | toText
  | toLocalText
  | fixed
  | valueOf
  | constructBool
  | boolText
  | boolValue
  | constructSymbol
  | symbolText
  | symbolValue
  | symbolDescription
  | abs
  | ceil
  | floor
  | round
  | trunc
  | sign
  | sqrt
  | cbrt
  | exp
  | log
  | log2
  | log10
  | sin
  | cos
  | tan
  | atan
  | atan2
  | max
  | min
  | power
  | random
  deriving DecidableEq, Repr, Inhabited

/-- The functions of collections, promises, errors and plain data. -/
inductive OtherFunction
  | constructError (kind : ErrorKind)
  | errorText
  | constructMap
  | mapGet
  | mapSet
  | mapItems (kind : IterationKind)
  | constructSet
  | setAdd
  | setItems
  | has
  | remove
  | size
  | forEach
  | constructPromise
  | promiseResolve
  | promiseOther
  | promiseThen
  | settle
  | parseData
  | writeData
  deriving DecidableEq, Repr, Inhabited

/-- The functions of the host. -/
inductive HostFunction
  | construct
  | start
  | command
  | on
  | launch
  | stop
  /-- Require the module, whose constructor and keyboards are given. -/
  | require (constructor keyboards : Ref)
  | keyboard
  | inlineKeyboard
  | buttonText
  | buttonCallback
  | buttonAddress
  | buttonApp
  /-- Give a keyboard a method for chained calls. -/
  | addChained (keyboard : Ref)
  /-- A chained call on a keyboard, which gives the keyboard again. -/
  | chained (keyboard : Ref)
  | processOnce
  | processOn
  | print
  | reply
  deriving DecidableEq, Repr, Inhabited

/-- A function that is there from the start. -/
inductive Native
  | object (f : ObjectFunction)
  | array (f : ArrayFunction)
  | text (f : TextFunction)
  | number (f : NumberFunction)
  | other (f : OtherFunction)
  | host (f : HostFunction)
  deriving DecidableEq, Repr, Inhabited

end BotBench.Script
