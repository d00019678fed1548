import BotBench.Script.Closure

/-! # The library: what is there from the start

The objects and functions that a script finds when it starts, each function with its name, the
number of its parameters, and what it is. -/

namespace BotBench.Script

open Text Run

/-- A table of functions: their names, the numbers of their parameters, and what they are. -/
abbrev FunctionTable := List (String × Nat × Native)

/-- The functions of lists. -/
def arrayMethods : FunctionTable :=
  [ ("concat", 1, .array .concat), ("every", 1, .array .every), ("some", 1, .array .some),
    ("forEach", 1, .array .forEach), ("map", 1, .array .map), ("filter", 1, .array .filter),
    ("reduce", 1, .array .reduce), ("reduceRight", 1, .array .reduceRight),
    ("fill", 1, .array .fill), ("find", 1, .array .find), ("findIndex", 1, .array .findIndex),
    ("indexOf", 1, .array .indexOf), ("lastIndexOf", 1, .array .lastIndexOf),
    ("includes", 1, .array .includes), ("join", 1, .array .join), ("toString", 0, .array .toText),
    ("pop", 0, .array .pop), ("push", 1, .array .push), ("shift", 0, .array .shift),
    ("unshift", 1, .array .unshift), ("reverse", 0, .array .reverse), ("sort", 1, .array .sort),
    ("slice", 2, .array .slice), ("splice", 2, .array .splice), ("flatMap", 1, .array .flatMap),
    ("flat", 0, .array .flat), ("values", 0, .array (.iterator .values)),
    ("keys", 0, .array (.iterator .keys)), ("entries", 0, .array (.iterator .entries)) ]

/-- The functions of texts. -/
def textMethods : FunctionTable :=
  [ ("charCodeAt", 1, .text .charCodeAt), ("charAt", 1, .text .charAt),
    ("concat", 1, .text .concat), ("codePointAt", 1, .text .codePointAt),
    ("indexOf", 1, .text .indexOf), ("lastIndexOf", 1, .text .lastIndexOf),
    ("includes", 1, .text .includes), ("endsWith", 1, .text .endsWith),
    ("startsWith", 1, .text .startsWith), ("split", 2, .text .split),
    ("substring", 2, .text .substring), ("substr", 2, .text .substr), ("slice", 2, .text .slice),
    ("repeat", 1, .text .repeated), ("replace", 2, .text .replace),
    ("replaceAll", 2, .text .replaceAll), ("padEnd", 1, .text .padEnd),
    ("padStart", 1, .text .padStart), ("trim", 0, .text .trim), ("trimEnd", 0, .text .trimEnd),
    ("trimStart", 0, .text .trimStart), ("toString", 0, .text .toText),
    ("valueOf", 0, .text .toText), ("toLowerCase", 0, .text .lower),
    ("toUpperCase", 0, .text .upper), ("toLocaleLowerCase", 0, .text .lower),
    ("toLocaleUpperCase", 0, .text .upper), ("localeCompare", 1, .text .compare) ]

/-- The functions of arithmetic. -/
def arithmeticFunctions : FunctionTable :=
  [ ("min", 2, .number .min), ("max", 2, .number .max), ("abs", 1, .number .abs),
    ("floor", 1, .number .floor), ("ceil", 1, .number .ceil), ("round", 1, .number .round),
    ("sqrt", 1, .number .sqrt), ("trunc", 1, .number .trunc), ("sign", 1, .number .sign),
    ("cbrt", 1, .number .cbrt), ("exp", 1, .number .exp), ("log", 1, .number .log),
    ("log2", 1, .number .log2), ("log10", 1, .number .log10), ("sin", 1, .number .sin),
    ("cos", 1, .number .cos), ("tan", 1, .number .tan), ("atan", 1, .number .atan),
    ("atan2", 2, .number .atan2), ("pow", 2, .number .power), ("random", 0, .number .random) ]

/-- The functions of objects in general. -/
def objectFunctions : FunctionTable :=
  [ ("create", 2, .object .create), ("getPrototypeOf", 1, .object .ancestorOf),
    ("setPrototypeOf", 2, .object .setAncestorOf), ("defineProperty", 3, .object .defineProperty),
    ("getOwnPropertyNames", 1, .object .ownNames), ("keys", 1, .object .keys),
    ("values", 1, .object .values), ("entries", 1, .object .entries),
    ("assign", 2, .object .assign), ("freeze", 1, .object .freeze),
    ("isFrozen", 1, .object .isFrozen), ("fromEntries", 1, .object .ofEntries),
    ("is", 2, .object .is) ]

/-- The methods of objects. -/
def objectMethods : FunctionTable :=
  [ ("toString", 0, .object .toText), ("toLocaleString", 0, .object .toLocalText),
    ("valueOf", 0, .object .valueOf), ("hasOwnProperty", 1, .object .hasOwn),
    ("isPrototypeOf", 1, .object .isAncestorOf),
    ("propertyIsEnumerable", 1, .object .isEnumerable) ]

/-- The methods of functions. -/
def functionMethods : FunctionTable :=
  [ ("call", 1, .object .call), ("apply", 2, .object .apply), ("bind", 1, .object .bind),
    ("toString", 0, .object .functionText) ]

/-- The functions of numbers. -/
def numberFunctions : FunctionTable :=
  [ ("parseInt", 2, .number .leadingWhole), ("parseFloat", 1, .number .leadingDecimal),
    ("isNaN", 1, .number .isNotNumber), ("isFinite", 1, .number .isFinite),
    ("isInteger", 1, .number .isWhole), ("isSafeInteger", 1, .number .isSafe) ]

/-- The methods of numbers. -/
def numberMethods : FunctionTable :=
  [ ("toFixed", 1, .number .fixed), ("toString", 1, .number .toText),
    ("toLocaleString", 0, .number .toLocalText), ("valueOf", 0, .number .valueOf) ]

/-- The methods of maps. -/
def mapMethods : FunctionTable :=
  [ ("set", 2, .other .mapSet), ("get", 1, .other .mapGet), ("has", 1, .other .has),
    ("delete", 1, .other .remove), ("forEach", 1, .other .forEach),
    ("values", 0, .other (.mapItems .values)), ("keys", 0, .other (.mapItems .keys)),
    ("entries", 0, .other (.mapItems .entries)) ]

/-- The methods of sets. -/
def setMethods : FunctionTable :=
  [ ("add", 1, .other .setAdd), ("has", 1, .other .has), ("delete", 1, .other .remove),
    ("forEach", 1, .other .forEach), ("values", 0, .other .setItems) ]

/-- The methods of promises. -/
def promiseMethods : FunctionTable :=
  [ ("then", 2, .other .promiseThen), ("catch", 1, .other .promiseThen),
    ("finally", 1, .other .promiseThen) ]

/-- The functions of promises. -/
def promiseFunctions : FunctionTable :=
  [ ("resolve", 1, .other .promiseResolve), ("reject", 1, .other .promiseOther),
    ("all", 1, .other .promiseOther), ("race", 1, .other .promiseOther),
    ("allSettled", 1, .other .promiseOther) ]

/-- Make a function that is there from the start. -/
def allocateNative (name : Utf16) (count : Nat) (f : Native) : Run Value :=
  return .object (← allocate
    { kind := .function (.native f)
      ancestor := some Intrinsic.functionAncestor.ref
      properties := functionProperties count name })

/-- Define the functions of a table. -/
def defineTable (target : Ref) : FunctionTable → Run Unit
  | [] => return
  | (name, count, f) :: rest => do
      define target name (.hidden (← allocateNative name count f))
      defineTable target rest

/-- A property whose value never changes. -/
def Property.constant (value : Value) : Property :=
  { content := .data value false, isEnumerable := false, isConfigurable := false }

/-- Define a function under a symbol. -/
def defineUnderSymbol (target : Ref) (s : Symbol) (name : String) (f : Native) : Run Unit := do
  define target (.symbol s) (.hidden (← allocateNative name 0 f))

/-- Define the name of the kind of an object. -/
def defineTag (target : Ref) (tag : String) : Run Unit :=
  define target (.symbol .toStringTag)
    { content := .data tag false, isEnumerable := false }

/-- Define a property that is read by a function. -/
def defineGetter (target : Ref) (name : String) (f : Native) : Run Unit := do
  let read ← allocateNative (.whole ("get " ++ name)) 0 f
  define target name { content := .accessor (some read) none, isEnumerable := false }

/-- Make a constructor of what has an ancestor, and define it for all scripts. -/
def defineConstructor (name : String) (count : Nat) (f : Native) (ancestor : Ref) : Run Ref := do
  let constructor ← toRef (← allocateNative name count f)
  define constructor "prototype" (.constant (.object ancestor))
  define ancestor "constructor" (.hidden (.object constructor))
  define Intrinsic.global.ref name (.hidden (.object constructor))
  return constructor
where
  /-- The reference that a value is. -/
  toRef : Value → Run Ref
    | .object ref => return ref
    | _ => return default

/-- Make an object of functions, and define it for all scripts. -/
def defineCollection (name : String) (table : FunctionTable) : Run Ref := do
  let ref ← allocatePlain []
  defineTable ref table
  defineTag ref name
  define Intrinsic.global.ref name (.hidden (.object ref))
  return ref

/-- An intrinsic object before it gets its properties. -/
def bareIntrinsic : Intrinsic → Object
  | .objectAncestor => { ancestor := none }
  | .functionAncestor =>
      { kind := .function (.native (.object .emptyFunction))
        ancestor := some Intrinsic.objectAncestor.ref
        properties := functionProperties 0 "" }
  | .arrayAncestor => { kind := .array, ancestor := some Intrinsic.objectAncestor.ref }
  | .textAncestor => { kind := .boxed "", ancestor := some Intrinsic.objectAncestor.ref }
  | .numberAncestor => { kind := .boxed (.number 0), ancestor := some Intrinsic.objectAncestor.ref }
  | .boolAncestor =>
      { kind := .boxed (.bool false), ancestor := some Intrinsic.objectAncestor.ref }
  | .errorAncestor .error => { ancestor := some Intrinsic.objectAncestor.ref }
  | .errorAncestor _ => { ancestor := some (Intrinsic.errorAncestor .error).ref }
  | _ => { ancestor := some Intrinsic.objectAncestor.ref }

/-- Define what belongs to objects and functions. -/
def defineObjects : Run Unit := do
  let object := Intrinsic.objectAncestor.ref
  let constructor ← defineConstructor "Object" 1 (.object .construct) object
  defineTable constructor objectFunctions
  defineTable object objectMethods
  define object "__proto__"
    { content := .accessor (some (← allocateNative "get __proto__" 0 (.object .readAncestor)))
        (some (← allocateNative "set __proto__" 1 (.object .writeAncestor)))
      isEnumerable := false }
  let function := Intrinsic.functionAncestor.ref
  discard (defineConstructor "Function" 1 (.object .constructFunction) function)
  defineTable function functionMethods

/-- Define what belongs to the kinds of errors. -/
def defineErrors : List ErrorKind → Run Unit
  | [] => return
  | kind :: rest => do
      let ancestor := (Intrinsic.errorAncestor kind).ref
      discard (defineConstructor kind.name 1 (.other (.constructError kind)) ancestor)
      define ancestor "name" (.hidden kind.name)
      define ancestor "message" (.hidden "")
      defineErrors rest

/-- Define what belongs to lists and to iterators. -/
def defineLists : Run Unit := do
  let list := Intrinsic.arrayAncestor.ref
  let constructor ← defineConstructor "Array" 1 (.array .construct) list
  defineTable constructor
    [("isArray", 1, .array .isArray), ("from", 1, .array .ofItems), ("of", 0, .array .ofArguments)]
  defineTable list arrayMethods
  defineUnderSymbol list .iterator "values" (.array (.iterator .values))
  let iterator := Intrinsic.iteratorAncestor.ref
  defineTable iterator [("next", 0, .array .nextItem)]
  defineUnderSymbol iterator .iterator "[Symbol.iterator]" (.array .iteratorItself)
  defineTag iterator "Array Iterator"

/-- Define what belongs to texts. -/
def defineTexts : Run Unit := do
  let text := Intrinsic.textAncestor.ref
  let constructor ← defineConstructor "String" 1 (.text .construct) text
  defineTable constructor [("fromCharCode", 1, .text .ofUnits)]
  defineTable text textMethods
  defineUnderSymbol text .iterator "[Symbol.iterator]" (.text .characters)

/-- Define what belongs to numbers. -/
def defineNumbers : Run Unit := do
  let global := Intrinsic.global.ref
  let number := Intrinsic.numberAncestor.ref
  let constructor ← defineConstructor "Number" 1 (.number .construct) number
  defineTable constructor numberFunctions
  for (name, x) in [("MAX_VALUE", Float.ofBits 0x7FEFFFFFFFFFFFFF), ("MIN_VALUE", Float.ofBits 1),
      ("NaN", notANumber), ("NEGATIVE_INFINITY", -infinity), ("POSITIVE_INFINITY", infinity),
      ("EPSILON", Float.ofBits 0x3CB0000000000000), ("MAX_SAFE_INTEGER", 9007199254740991),
      ("MIN_SAFE_INTEGER", -9007199254740991)] do
    define constructor (Key.ofText (.whole name)) (.constant (.number x))
  defineTable number numberMethods
  defineTable global
    [ ("parseInt", 2, .number .leadingWhole), ("parseFloat", 1, .number .leadingDecimal),
      ("isNaN", 1, .number .convertedNotNumber), ("isFinite", 1, .number .convertedFinite) ]
  define global "Infinity" (.constant (.number infinity))
  define global "NaN" (.constant (.number notANumber))
  let arithmetic ← defineCollection "Math" arithmeticFunctions
  for (name, x) in [("E", Float.ofBits 0x4005BF0A8B145769),
      ("LN10", Float.ofBits 0x40026BB1BBB55516),
      ("LN2", Float.ofBits 0x3FE62E42FEFA39EF), ("LOG2E", Float.ofBits 0x3FF71547652B82FE),
      ("LOG10E", Float.ofBits 0x3FDBCB7B1526E50E), ("PI", Float.ofBits 0x400921FB54442D18),
      ("SQRT1_2", Float.ofBits 0x3FE6A09E667F3BCD), ("SQRT2", Float.ofBits 0x3FF6A09E667F3BCD)] do
    define arithmetic (Key.ofText (.whole name)) (.constant (.number x))

/-- Define what belongs to truth values and symbols. -/
def defineSymbols : Run Unit := do
  let bool := Intrinsic.boolAncestor.ref
  discard (defineConstructor "Boolean" 1 (.number .constructBool) bool)
  defineTable bool [("toString", 0, .number .boolText), ("valueOf", 0, .number .boolValue)]
  let symbol := Intrinsic.symbolAncestor.ref
  let constructor ← defineConstructor "Symbol" 0 (.number .constructSymbol) symbol
  for (name, s) in [("iterator", Symbol.iterator), ("toPrimitive", Symbol.toPrimitive),
      ("toStringTag", Symbol.toStringTag), ("hasInstance", Symbol.hasInstance),
      ("asyncIterator", Symbol.asyncIterator)] do
    define constructor (Key.ofText (.whole name)) (.constant (.symbol s))
  defineTable symbol [("toString", 0, .number .symbolText), ("valueOf", 0, .number .symbolValue)]
  defineGetter symbol "description" (.number .symbolDescription)
  defineTag symbol "Symbol"

/-- Define what belongs to collections, promises and plain data. -/
def defineOthers : Run Unit := do
  let map := Intrinsic.mapAncestor.ref
  discard (defineConstructor "Map" 0 (.other .constructMap) map)
  defineTable map mapMethods
  defineGetter map "size" (.other .size)
  defineUnderSymbol map .iterator "entries" (.other (.mapItems .entries))
  defineTag map "Map"
  let set := Intrinsic.setAncestor.ref
  discard (defineConstructor "Set" 0 (.other .constructSet) set)
  defineTable set setMethods
  defineGetter set "size" (.other .size)
  defineUnderSymbol set .iterator "values" (.other .setItems)
  defineTag set "Set"
  let promise := Intrinsic.promiseAncestor.ref
  let constructor ← defineConstructor "Promise" 1 (.other .constructPromise) promise
  defineTable constructor promiseFunctions
  defineTable promise promiseMethods
  defineTag promise "Promise"
  discard (defineCollection "JSON"
    [("parse", 2, .other .parseData), ("stringify", 3, .other .writeData)])

/-- Define all that scripts find when they start. -/
def defineLibrary : Run Unit := do
  for intrinsic in Intrinsic.all do discard (allocate (bareIntrinsic intrinsic))
  let global := Intrinsic.global.ref
  define global "undefined" (.constant .undefined)
  define global "globalThis" (.hidden (.object global))
  defineObjects
  defineErrors ErrorKind.all
  define (Intrinsic.errorAncestor .error).ref "toString"
    (.hidden (← allocateNative "toString" 0 (.other .errorText)))
  defineLists
  defineTexts
  defineNumbers
  defineSymbols
  defineOthers

/-- The machine with the library, which takes less time and memory than there is. -/
def Machine.library : Machine :=
  let bare : Machine := { steps := 1000000, memory := 1000000 }
  match defineLibrary.run bare with
  | .ok _ machine => machine
  | .error _ machine => machine

/-- The machine before a script starts. -/
def Machine.start (steps memory : Nat) : Machine := { Machine.library with steps, memory }

end BotBench.Script
