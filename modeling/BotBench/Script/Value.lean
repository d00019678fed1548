import BotBench.Text.Utf16
import BotBench.Script.Numeral

/-! # Values of scripts

A value is plain, or a reference to an object that the machine keeps. Properties are found by keys:
places of lists, names, and symbols. A text that is the decimal form of a place is that place, so
each key has one form. -/

namespace BotBench.Script

open Number Text

/-- A reference to an object. -/
structure Ref where
  index : Nat
  deriving DecidableEq, Repr, Inhabited

/-- A symbol: a key that no text is. -/
structure Symbol where
  id : Nat
  description : Option Utf16
  deriving DecidableEq, Repr, Inhabited

/-- A value. -/
inductive Value
  | undefined
  | null
  | bool (b : Bool)
  | number (x : Float)
  | text (t : Utf16)
  | symbol (s : Symbol)
  | object (ref : Ref)
  deriving Repr, Inhabited

/-- The key of a property. -/
inductive Key
  | index (place : Nat)
  | name (name : Utf16)
  | symbol (s : Symbol)
  deriving DecidableEq, Repr, Inhabited

/-- The bound of the places of a list. -/
def placeBound : Nat := twoTo 32 - 1

/-- The place that a text is the decimal form of. -/
def placeOfText? (text : String) : Option Nat :=
  if text.isEmpty || !text.front.isDigit || 10 < text.length then none
  else
    match text.toNat? with
    | some place => if toString place == text && place < placeBound then some place else none
    | none => none

namespace Key

/-- The key of a text. -/
def ofText : Utf16 → Key
  | .whole text =>
      match placeOfText? text with
      | some place => .index place
      | none => .name (.whole text)
  | t => .name t

instance : Coe String Key := ⟨fun text => ofText (.whole text)⟩

/-- The text of a key that is not a symbol. -/
def text? : Key → Option Utf16
  | .index place => some (.whole (toString place))
  | .name word => some word
  | .symbol _ => none

/-- A key as messages show it. -/
def shown : Key → String
  | .index place => toString place
  | .name word => word.toString
  | .symbol s => (s.description.getD (.whole "")).toString

/-- A key as a value. -/
def toValue : Key → Value
  | .symbol s => .symbol s
  | key => .text (key.text?.getD (.whole ""))

end Key

namespace Symbol

/-- The symbol under which an object keeps the way to go through its items. -/
def iterator : Symbol := ⟨0, some "Symbol.iterator"⟩

/-- The symbol under which an object keeps the way to a plain value. -/
def toPrimitive : Symbol := ⟨1, some "Symbol.toPrimitive"⟩

/-- The symbol under which an object keeps the name of its kind. -/
def toStringTag : Symbol := ⟨2, some "Symbol.toStringTag"⟩

/-- The symbol under which a class keeps the test for its instances. -/
def hasInstance : Symbol := ⟨3, some "Symbol.hasInstance"⟩

/-- The symbol under which an object keeps the way to go through its items while waiting. -/
def asyncIterator : Symbol := ⟨4, some "Symbol.asyncIterator"⟩

/-- The number of symbols that are there from the start. -/
def wellKnownCount : Nat := 5

/-- A symbol as text. -/
def shown (s : Symbol) : Utf16 :=
  .concat ["Symbol(", s.description.getD "", ")"]

end Symbol

namespace Value

instance : Coe String Value := ⟨fun text => .text (.whole text)⟩

/-- A natural as a value. -/
def ofNat (n : Nat) : Value := .number (numberOfNat n)

/-- Whether a value counts as true. -/
def isTruthy : Value → Bool
  | .undefined | .null => false
  | .bool b => b
  | .number x => !(x.isNaN || x == 0)
  | .text t => !t.isEmpty
  | .symbol _ | .object _ => true

/-- Whether a value is missing. -/
def isMissing : Value → Bool
  | .undefined | .null => true
  | _ => false

/-- Whether a value is `undefined`. -/
def isUndefined : Value → Bool
  | .undefined => true
  | _ => false

/-- Whether a value is a reference to an object. -/
def isObject : Value → Bool
  | .object _ => true
  | _ => false

/-- The reference that a value is. -/
def ref? : Value → Option Ref
  | .object ref => some ref
  | _ => none

/-- Whether two values are the same. Numbers are compared as numbers: no number is not the same as
itself, and the zeros are the same. -/
def same : Value → Value → Bool
  | .undefined, .undefined => true
  | .null, .null => true
  | .bool a, .bool b => a == b
  | .number x, .number y => x == y
  | .text s, .text t => s == t
  | .symbol s, .symbol t => s == t
  | .object a, .object b => a == b
  | _, _ => false

/-- Whether two values are the same as keys of a map: no number is the same as itself. -/
def sameKey : Value → Value → Bool
  | .number x, .number y => x == y || (x.isNaN && y.isNaN)
  | a, b => same a b

/-- Whether two values cannot be told apart: unlike as keys, the zeros differ. -/
def indistinct : Value → Value → Bool
  | .number x, .number y => (x.isNaN && y.isNaN) || (x == y && isNegative x == isNegative y)
  | a, b => same a b

end Value

end BotBench.Script
