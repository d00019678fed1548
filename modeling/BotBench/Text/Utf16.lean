/-! # Text in 16-bit units

Scripts see text as a sequence of 16-bit units: a character beyond the basic plane counts twice, and
it may be cut in half. `Utf16` keeps text without cut characters as a `String` and all other text as
its units, so each sequence of units has one form. -/

namespace BotBench.Text

/-- Text as a sequence of 16-bit units. -/
inductive Utf16
  | whole (text : String)
  /-- Text with a cut character. -/
  | cut (units : List UInt16)
  deriving DecidableEq, Repr, Inhabited

namespace Utf16

instance : Coe String Utf16 := ⟨.whole⟩

/-- The units of a character. -/
def unitsOfChar (c : Char) : List UInt16 :=
  let code := c.toNat
  if code < 0x10000 then [.ofNat code]
  else [.ofNat (0xD800 + (code - 0x10000) / 0x400), .ofNat (0xDC00 + (code - 0x10000) % 0x400)]

/-- Whether a unit is the first half of a character. -/
def isHighHalf (unit : UInt16) : Bool := 0xD800 ≤ unit && unit ≤ 0xDBFF

/-- Whether a unit is the second half of a character. -/
def isLowHalf (unit : UInt16) : Bool := 0xDC00 ≤ unit && unit ≤ 0xDFFF

/-- The character of two halves. -/
def charOfHalves (high low : UInt16) : Char :=
  Char.ofNat (0x10000 + (high.toNat - 0xD800) * 0x400 + (low.toNat - 0xDC00))

/-- What a sequence of units is made of: characters, and halves that stand alone. `known` holds the
pieces found before, the last one first. -/
def piecesFrom (known : List (Char ⊕ UInt16)) : List UInt16 → List (Char ⊕ UInt16)
  | [] => known.reverse
  | [unit] =>
      let piece :=
        if isHighHalf unit || isLowHalf unit then .inr unit else .inl (Char.ofNat unit.toNat)
      (piece :: known).reverse
  | unit :: next :: rest =>
      if isHighHalf unit && isLowHalf next then
        piecesFrom (.inl (charOfHalves unit next) :: known) rest
      else if isHighHalf unit || isLowHalf unit then piecesFrom (.inr unit :: known) (next :: rest)
      else piecesFrom (.inl (Char.ofNat unit.toNat) :: known) (next :: rest)

/-- What a sequence of units is made of: characters, and halves that stand alone. -/
def pieces (units : List UInt16) : List (Char ⊕ UInt16) := piecesFrom [] units

/-- The text of a sequence of units. -/
def ofUnits (units : List UInt16) : Utf16 :=
  let parts := pieces units
  if parts.all Sum.isLeft then .whole (String.ofList (parts.filterMap Sum.getLeft?)) else .cut units

/-- The units of a text. -/
def units : Utf16 → List UInt16
  | .whole text => text.toList.flatMap unitsOfChar
  | .cut units => units

/-- The number of units. -/
def length : Utf16 → Nat
  | .whole text => text.foldl (fun n c => if c.toNat < 0x10000 then n + 1 else n + 2) 0
  | .cut units => units.length

/-- How large a text is: its bytes, or its units if a character is cut. There are never more units
than that. -/
def size : Utf16 → Nat
  | .whole text => text.utf8ByteSize
  | .cut units => units.length

/-- Whether a text has no units. -/
def isEmpty : Utf16 → Bool
  | .whole text => text.isEmpty
  | .cut units => units.isEmpty

/-- One text behind another. Halves that meet become a character. -/
def append : Utf16 → Utf16 → Utf16
  | .whole a, .whole b => .whole (a ++ b)
  | a, b => ofUnits (a.units ++ b.units)

instance : Append Utf16 := ⟨append⟩

/-- The characters of a text that is not cut. -/
def whole? : Utf16 → Option String
  | .whole text => some text
  | .cut _ => none

/-- The text of a number of texts. -/
def concat (texts : List Utf16) : Utf16 :=
  match texts.mapM whole? with
  | some parts => .whole (String.join parts)
  | none => ofUnits (texts.flatMap units)

/-- A text a number of times. -/
def replicate (text : Utf16) (count : Nat) : Utf16 := count.repeat (· ++ text) (.whole "")

/-- Texts with a separator between them. -/
def join (separator : Utf16) (texts : List Utf16) : Utf16 := concat (texts.intersperse separator)

/-- Whether all characters are single bytes, so that units and bytes have the same places. -/
def isNarrow (text : String) : Bool := text.length == text.utf8ByteSize

/-- The units from one place up to another. -/
def slice (text : Utf16) (start stop : Nat) : Utf16 :=
  match text with
  | .whole text =>
      if isNarrow text then .whole (String.Pos.Raw.extract text ⟨start⟩ ⟨stop⟩)
      else ofUnits (((Utf16.whole text).units.drop start).take (stop - start))
  | .cut units => ofUnits ((units.drop start).take (stop - start))

/-- The unit at a place. -/
def unit? : Utf16 → Nat → Option UInt16
  | .whole text, place =>
      if isNarrow text then
        (String.Pos.Raw.get? text ⟨place⟩).map fun c => .ofNat c.toNat
      else (Utf16.whole text).units[place]?
  | .cut units, place => units[place]?

/-- The text of one unit. -/
def ofUnit (unit : UInt16) : Utf16 := ofUnits [unit]

/-- The texts of the characters, a half that stands alone counting as one. -/
def characters (text : Utf16) : List Utf16 :=
  match text with
  | .whole text => text.toList.map fun c => .whole (String.singleton c)
  | .cut units => (pieces units).map fun
    | .inl c => .whole (String.singleton c)
    | .inr unit => .cut [unit]

/-- The text as characters, the replacement character standing for a half that stands alone. -/
def toString : Utf16 → String
  | .whole text => text
  | .cut units => String.ofList ((pieces units).map fun
    | .inl c => c
    | .inr _ => Char.ofNat 0xFFFD)

/-- The units changed character by character. -/
def mapChars (change : Char → List Char) : Utf16 → Utf16
  | .whole text => .whole (String.ofList (text.toList.flatMap change))
  | .cut units => ofUnits ((pieces units).flatMap fun
    | .inl c => (change c).flatMap unitsOfChar
    | .inr unit => [unit])

/-- Whether the units of one list stand at the start of another. -/
def startsAt (part whole : List UInt16) : Bool := part.isPrefixOf whole

/-- The first place, counted from `place`, at which the units of `part` stand in a list. -/
def findFrom (part : List UInt16) : List UInt16 → Nat → Option Nat
  | [], place => if part.isEmpty then some place else none
  | unit :: rest, place =>
      if startsAt part (unit :: rest) then some place else findFrom part rest (place + 1)

/-- The first place at or behind `start` at which a text stands in another. -/
def find? (text part : Utf16) (start : Nat) : Option Nat :=
  findFrom part.units (text.units.drop start) start

/-- The last place at which the units of `part` stand in a list, not behind `limit`. -/
def findLast? (text part : Utf16) (limit : Nat) : Option Nat :=
  let units := text.units
  let sought := part.units
  (List.range (min limit units.length + 1)).reverse.find? fun place =>
    startsAt sought (units.drop place)

/-- The places at which the units of `part` stand in a list, one behind the other. `skip` units are
passed over first, `place` is the place of the list, and `known` holds the places found before, the
last one first. -/
def placesFrom (part : List UInt16) (known : List Nat) : Nat → Nat → List UInt16 → List Nat
  | _, place, [] => if part.isEmpty then (place :: known).reverse else known.reverse
  | skip + 1, place, _ :: rest => placesFrom part known skip (place + 1) rest
  | 0, place, unit :: rest =>
      if startsAt part (unit :: rest) then
        placesFrom part (place :: known) (part.length - 1) (place + 1) rest
      else placesFrom part known 0 (place + 1) rest

/-- The places at which a text stands in another, one behind the other. -/
def places (text part : Utf16) : List Nat := placesFrom part.units [] 0 0 text.units

/-- The pieces of a list of units between the places at which `part`, which is not empty, stands.
`skip` units are passed over first; `current` holds the units of the piece at hand and `known` the
pieces before it, the last ones first. -/
def cutFrom (part current : List UInt16) (known : List Utf16) : Nat → List UInt16 → List Utf16
  | _, [] => (ofUnits current.reverse :: known).reverse
  | skip + 1, _ :: rest => cutFrom part current known skip rest
  | 0, unit :: rest =>
      if startsAt part (unit :: rest) then
        cutFrom part [] (ofUnits current.reverse :: known) (part.length - 1) rest
      else cutFrom part (unit :: current) known 0 rest

/-- The pieces of a text between the places at which another stands; an empty one stands between all
units. -/
def split (text separator : Utf16) : List Utf16 :=
  if separator.isEmpty then text.units.map ofUnit
  else cutFrom separator.units [] [] 0 text.units

/-- The order of texts by their units. -/
def precedes (a b : Utf16) : Bool := a.units < b.units

/-- The memory that a text takes: a byte for each unit if all units fit in a byte, else two. -/
def memory (text : Utf16) : Nat :=
  match text with
  | .whole text =>
      let (units, wide) := text.foldl (fun (n, wide) c =>
        (if c.toNat < 0x10000 then n + 1 else n + 2, wide || 0xFF < c.toNat)) (0, false)
      if wide then 2 * units else units
  | .cut units => 2 * units.length

end Utf16

end BotBench.Text
