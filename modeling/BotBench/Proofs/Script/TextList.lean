import BotBench.Proofs.Number.Whole
import BotBench.Proofs.Script.Run
import BotBench.Script.Conversion

/-! # Lists of values and of texts

A list is recognised as one, and its length and its items are read without calling anything
(`BotBench.Script.ValueList.lengthProperty_run` and `read_run`). Lists of texts are such lists
(`BotBench.Script.TextList.valueList`). -/

namespace BotBench.Script

open Text Run Number

/-- A list of a script that holds some texts and no holes. -/
def TextList (m : Machine) (list : Ref) (texts : List Utf16) : Prop :=
  ∃ object, m.objects[list.index]? = some object ∧ object.kind = .array ∧
    object.items = (texts.map fun text => some (Value.text text)).toArray

/-- The number of items of a list as a script sees it: beyond `2 ^ 53` numbers do not count on. -/
def seenLength (count : Nat) : Nat := (clampedPart (numberOfNat count) 0 (twoTo 53 - 1)).toNat

theorem seenLength_of_lt {count : Nat} (small : count < twoTo 53) : seenLength count = count := by
  rw [seenLength, clampedPart_numberOfNat small]
  rfl

/-- No more items are seen than there are. -/
theorem seenLength_le (count : Nat) : seenLength count ≤ count := by
  by_cases small : count < twoTo 53
  · exact (seenLength_of_lt small).le
  · have most : clampedPart (numberOfNat count) 0 (twoTo 53 - 1) ≤ twoTo 53 - 1 :=
      clampedPart_le _ (by decide)
    rw [seenLength]
    omega

/-- A list of a script that holds some values and no holes. -/
def ValueList (m : Machine) (list : Ref) (values : List Value) : Prop :=
  ∃ object, m.objects[list.index]? = some object ∧ object.kind = .array ∧
    object.items = (values.map some).toArray

variable {inner : Evaluator} {m m' : Machine} {list : Ref} {texts : List Utf16}
  {values : List Value}

namespace ValueList

theorem kind (held : ValueList m list values) : (m.objectAt list).kind = .array := by
  obtain ⟨object, found, isArray, -⟩ := held
  rw [Machine.objectAt_of_get found, isArray]

theorem isArray_run (held : ValueList m list values) :
    (isArray (.object list)).run m = .ok true m := by
  rw [isArray, object_bind_run, held.kind]
  rfl

theorem lengthProperty_run (held : ValueList m list values) :
    (lengthProperty inner (.object list)).run m = .ok (seenLength values.length) m := by
  obtain ⟨object, found, isArray, items⟩ := held
  have own : (m.objectAt list).own? (Key.ofText "length") =
      some { content := .data (.ofNat values.length) object.isExtensible
             isEnumerable := false, isConfigurable := false } := by
    rw [Machine.objectAt_of_get found, Object.own?, isArray, items]
    simp only [listProperty?, List.size_toArray, List.length_map]
    rfl
  rw [lengthProperty, bind_of_ok (read_own own)]
  rfl

theorem own?_index (held : ValueList m list values) {place : Nat} {value : Value}
    (there : values[place]? = some value) :
    ∃ isWritable isConfigurable, (m.objectAt list).own? (.index place) =
      some { content := .data value isWritable, isConfigurable } := by
  obtain ⟨object, found, isArray, items⟩ := held
  refine ⟨object.isExtensible, object.isExtensible, ?_⟩
  rw [Machine.objectAt_of_get found, Object.own?, isArray, items]
  simp [listProperty?, there]

theorem read_run (held : ValueList m list values) {place : Nat} {value : Value}
    (there : values[place]? = some value) :
    (read inner (.object list) (.index place)).run m = .ok value m := by
  obtain ⟨_, _, own⟩ := held.own?_index there
  exact read_own own

end ValueList

namespace TextList

theorem valueList (held : TextList m list texts) : ValueList m list (texts.map .text) := by
  obtain ⟨object, found, isArray, items⟩ := held
  exact ⟨object, found, isArray, by rw [items, List.map_map]; rfl⟩

theorem kind (held : TextList m list texts) : (m.objectAt list).kind = .array := held.valueList.kind

theorem isArray_run (held : TextList m list texts) :
    (isArray (.object list)).run m = .ok true m := held.valueList.isArray_run

theorem lengthProperty_run (held : TextList m list texts) :
    (lengthProperty inner (.object list)).run m = .ok (seenLength texts.length) m := by
  rw [held.valueList.lengthProperty_run, List.length_map]

theorem read_run (held : TextList m list texts) {place : Nat} {text : Utf16}
    (there : texts[place]? = some text) :
    (read inner (.object list) (.index place)).run m = .ok (.text text) m :=
  held.valueList.read_run (by rw [List.getElem?_map, there]; rfl)

theorem congr (held : TextList m list texts)
    (same : m'.objects[list.index]? = m.objects[list.index]?) : TextList m' list texts := by
  obtain ⟨object, found, rest⟩ := held
  exact ⟨object, same.trans found, rest⟩

end TextList

end BotBench.Script
