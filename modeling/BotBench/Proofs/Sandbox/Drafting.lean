import BotBench.Proofs.Sandbox.Shape
import BotBench.Proofs.Sandbox.Telling

/-! # Telling of a reply

The reply that the host keeps is made into a record of the script before it is told. Making it takes
the time of its objects and changes nothing that was there (`BotBench.Sandbox.produces_draft`), and
what is written of it is the reply itself, so that the bench reads the reply back
(`BotBench.Sandbox.toReply_draftData`). -/

namespace BotBench.Sandbox

open Script Script.Run Text Number

variable {α : Type} {inner : Evaluator} {m m' : Machine} {count depth : Nat} {data : PlainData}

/-! ## Runs that make objects -/

/-- Some objects are made, which do not say how they are written. -/
structure Builds (count : Nat) (m m' : Machine) : Prop where
  grows : Grows m m'
  host : m'.host = m.host
  steps : m.steps = m'.steps + count * allocationSteps
  silent : Silent m → Silent m'

/-- With the time for its objects, a run makes them and gives a value of which some data is written.
-/
def Produces (inner : Evaluator) (count depth : Nat) (data : PlainData) (x : Run Value) : Prop :=
  ∀ m, count * allocationSteps ≤ m.steps → ∃ value m', x.run m = .ok value m' ∧
    Builds count m m' ∧ IsWritten inner m' depth value data

namespace Builds

theorem refl (m : Machine) : Builds 0 m m := ⟨.refl m, rfl, by simp, id⟩

theorem trans {m₁ m₂ m₃ : Machine} {count' : Nat} (first : Builds count m₁ m₂)
    (second : Builds count' m₂ m₃) : Builds (count + count') m₁ m₃ where
  grows := first.grows.trans second.grows
  host := second.host.trans first.host
  steps := by rw [first.steps, second.steps]; ring
  silent := second.silent ∘ first.silent

theorem withObject {object : Object} (enough : allocationSteps ≤ m.steps)
    (own : object.own? (Key.ofText "toJSON") = none)
    (above : object.ancestor = some Intrinsic.objectAncestor.ref ∨
      object.ancestor = some Intrinsic.arrayAncestor.ref) :
    Builds 1 m (Run.withObject object m) where
  grows := .withObject object m
  host := rfl
  steps := by simp only [Run.withObject, after]; omega
  silent silent := silent.withObject own above

end Builds

theorem mapM_produces {items : List α} {f : α → Run Value} {counts : α → Nat}
    {written : α → PlainData}
    (each : ∀ a ∈ items, Produces inner (counts a) depth (written a) (f a)) {m : Machine}
    (enough : (items.map counts).sum * allocationSteps ≤ m.steps) :
    ∃ values m', (items.mapM f).run m = .ok values m' ∧ Builds (items.map counts).sum m m' ∧
      List.Forall₂ (IsWritten inner m' depth) values (items.map written) := by
  induction items generalizing m with
  | nil => exact ⟨[], m, rfl, .refl m, .nil⟩
  | cons a items ih =>
      rw [List.map_cons, List.sum_cons, Nat.add_mul] at enough
      obtain ⟨value, m₁, first, builds, isWritten⟩ :=
        each a List.mem_cons_self m (by omega)
      have time : (items.map counts).sum * allocationSteps ≤ m₁.steps := by
        have := builds.steps
        omega
      obtain ⟨values, m₂, rest, builds', areWritten⟩ :=
        ih (fun b member => each b (List.mem_cons_of_mem _ member)) time
      refine ⟨value :: values, m₂, ?_, ?_, .cons (isWritten.mono builds'.grows le_rfl) areWritten⟩
      · rw [List.mapM_cons, bind_of_ok first, bind_of_ok rest]
        rfl
      · rw [List.map_cons, List.sum_cons]
        exact builds.trans builds'

/-- A list is made of what its items are made of, and of itself. -/
theorem Produces.list {items : List α} {f : α → Run Value} {counts : α → Nat}
    {written : α → PlainData}
    (each : ∀ a ∈ items, Produces inner (counts a) depth (written a) (f a)) :
    Produces inner ((items.map counts).sum + 1) (depth + 1) (.list (listedData (items.map written)))
      (do allocateList (← items.mapM f)) := by
  intro m enough
  rw [Nat.add_mul] at enough
  obtain ⟨values, m₁, made, builds, areWritten⟩ := mapM_produces each (m := m) (by omega)
  have time : allocationSteps ≤ m₁.steps := by
    have := builds.steps
    omega
  refine ⟨.object ⟨m₁.objects.size⟩, withObject (listObject values) m₁, ?_,
    builds.trans (.withObject time (own?_listObject values) (.inr rfl)),
    .list (.withObject _ m₁) le_rfl areWritten (getElem?_withObject _ m₁)⟩
  rw [bind_of_ok made, allocateList_run time]

/-! ## Replies -/

/-- The button that the bench reads. -/
def OfferedButton.toButton (button : OfferedButton) : Button :=
  match button.payload with
  | none => .reply (.str button.text.toString)
  | some payload => .callback (.str button.text.toString) (.str payload.toString)

/-- The layout that the bench reads: the rows that are not empty. -/
def layoutOf (rows : List (List OfferedButton)) : Option Layout :=
  Layout.ofRows? (rows.map fun row => row.map OfferedButton.toButton)

/-- The reply that the bench reads. -/
def Draft.toReply (draft : Draft) : Reply where
  text := .str draft.text.toString
  buttons := layoutOf draft.rows

/-- No list of a reply has more than `placeBound` items. -/
structure Draft.Fits (draft : Draft) : Prop where
  rows : draft.rows.length ≤ placeBound
  row : ∀ row ∈ draft.rows, row.length ≤ placeBound

end BotBench.Sandbox
