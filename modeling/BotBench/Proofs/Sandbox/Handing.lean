import BotBench.Proofs.Sandbox.Course

/-! # The layout of a keyboard

A handler hands rows of buttons to its reply in an object of its own or in a keyboard that the
module makes. The layout of the reply that the bench reads depends on the rows alone
(`BotBench.Sandbox.simulate_rows`). -/

namespace BotBench.Sandbox

open Script Script.Run Text

variable {m : Machine} {value : Value} {items : List Datum} {text : Datum} {settings : Settings}
  {source token message : String}

/-- Some rows reach a reply: in an object of the script, under one of two names, which may be
wrapped under a third; or in a keyboard that the module has made and that is left as it is. -/
inductive Handed (items : List Datum) (m : Machine) (value : Value) : Prop
  | object {extra : Datum} : Holds m extra value → Carries items extra → Handed items m value
  | markup {before : Machine} : IsMarkup items before value →
      (∀ datum, Holds before datum value → Holds m datum value) → Handed items m value

/-- However the rows are handed over, they are data with the rows. -/
theorem Handed.holds (handed : Handed items m value) :
    ∃ extra, Holds m extra value ∧ Carries items extra := by
  cases handed with
  | object held carries => exact ⟨_, held, carries⟩
  | markup isMarkup left =>
      obtain ⟨extra, held, carries⟩ := isMarkup.holds
      exact ⟨extra, left extra held, carries⟩

end BotBench.Sandbox
