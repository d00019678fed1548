import BotBench.Script.Machine

/-! # Evaluators

What is nested in a run is done one level deeper: an `Evaluator` holds the operations of one level,
and each operation of the next level is made from them. The number of levels is the depth to which a
script may nest its calls. -/

namespace BotBench.Script

/-- How a statement ends, unless it ends the run. -/
inductive Completion
  | normal
  | returned (value : Value)
  | broken
  | continued
  deriving Inhabited

/-- The operations that run nested parts. -/
structure Evaluator where
  expression : Scope → Expr → Run Value
  statement : Scope → Stmt → Run Completion
  /-- Give a value to a pattern. Names that are being declared are given their first value. -/
  bind : Scope → (isDeclaration : Bool) → Pattern → Value → Run Unit
  /-- Call a value with a receiver and arguments. -/
  call : Value → Value → List Value → Run Value
  /-- Construct with a value and arguments, for the value behind `new`. -/
  construct : Value → List Value → Value → Run Value

/-- The evaluator that cannot run anything any more. -/
def Evaluator.exhausted : Evaluator where
  expression _ _ := Run.stackOverflow
  statement _ _ := Run.stackOverflow
  bind _ _ _ _ := Run.stackOverflow
  call _ _ _ := Run.stackOverflow
  construct _ _ _ := Run.stackOverflow

end BotBench.Script
