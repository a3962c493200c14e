import KustoSearch.Batch
import KustoSearch.Failure
import KustoSearch.Table

/-! # The engine

What the service sees of the engine: a reply to each statement, after some time or never. Time is
counted in milliseconds.
-/

namespace KustoSearch

/-- Why the engine has no result. -/
inductive EngineError where
  /-- Asking again may help. -/
  | transient (detail : String)
  /-- The statement was refused. -/
  | permanent (detail : String)
deriving DecidableEq, Repr

/-- The failure of a search that the engine has no result for. -/
def EngineError.failure : EngineError → Failure
  | .transient detail => .executionTransient detail
  | .permanent detail => .executionPermanent detail

/-- What comes back for a statement. -/
structure Reply where
  /-- The time until the reply is there; without one it never is. -/
  delay : Option Nat
  outcome : Except EngineError Result

/-- An engine, by its reply to the statement that is sent to it after `n` others. -/
abbrev Engine := (n : Nat) → Batch → Reply

end KustoSearch
