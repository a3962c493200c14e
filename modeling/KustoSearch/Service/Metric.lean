import KustoSearch.Decimal.Layout
import KustoSearch.Failure

/-! # Metrics

What the service measures. A measurement has a name under which it is collected and a value;
times are collected in seconds.
-/

namespace KustoSearch

/-- A measurement. Times are in nanoseconds. -/
inductive Metric where
  /-- The time from the request to its statement. -/
  | planning (nanos : Nat)
  /-- The time from sending the statement until its reply is there or no longer wanted. -/
  | execution (nanos : Nat)
  /-- The time that the engine reports for itself. -/
  | engine (nanos : Nat)
  /-- The size of a result. -/
  | payload (bytes : Nat)
  /-- A failed search. -/
  | failed (kind : Failure.Kind) (component : Component)
deriving DecidableEq, Repr

namespace Metric

/-- The name that a measurement is collected under. -/
def name : Metric → String
  | .planning _ => "kqlbridge_translation_duration_seconds"
  | .execution _ => "kqlbridge_query_duration_seconds"
  | .engine _ => "kqlbridge_query_engine_duration_seconds"
  | .payload _ => "kqlbridge_query_result_bytes"
  | .failed kind component =>
    "kqlbridge_exceptions_total\x7bkind=" ++ kind.name ++ ",component=" ++ component.name ++
      "\x7d"

/-- Nanoseconds as seconds: the sum of the whole seconds and the fraction, each rounded first. -/
def seconds (nanos : Nat) : Binary64 :=
  let whole := Float.ofScientific (nanos / Nat.pow 10 9) false 0
  let fraction := Float.ofScientific (nanos % Nat.pow 10 9) false 0 /
    Float.ofScientific (Nat.pow 10 9) false 0
  (Binary64.ofFloat? (whole + fraction)).getD .zero

/-- The text of a measurement's value; failures are counted one by one. -/
def value : Metric → String
  | .planning nanos => Decimal.descriptiveText (seconds nanos)
  | .execution nanos => Decimal.descriptiveText (seconds nanos)
  | .engine nanos => Decimal.descriptiveText (seconds nanos)
  | .payload bytes => Decimal.descriptiveText ((Binary64.ofNat? bytes).getD .zero)
  | .failed _ _ => "1"

/-- Whether a measurement counts a failed search. -/
def isFailure : Metric → Bool
  | .failed _ _ => true
  | _ => false

end Metric

end KustoSearch
