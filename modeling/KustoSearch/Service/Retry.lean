import KustoSearch.Service.Attempt

/-! # Retries

A search whose attempt fails for a passing reason is tried again after a pause, at most a given
number of times. The pauses grow evenly: after `k` failed attempts the service waits `k` times the
base pause.
-/

namespace KustoSearch

/-- How often a search is tried again. -/
structure RetryPolicy where
  maxRetries : Nat
  /-- The pause after the first failed attempt, in milliseconds. -/
  backoff : Nat
deriving DecidableEq, Repr

/-- The pause after `failed` attempts have failed. -/
def RetryPolicy.pause (policy : RetryPolicy) (failed : Nat) : Nat := policy.backoff * failed

/-- What a search sent and measured, in order. -/
structure Trace where
  sent : List Batch
  metrics : List Metric

namespace Trace

/-- Nothing sent and nothing measured. -/
def empty : Trace := ⟨[], []⟩

/-- One trace after another. -/
def append (first second : Trace) : Trace :=
  ⟨first.sent ++ second.sent, first.metrics ++ second.metrics⟩

instance : Append Trace := ⟨append⟩

end Trace

/-- What an attempt adds to the trace when it starts. -/
def Attempt.openingTrace (attempt : Attempt) : Trace := ⟨attempt.sent.toList, attempt.opening⟩

/-- What an attempt adds to the trace when it ends. -/
def Attempt.closingTrace (attempt : Attempt) : Trace := ⟨[], attempt.closing⟩

/-- What an attempt sent and measured. -/
def Attempt.trace (attempt : Attempt) : Trace := attempt.openingTrace ++ attempt.closingTrace

/-- A search with all its attempts. -/
structure Run where
  attempts : Nat
  /-- The time from the start of the first attempt to the end of the last, in milliseconds. -/
  duration : Nat
  trace : Trace
  outcome : Except Stop Response

namespace Run

/-- The run of a single attempt. -/
def single (attempt : Attempt) : Run where
  attempts := 1
  duration := attempt.duration
  trace := attempt.trace
  outcome := attempt.outcome

/-- A run with one more attempt and a pause in front. -/
def after (attempt : Attempt) (pause : Nat) (run : Run) : Run where
  attempts := run.attempts + 1
  duration := attempt.duration + pause + run.duration
  trace := attempt.trace ++ run.trace
  outcome := run.outcome

end Run

/-- The run of a search from the attempt that `failed` others come before, with `left` retries
left. -/
def RetryPolicy.runFrom (policy : RetryPolicy) (attempt : Nat → Attempt) :
    (left failed : Nat) → Run
  | 0, failed => .single (attempt failed)
  | left + 1, failed =>
    let a := attempt failed
    if a.isTransient then
      (policy.runFrom attempt left (failed + 1)).after a (policy.pause (failed + 1))
    else .single a

/-- The run of a search, by its attempts in order. -/
def RetryPolicy.run (policy : RetryPolicy) (attempt : Nat → Attempt) : Run :=
  policy.runFrom attempt policy.maxRetries 0

end KustoSearch
