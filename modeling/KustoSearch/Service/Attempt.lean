import KustoSearch.Engine.Basic
import KustoSearch.Request.Reader
import KustoSearch.Response.Mapper
import KustoSearch.Service.Metric

/-! # Attempts

One run of a search: the request becomes a statement, the statement is sent, and the reply becomes
a response. The reply is given up when the time limit passes or the caller leaves. An attempt holds
what was sent, what was measured at its start and at its end, and how long it took.
-/

namespace KustoSearch

/-- How searches are run. -/
structure Settings where
  /-- The database of an index that names none. -/
  database : String
  /-- How long a reply may take, in milliseconds. -/
  timeout : Nat
deriving DecidableEq, Repr

/-- One run of a search. -/
structure Attempt where
  /-- The statement, when one was sent. -/
  sent : Option Batch
  /-- What was measured before the reply was waited for. -/
  opening : List Metric
  /-- How long the reply was waited for, in milliseconds. -/
  duration : Nat
  /-- What was measured after the wait. -/
  closing : List Metric
  outcome : Except Stop Response

namespace Attempt

/-- The measurement of a failure. -/
def count (failure : Failure) (component : Component) : Metric := .failed failure.kind component

/-- An attempt that ends before anything is sent. -/
def early (metrics : List Metric) (failure : Failure) (component : Component) : Attempt where
  sent := none
  opening := metrics ++ [count failure component]
  duration := 0
  closing := []
  outcome := .error (.failure failure)

/-- The plan of a request and its statement, or the failure and who found it. -/
def prepare (settings : Settings) (index : String) (body : Json) :
    Except (Failure × Component) (Plan × Batch) := do
  let search ← (Search.read index body).mapError fun f => (f, .parser)
  let plan ← search.plan.mapError fun f => (f, .planner)
  let batch ← (plan.batch settings.database).mapError fun f => (f, .planner)
  .ok (plan, batch)

/-- What a reply is once the time limit has passed. -/
def overdue (timeout : Nat) : EngineError :=
  .transient ("query did not complete within " ++ Text.naturalText timeout ++ " ms")

/-- How long a reply is waited for, and what comes of it; a reply at the very limit is in time. -/
def await (timeout : Nat) (reply : Reply) : Nat × Except EngineError Result :=
  match reply.delay with
  | some delay =>
    if delay ≤ timeout then (delay, reply.outcome) else (timeout, .error (overdue timeout))
  | none => (timeout, .error (overdue timeout))

/-- Milliseconds in nanoseconds. -/
def nanos (ms : Nat) : Nat := ms * Nat.pow 10 6

/-- The measurements that a result brings. -/
def resultMetrics (result : Result) : List Metric :=
  .payload result.payloadBytes :: (result.engineNanos.map Metric.engine).toList

/-- Whether a caller has gone at a time. One who leaves at that very time is still there, unless
it is the start. -/
def isGone (leave : Option Nat) (time : Nat) : Bool := leave.any fun left => left = 0 || left < time

/-- What is measured at the end, and the outcome, when the wait took `duration`. For a caller who
has gone nothing is mapped. -/
def conclude (plan : Plan) (batch : Batch) (duration : Nat) (gone : Bool) (ids : Nat → String) :
    Except EngineError Result → List Metric × Except Stop Response
  | .error e => ([count e.failure .executor], .error (.failure e.failure))
  | .ok result =>
    if gone then
      (resultMetrics result ++ [count .cancelled .executor], .error (.failure .cancelled))
    else
      match plan.response batch.layout result duration ids with
      | .ok response => (resultMetrics result, .ok response)
      | .error (.failure f) => (resultMetrics result ++ [count f .mapper], .error (.failure f))
      | .error (.fault f) => (resultMetrics result, .error (.fault f))

/-- The attempt from the sending of its statement on. A caller who leaves before the reply or the
limit ends the wait. -/
def dispatch (settings : Settings) (leave : Option Nat) (plan : Plan) (batch : Batch)
    (reply : Reply) (ids : Nat → String) : Attempt :=
  let (duration, outcome) := await settings.timeout reply
  match leave.filter (· < duration) with
  | some left => {
      sent := some batch
      opening := [.planning 0]
      duration := left
      closing := [.execution (nanos left), count .cancelled .executor]
      outcome := .error (.failure .cancelled) }
  | none =>
    let (metrics, outcome) := conclude plan batch duration (isGone leave duration) ids outcome
    { sent := some batch
      opening := [.planning 0]
      duration := duration
      closing := .execution (nanos duration) :: metrics
      outcome := outcome }

/-- One run of a search. `leave` is the time after which the caller has gone, `reply` what the
engine does with a statement, and `ids` names the hits. Planning takes no time of the clock. -/
def run (settings : Settings) (leave : Option Nat) (index : String) (body : Json)
    (reply : Batch → Reply) (ids : Nat → String) : Attempt :=
  if isGone leave 0 then early [] .cancelled .controller
  else
    match prepare settings index body with
    | .error (failure, component) => early [.planning 0] failure component
    | .ok (plan, batch) =>
      if isGone leave 0 then early [.planning 0] .cancelled .controller
      else dispatch settings leave plan batch (reply batch) ids

/-- All that was measured, in order. -/
def metrics (attempt : Attempt) : List Metric := attempt.opening ++ attempt.closing

/-- Whether the attempt failed and another one may do better. -/
def isTransient (attempt : Attempt) : Bool :=
  match attempt.outcome with
  | .error (.failure f) => f.isTransient
  | _ => false

end Attempt

end KustoSearch
