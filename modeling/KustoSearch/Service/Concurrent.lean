import KustoSearch.Service.Retry

/-! # Concurrent searches

Several searches that share an engine and start together. Nothing takes time but waiting for
replies and pausing, so the searches take turns: the next step is always made by the unfinished
search that wakes first, of several the one that was asked first. The engine numbers statements in
the order in which they are sent.
-/

namespace KustoSearch

/-- How far a search among others has come. -/
inductive Progress where
  /-- An attempt starts next, after `failed` others. -/
  | ready (failed : Nat)
  /-- The end of an attempt comes next. -/
  | waiting (failed : Nat) (attempt : Attempt)
  | finished (outcome : Except Stop Response)

/-- A search among others. -/
structure Session where
  index : String
  body : Json
  /-- The time of the next step, or of the last one once the search is finished. -/
  wake : Nat
  progress : Progress

namespace Session

/-- A search at the start. -/
def start (index : String) (body : Json) : Session := ⟨index, body, 0, .ready 0⟩

/-- Whether a search has no next step. -/
def isFinished (session : Session) : Bool :=
  match session.progress with
  | .finished _ => true
  | _ => false

/-- A bound on the steps that a search still makes. -/
def stepsLeft (maxRetries : Nat) (session : Session) : Nat :=
  match session.progress with
  | .ready failed => 2 * (maxRetries - failed) + 2
  | .waiting failed _ => 2 * (maxRetries - failed) + 1
  | .finished _ => 0

/-- The outcome of a finished search. -/
def outcome? (session : Session) : Option (Except Stop Response) :=
  match session.progress with
  | .finished outcome => some outcome
  | _ => none

end Session

/-- How a service runs its searches. -/
structure Scheme where
  settings : Settings
  retry : RetryPolicy
  engine : Engine
  /-- Names for the hits, by the number of the statement and the place of the hit. -/
  ids : Nat → Nat → String

/-- One attempt of a search, when `calls` statements have been sent before. -/
def Scheme.attempt (scheme : Scheme) (index : String) (body : Json) (calls : Nat) : Attempt :=
  Attempt.run scheme.settings none index body (scheme.engine calls) (scheme.ids calls)

/-- A search on its own. -/
def Scheme.run (scheme : Scheme) (index : String) (body : Json) : Run :=
  scheme.retry.run (scheme.attempt index body)

/-- Searches that run together. -/
structure Gathering where
  /-- How many statements have been sent. -/
  calls : Nat
  trace : Trace
  sessions : List Session

namespace Gathering

/-- The place and the time of the next step; of several at one time the first. -/
def next? : List Session → Option (Nat × Nat)
  | [] => none
  | session :: sessions =>
    let later := (next? sessions).map fun (place, wake) => (place + 1, wake)
    if session.isFinished then later
    else
      match later with
      | some (place, wake) =>
        if wake < session.wake then some (place, wake) else some (0, session.wake)
      | none => some (0, session.wake)

/-- The next step of a search, with what it adds to the trace. -/
def stepSession (scheme : Scheme) (calls : Nat) (session : Session) : Session × Trace :=
  match session.progress with
  | .ready failed =>
    let attempt := scheme.attempt session.index session.body calls
    ({ session with
        wake := session.wake + attempt.duration
        progress := .waiting failed attempt }, attempt.openingTrace)
  | .waiting failed attempt =>
    if attempt.isTransient && failed < scheme.retry.maxRetries then
      ({ session with
          wake := session.wake + scheme.retry.pause (failed + 1)
          progress := .ready (failed + 1) }, attempt.closingTrace)
    else ({ session with progress := .finished attempt.outcome }, attempt.closingTrace)
  | .finished _ => (session, .empty)

/-- The step of the search at a place. -/
def stepAt (scheme : Scheme) (gathering : Gathering) (place : Nat) : Gathering :=
  match gathering.sessions[place]? with
  | none => gathering
  | some session =>
    let (session, trace) := stepSession scheme gathering.calls session
    { calls := gathering.calls + trace.sent.length
      trace := gathering.trace ++ trace
      sessions := gathering.sessions.set place session }

/-- Steps until all searches are finished, at most `fuel` of them. -/
def runFor (scheme : Scheme) : (fuel : Nat) → Gathering → Gathering
  | 0, gathering => gathering
  | fuel + 1, gathering =>
    match next? gathering.sessions with
    | none => gathering
    | some (place, _) => runFor scheme fuel (stepAt scheme gathering place)

/-- Searches run to their end. -/
def run (scheme : Scheme) (searches : List (String × Json)) : Gathering :=
  let sessions := searches.map fun (index, body) => Session.start index body
  let fuel := sessions.foldr (fun s n => s.stepsLeft scheme.retry.maxRetries + n) 0
  runFor scheme fuel ⟨0, .empty, sessions⟩

/-- The outcomes of finished searches, in the order of the searches. -/
def outcomes (gathering : Gathering) : List (Except Stop Response) :=
  gathering.sessions.filterMap Session.outcome?

/-- The time at which the last search ends. -/
def duration (gathering : Gathering) : Nat :=
  gathering.sessions.foldl (fun t session => max t session.wake) 0

end Gathering

end KustoSearch
