/-! # Failures

What can go wrong with a search, who finds it and what the caller is told. The wording that
callers see never shows the statement that was sent or what the mapper found wrong with the tables.
-/

namespace KustoSearch

/-- Why a search has no response. -/
inductive Failure where
  /-- The request is not one; `field` names the part that is at fault. -/
  | malformedQuery (detail : String) (field : Option String)
  /-- The request is well formed, and asks for something that has no statement. -/
  | unsupported (nodeKind reason : String)
  /-- The engine may answer if asked again. -/
  | executionTransient (detail : String)
  /-- The engine refused. -/
  | executionPermanent (detail : String)
  /-- The result tables do not fit the statement. -/
  | resultShapeMismatch (detail : String)
  | cancelled
deriving DecidableEq, Repr

/-- The part of a search that found a failure. -/
inductive Component where
  | controller
  | parser
  | planner
  | executor
  | mapper
deriving DecidableEq, Repr

/-- The name of a component in a counter. -/
def Component.name : Component → String
  | .controller => "controller"
  | .parser => "parser"
  | .planner => "translator"
  | .executor => "executor"
  | .mapper => "mapper"

namespace Failure

/-- The kinds of failure. -/
inductive Kind where
  | malformedQuery
  | unsupported
  | executionTransient
  | executionPermanent
  | resultShapeMismatch
  | cancelled
deriving DecidableEq, Repr

/-- The name of a kind in a counter. -/
def Kind.name : Kind → String
  | .malformedQuery => "malformed_query"
  | .unsupported => "unsupported_translation"
  | .executionTransient => "execution_transient"
  | .executionPermanent => "execution_permanent"
  | .resultShapeMismatch => "result_shape_mismatch"
  | .cancelled => "cancelled"

/-- A malformed request with no particular part at fault. -/
def malformed (detail : String) : Failure := .malformedQuery detail none

/-- A malformed request with `field` at fault. -/
def malformedField (field detail : String) : Failure := .malformedQuery detail (some field)

/-- The kind of a failure. -/
def kind : Failure → Kind
  | .malformedQuery _ _ => .malformedQuery
  | .unsupported _ _ => .unsupported
  | .executionTransient _ => .executionTransient
  | .executionPermanent _ => .executionPermanent
  | .resultShapeMismatch _ => .resultShapeMismatch
  | .cancelled => .cancelled

/-- Whether asking again may help. -/
def isTransient : Failure → Bool
  | .executionTransient _ => true
  | _ => false

/-- The full wording. -/
def message : Failure → String
  | .malformedQuery detail _ => "Malformed query: " ++ detail
  | .unsupported nodeKind reason => "Unsupported " ++ nodeKind ++ ": " ++ reason
  | .executionTransient detail => "Query execution failed (transient): " ++ detail
  | .executionPermanent detail => "Query execution failed: " ++ detail
  | .resultShapeMismatch detail => "Result shape mismatch: " ++ detail
  | .cancelled => "Request cancelled"

/-- The wording for the caller. -/
def publicReason : Failure → String
  | .executionPermanent _ => "the backend rejected the translated query"
  | .resultShapeMismatch _ => "internal error while mapping results"
  | failure => failure.message

/-- The error type for the caller. -/
def typeName : Failure → String
  | .malformedQuery _ _ => "parsing_exception"
  | .unsupported _ _ => "parsing_exception"
  | .executionTransient _ => "search_phase_execution_exception"
  | .executionPermanent _ => "search_phase_execution_exception"
  | .resultShapeMismatch _ => "internal_server_error"
  | .cancelled => "task_cancelled_exception"

/-- The status code for the caller; 499 says that the caller closed the request. -/
def status : Failure → Nat
  | .malformedQuery _ _ => 400
  | .unsupported _ _ => 400
  | .executionTransient _ => 503
  | .executionPermanent _ => 500
  | .resultShapeMismatch _ => 500
  | .cancelled => 499

end Failure

/-- A step that has no result at all. The request that takes it gets no answer. -/
inductive Fault where
  /-- A cell past the end of its row. -/
  | cellOutOfRange
  /-- A time that is too long for a duration. -/
  | durationOutOfRange
  /-- A remainder by zero. -/
  | remainderByZero
deriving DecidableEq, Repr

/-- Why a computation stopped. -/
inductive Stop where
  | failure (f : Failure)
  | fault (f : Fault)
deriving DecidableEq, Repr

namespace Stop

/-- A computation that may fail, as one that may stop. -/
def ofFailure {α : Type} (r : Except Failure α) : Except Stop α := r.mapError .failure

end Stop

end KustoSearch
