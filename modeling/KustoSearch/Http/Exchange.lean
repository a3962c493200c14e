import KustoSearch.Http.Route
import KustoSearch.Json.Printer
import KustoSearch.Request.MultiSearch
import KustoSearch.Service.Concurrent

/-! # Exchanges

A request and its answer. Only posting to a known path reaches a search. A request document that
cannot be read is answered, and counted, before any search is made.
-/

namespace KustoSearch.Http

/-- A request. -/
structure Request where
  method : String
  /-- The path, with what may follow it. -/
  target : String
  body : List UInt8
deriving DecidableEq, Repr

/-- An answer. -/
structure Answer where
  status : Nat
  body : String
deriving DecidableEq, Repr

/-- An answer, and what was sent and measured on the way. -/
structure Exchange where
  answer : Answer
  trace : Trace

/-- What answers requests. -/
structure Service extends Scheme where
  /-- The greatest size of a request document, in bytes. -/
  bodyLimit : Nat

namespace Answer

/-- The answer with a document. -/
def ofJson (status : Nat) (json : Json) : Answer := ⟨status, json.text⟩

/-- The answer that tells of a failure. -/
def ofFailure (failure : Failure) : Answer := ofJson failure.status failure.json

/-- The answer where there is nothing. -/
def notFound : Answer := ⟨404, ""⟩

/-- The answer to a method that a path does not have. -/
def wrongMethod : Answer := ⟨405, ""⟩

/-- The answer to an index that is no text. -/
def badIndex : Answer := ⟨400, "Invalid URL: Invalid UTF-8 in \x60index\x60"⟩

/-- The answer to a document that is too long. -/
def tooLarge : Answer := ⟨413, "Failed to buffer the request body: length limit exceeded"⟩

end Answer

namespace Exchange

/-- An exchange in which nothing happens. -/
def quiet (answer : Answer) : Exchange := ⟨answer, .empty⟩

/-- An exchange that ends with a document that cannot be read. -/
def refused (failure : Failure) : Exchange where
  answer := .ofFailure failure
  trace := ⟨[], [Attempt.count failure .controller]⟩

end Exchange

/-- Whether a byte is a blank in a document: space, tab, line feed, form feed or carriage
return. -/
def isBlankByte (b : UInt8) : Bool := b = 0x20 || b = 0x9 || b = 0xA || b = 0xC || b = 0xD

/-- The document of a search; one that is all blank asks for everything. -/
def document (bytes : List UInt8) : Except Failure Json :=
  if bytes.all isBlankByte then .ok (.object [])
  else
    match Json.readBytes? bytes with
    | some json => .ok json
    | none => .error (.malformed "request body is not valid JSON")

/-- The item of a search in the answer to several. -/
def item : Except Stop Response → Except Fault Json
  | .ok response => .ok response.json
  | .error (.failure f) => .ok f.json
  | .error (.fault f) => .error f

/-- The document that answers several searches. -/
def multiSearchJson (took : Nat) (items : List Json) : Json :=
  .object [("took", Json.ofNat took), ("responses", .array items)]

namespace Service

/-- The exchange of one search. -/
def search (service : Service) (index : String) (body : List UInt8) : Except Fault Exchange :=
  match document body with
  | .error f => .ok (.refused f)
  | .ok json =>
    let run := service.run index json
    match run.outcome with
    | .ok response => .ok ⟨.ofJson 200 response.json, run.trace⟩
    | .error (.failure f) => .ok ⟨.ofFailure f, run.trace⟩
    | .error (.fault f) => .error f

/-- The exchange of several searches. -/
def multiSearch (service : Service) (index : String) (body : List UInt8) :
    Except Fault Exchange :=
  match MultiSearch.read body with
  | .error f => .ok (.refused f)
  | .ok entries => do
    let gathering := Gathering.run service.toScheme
      (entries.map fun entry => (entry.index.getD index, entry.body))
    let items ← gathering.outcomes.mapM item
    .ok ⟨.ofJson 200 (multiSearchJson gathering.duration items), gathering.trace⟩

/-- The exchange of a route. -/
def follow (service : Service) (body : List UInt8) : Route → Except Fault Exchange
  | .search index => service.search index body
  | .multiSearch index => service.multiSearch index body

/-- The exchange of a request. -/
def exchange (service : Service) (request : Request) : Except Fault Exchange :=
  match Route.ofTarget? request.target with
  | none => .ok (.quiet .notFound)
  | some route? =>
    if request.method ≠ "POST" then .ok (.quiet .wrongMethod)
    else
      match route? with
      | none => .ok (.quiet .badIndex)
      | some route =>
        if service.bodyLimit < request.body.length then .ok (.quiet .tooLarge)
        else service.follow request.body route

end Service

end KustoSearch.Http
