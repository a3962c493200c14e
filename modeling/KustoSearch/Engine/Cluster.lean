import KustoSearch.Engine.Payload
import KustoSearch.Engine.Url

/-! # Clusters

An engine that is reached over a network. A statement is posted as a document, and the answer is a
status with a payload; a network that brings no answer is worth another try.
-/

namespace KustoSearch

/-- How a cluster is reached. -/
structure Cluster where
  /-- The address, with or without a slash at its end. -/
  url : String
  /-- What shows that the caller may ask. -/
  token : Option String
  /-- The name that the caller gives itself. -/
  application : String
deriving DecidableEq, Repr

/-- A request to the engine. -/
structure Call where
  url : Url
  headers : List (String × String)
  body : Json

/-- What the network makes of a call. -/
inductive Delivery where
  /-- No connection, or one that broke. -/
  | lost
  | answered (status : Nat) (payload : List UInt8)

namespace Cluster

/-- The address that statements are posted to. -/
def endpoint (cluster : Cluster) : String :=
  String.ofList ((cluster.url.toList.reverse.dropWhile (· = '/')).reverse) ++ "/v1/rest/query"

/-- Whether a text can be the value of a header: it holds no control characters but tabs. -/
def isHeaderValue (s : String) : Bool :=
  s.toList.all fun c => c = '\t' || (0x20 ≤ c.toNat && c.toNat ≠ 0x7F)

/-- The headers of a call; `id` tells calls apart. -/
def headers (cluster : Cluster) (id : String) : List (String × String) :=
  [("x-ms-app", cluster.application), ("x-ms-client-request-id", "KQLBridge.Query;" ++ id),
    ("content-type", "application/json")] ++
  match cluster.token with
  | some token => [("authorization", "Bearer " ++ token)]
  | none => []

/-- The document that carries a statement. -/
def document (database statement : String) : Json :=
  .object [("db", .string database), ("csl", .string statement)]

/-- The call for a statement; there is none when the address or a header cannot be used. -/
def call? (cluster : Cluster) (id database statement : String) : Option Call := do
  let url ← (Url.read? cluster.endpoint).filter Url.isSendable
  let headers := cluster.headers id
  if headers.all fun (_, value) => isHeaderValue value then
    some ⟨url, headers, document database statement⟩
  else none

/-- What an answer brings. -/
def receive : Delivery → Except EngineStop Result
  | .lost => .error (.error (.transient "transport error"))
  | .answered status payload =>
    if Status.isSuccess status then Payload.result payload
    else .error (.error (Status.error status payload))

/-- What comes of sending a statement over a network. -/
def execute (cluster : Cluster) (network : Call → Delivery) (id database statement : String) :
    Except EngineStop Result :=
  match cluster.call? id database statement with
  | none => .error (.error (.permanent "invalid request or response"))
  | some call => receive (network call)

end Cluster

end KustoSearch
