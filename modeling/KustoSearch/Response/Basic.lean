import KustoSearch.Failure
import KustoSearch.Json.Value

/-! # Responses

What a search answers, and its form as a document. Sub-aggregations of a bucket stand beside the
bucket's own members.
-/

namespace KustoSearch

/-- The own members of a bucket. -/
structure BucketHead where
  key : Json
  /-- The key as text, for date keys. -/
  keyAsString : Option String
  docCount : Nat

/-- The result of an aggregation. -/
inductive AggregationResult where
  | buckets (items : List (BucketHead × List (String × AggregationResult)))
  | stats (count : Nat) (min max avg sum : Json)
  /-- The value of each percentile under its name. -/
  | percentiles (values : List (String × Json))
  /-- A single value, and its text where it is a date. -/
  | single (value : Json) (asString : Option String)

/-- A bucket with the results of its sub-aggregations. -/
abbrev Bucket := BucketHead × List (String × AggregationResult)

/-- A found row. -/
structure Hit where
  index : String
  id : String
  source : Option (List (String × Json))

/-- The number of found rows; without a count only the rows at hand are known. -/
structure TotalHits where
  value : Nat
  counted : Bool

/-- The response to a search. -/
structure Response where
  /-- Milliseconds from the start of the search. -/
  took : Nat
  total : TotalHits
  hits : List Hit
  aggregations : Option (List (String × AggregationResult))

/-- A member that is left out when there is no value. -/
def optionalMember (name : String) : Option String → List (String × Json)
  | none => []
  | some s => [(name, .string s)]

/-- The own members of a bucket as members of a document. -/
def BucketHead.members (head : BucketHead) : List (String × Json) :=
  [("key", head.key)] ++ optionalMember "key_as_string" head.keyAsString ++
    [("doc_count", Json.ofNat head.docCount)]

namespace AggregationResult

mutual

/-- The document of a result. -/
def json : AggregationResult → Json
  | .buckets items => .object [("buckets", .array (bucketsJson items))]
  | .stats count min max avg sum =>
    .object [("count", Json.ofNat count), ("min", min), ("max", max), ("avg", avg), ("sum", sum)]
  | .percentiles values => .object [("values", .object values)]
  | .single value asString =>
    .object (("value", value) :: optionalMember "value_as_string" asString)

/-- The documents of buckets. -/
def bucketsJson : List (BucketHead × List (String × AggregationResult)) → List Json
  | [] => []
  | (head, results) :: rest => .object (head.members ++ resultsJson results) :: bucketsJson rest

/-- The members for named results. -/
def resultsJson : List (String × AggregationResult) → List (String × Json)
  | [] => []
  | (name, result) :: rest => (name, json result) :: resultsJson rest

end

end AggregationResult

/-- The document of a hit. -/
def Hit.json (hit : Hit) : Json :=
  .object ([("_index", .string hit.index), ("_id", .string hit.id), ("_score", .null)] ++
    match hit.source with
    | none => []
    | some members => [("_source", .object members)])

/-- The document of the number of hits. -/
def TotalHits.json (total : TotalHits) : Json :=
  .object [("value", Json.ofNat total.value),
    ("relation", .string (if total.counted then "eq" else "gte"))]

namespace Response

/-- The shards of a response: one, which answered. -/
def shardsJson : Json :=
  .object [("total", Json.ofNat 1), ("successful", Json.ofNat 1), ("skipped", Json.ofNat 0),
    ("failed", Json.ofNat 0)]

/-- The document of a response. -/
def json (response : Response) : Json :=
  .object ([
    ("took", Json.ofNat response.took),
    ("timed_out", .bool false),
    ("_shards", shardsJson),
    ("hits", .object [
      ("total", response.total.json),
      ("max_score", .null),
      ("hits", .array (response.hits.map Hit.json))])] ++
    match response.aggregations with
    | none => []
    | some results => [("aggregations", .object (AggregationResult.resultsJson results))])

end Response

/-- The document that tells a caller of a failure. -/
def Failure.json (failure : Failure) : Json :=
  let type := Json.string failure.typeName
  let reason := Json.string failure.publicReason
  .object [
    ("error", .object [
      ("root_cause", .array [.object [("type", type), ("reason", reason)]]),
      ("type", type),
      ("reason", reason)]),
    ("status", Json.ofNat failure.status)]

end KustoSearch
