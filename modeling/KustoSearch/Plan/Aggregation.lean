import KustoSearch.Failure
import KustoSearch.Plan.Basic
import KustoSearch.Plan.Filter

/-! # Aggregations as plans

The plan of each aggregation and of the whole search. Sub-aggregations come before their parent,
and the query before all aggregations; the first one without a plan is what is reported.
-/

namespace KustoSearch

namespace Aggregation

/-- The column with the number of documents, on every level of buckets. -/
def docCountColumn : String := "doc_count"

/-- The failure of a metric with sub-aggregations. -/
def metricWithChildren (name : String) : Failure :=
  .unsupported "MetricAggregation"
    ("metric aggregation [" ++ name ++ "] cannot have sub-aggregations")

/-- The order of buckets, where it does not depend on a sub-aggregation. -/
def bucketOrder : TermsOrder → Except Failure BucketOrder
  | .countDesc => .ok .countDesc
  | .countAsc => .ok .countAsc
  | .keyAsc => .ok .keyAsc
  | .keyDesc => .ok .keyDesc
  | .byMetric path _ =>
    .error (.unsupported "TermsAggregation"
      ("ordering buckets by sub-aggregation [" ++ path ++ "] is not supported"))

/-- The level of a terms aggregation. Empty buckets would need values from outside the result. -/
def termsPlan (name field : String) (size : Nat) (order : TermsOrder) (minDocCount : Nat) :
    Except Failure BucketPlan := do
  let order ← bucketOrder order
  if minDocCount = 0 then
    .error (.unsupported "TermsAggregation"
      ("[min_doc_count] 0 on terms aggregation [" ++ name ++ "] is not supported"))
  else
    .ok {
      name := name
      key := .value field
      order := order
      limit := some size
      minDocCount := minDocCount }

/-- The columns of a metric. -/
def metricColumns (name field : String) (function : MetricFunction) : List MetricColumn :=
  let single (c : Computation) : List MetricColumn := [⟨.value, name, c⟩]
  let statistic (s : Statistic) (c : Computation) : MetricColumn :=
    ⟨.statistic s, name ++ "." ++ s.name, c⟩
  match function with
  | .avg => single (.average field)
  | .sum => single (.sum field)
  | .min => single (.least field)
  | .max => single (.greatest field)
  | .cardinality => single (.distinct field)
  | .valueCount => single (.count field)
  | .stats => [
      statistic .count (.count field),
      statistic .min (.least field),
      statistic .max (.greatest field),
      statistic .avg (.average field),
      statistic .sum (.sum field)]
  | .percentiles percents =>
    percents.map fun p =>
      ⟨.percentile p, name ++ "." ++ Decimal.descriptiveText p, .percentile field p⟩

/-- The plan of a metric. A substitute for missing values has no statement. -/
def metricPlan (name field : String) (function : MetricFunction) (missing : Option Json) :
    Except Failure MetricPlan :=
  if missing.isSome then
    .error (.unsupported "MetricAggregation"
      ("[missing] on metric aggregation [" ++ name ++ "] is not supported"))
  else if name = docCountColumn then
    .error (.unsupported "MetricAggregation"
      ("aggregation name [" ++ docCountColumn ++ "] is reserved"))
  else .ok ⟨name, function, metricColumns name field function⟩

/-- The plan of an aggregation from those of its sub-aggregations. -/
def planOf (name : String) (kind : AggregationKind) (children : List AggregationPlan) :
    Except Failure AggregationPlan :=
  match kind with
  | .dateHistogram field interval minDocCount =>
    .ok (.bucket ⟨name, .date field interval, .keyAsc, none, minDocCount⟩ children)
  | .histogram field interval minDocCount =>
    .ok (.bucket ⟨name, .number field interval, .keyAsc, none, minDocCount⟩ children)
  | .terms field size order minDocCount => do
    let plan ← termsPlan name field size order minDocCount
    .ok (.bucket plan children)
  | .metric field function missing =>
    if !children.isEmpty then .error (metricWithChildren name)
    else do
      let plan ← metricPlan name field function missing
      .ok (.metric plan)
  | .unimplemented unknown =>
    .error (.unsupported unknown.kind ("[" ++ unknown.dslName ++ "] aggregations are not supported"))

mutual

/-- The plan of an aggregation. -/
def plan : Aggregation → Except Failure AggregationPlan
  | .node name kind children => do
    let children ← plans children
    planOf name kind children

/-- The plans of aggregations in order. -/
def plans : List Aggregation → Except Failure (List AggregationPlan)
  | [] => .ok []
  | aggregation :: aggregations => do
    let p ← plan aggregation
    let ps ← plans aggregations
    .ok (p :: ps)

end

end Aggregation

/-- The plan of a search. -/
def Search.plan (search : Search) : Except Failure Plan := do
  let filter ← search.query.predicate
  let aggregations ← Aggregation.plans search.aggregations
  .ok ⟨search.index, filter, aggregations, search.hits⟩

end KustoSearch
