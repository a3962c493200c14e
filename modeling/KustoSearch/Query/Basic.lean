import KustoSearch.Interval
import KustoSearch.Json.Value

/-! # Searches

What a request asks for: a query tree, an aggregation tree and the selection of hits. Nodes that
are recognised and have no statement are kept as `unimplemented`, so that they can be reported by
name.
-/

namespace KustoSearch

/-- How the tokens of a text are combined. -/
inductive MatchOperator where
  | and
  | or
deriving DecidableEq, Repr

/-- One end of a range. -/
structure Bound where
  value : Json
  inclusive : Bool

/-- How many optional clauses have to match. -/
inductive MinimumMatch where
  | count (n : Int)
  /-- Percentages and combinations. -/
  | expression (text : String)
deriving DecidableEq, Repr

/-- A node that is recognised and has no statement. -/
structure Unimplemented where
  kind : String
  dslName : String
deriving DecidableEq, Repr

/-- A query. -/
inductive Query where
  | matchAll
  | matchNone
  | bool (must filter should mustNot : List Query) (minimum : Option MinimumMatch)
  | range (field : String) (lower upper : Option Bound) (format : Option String)
  | fullText (field : String) (query : Json) (operator : MatchOperator) (phrase : Bool)
  | term (field : String) (value : Json) (ignoreCase : Bool)
  | terms (field : String) (values : List Json)
  | present (field : String)
  | startsWith (field : String) (value : String)
  | wildcard (field : String) (pattern : String) (ignoreCase : Bool)
  /-- A list of words over some columns; no fields mean all columns. -/
  | words (query : String) (fields : List String) (operator : MatchOperator)
  | unimplemented (node : Unimplemented)

/-- The name of a query's kind in failures. -/
def Query.kindName : Query → String
  | .matchAll => "MatchAllClause"
  | .matchNone => "MatchNoneClause"
  | .bool .. => "BoolClause"
  | .range .. => "RangeClause"
  | .fullText _ _ _ phrase => if phrase then "MatchPhraseClause" else "MatchClause"
  | .term .. => "TermClause"
  | .terms .. => "TermsClause"
  | .present _ => "ExistsClause"
  | .startsWith .. => "PrefixClause"
  | .wildcard .. => "WildcardClause"
  | .words .. => "QueryStringClause"
  | .unimplemented node => node.kind

/-- The order of the buckets of a terms aggregation. The key is always the last criterion. -/
inductive TermsOrder where
  | countDesc
  | countAsc
  | keyAsc
  | keyDesc
  /-- By the result of a sub-aggregation. -/
  | byMetric (path : String) (descending : Bool)
deriving DecidableEq, Repr

/-- What a metric aggregation computes. -/
inductive MetricFunction where
  | avg
  | sum
  | min
  | max
  | cardinality
  | valueCount
  | stats
  | percentiles (percents : List Binary64)
deriving DecidableEq

/-- The kind of an aggregation with its parameters. -/
inductive AggregationKind where
  | dateHistogram (field : String) (interval : Interval) (minDocCount : Nat)
  | histogram (field : String) (interval : Binary64) (minDocCount : Nat)
  | terms (field : String) (size : Nat) (order : TermsOrder) (minDocCount : Nat)
  | metric (field : String) (function : MetricFunction) (missing : Option Json)
  | unimplemented (node : Unimplemented)

namespace AggregationKind

/-- The name of an aggregation's kind in failures. -/
def name : AggregationKind → String
  | .dateHistogram .. => "DateHistogramAggregation"
  | .histogram .. => "HistogramAggregation"
  | .terms .. => "TermsAggregation"
  | .metric .. => "MetricAggregation"
  | .unimplemented node => node.kind

/-- Whether the aggregation makes buckets. -/
def isBucket : AggregationKind → Bool
  | .dateHistogram .. => true
  | .histogram .. => true
  | .terms .. => true
  | .metric .. => false
  | .unimplemented _ => false

/-- Whether the aggregation is a metric. -/
def isMetric : AggregationKind → Bool
  | .metric .. => true
  | _ => false

end AggregationKind

/-- A named aggregation with its sub-aggregations. -/
inductive Aggregation where
  | node (name : String) (kind : AggregationKind) (children : List Aggregation)

/-- A sort key. -/
structure SortField where
  field : String
  descending : Bool
deriving DecidableEq, Repr

/-- Which columns a hit shows. -/
inductive SourceSelection where
  | all
  | none
  | only (includes excludes : List String)
deriving DecidableEq, Repr

/-- The selection of hits. -/
structure HitSelection where
  /-- Hits to leave out at the start. -/
  skip : Nat
  size : Nat
  sort : List SortField
  source : SourceSelection
  trackTotal : Bool
deriving DecidableEq, Repr

/-- A search of one index. -/
structure Search where
  index : String
  query : Query
  aggregations : List Aggregation
  hits : HitSelection

end KustoSearch
