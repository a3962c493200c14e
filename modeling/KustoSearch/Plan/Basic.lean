import KustoSearch.Kql.Predicate
import KustoSearch.Query.Basic

/-! # Plans

A search in the terms of the engine: a row predicate, and for every aggregation the columns that
have to be computed. A plan holds no text; the texts of its keys and columns are functions of it.
-/

namespace KustoSearch

open Kql (identifier)

/-- The value that puts a row into a bucket. -/
inductive BucketKey where
  /-- A date, floored to an interval. -/
  | date (field : String) (interval : Interval)
  /-- A number, floored to a multiple of a width. -/
  | number (field : String) (width : Binary64)
  /-- The value itself. -/
  | value (field : String)
deriving DecidableEq

namespace BucketKey

/-- The expression that a date key is computed from; texts and counts are read as dates. -/
def dateSource (field : String) : String := "todatetime(" ++ identifier field ++ ")"

/-- The expression that a number key is computed from. -/
def numberSource (field : String) : String := "todouble(" ++ identifier field ++ ")"

/-- The expression of the key. -/
def expression : BucketKey → String
  | .date field interval => (interval.moment (.source (dateSource field))).text
  | .number field width =>
    "bin(" ++ numberSource field ++ ", " ++ Decimal.plainText width ++ ")"
  | .value field => identifier field

/-- The condition that a row has a key. -/
def guard : BucketKey → String
  | .date field _ => "isnotnull(" ++ dateSource field ++ ")"
  | .number field _ => "isnotnull(" ++ numberSource field ++ ")"
  | .value field => "isnotempty(" ++ identifier field ++ ")"

/-- The name of the aggregation kind that the key belongs to. -/
def kindName : BucketKey → String
  | .date .. => "DateHistogramAggregation"
  | .number .. => "HistogramAggregation"
  | .value _ => "TermsAggregation"

end BucketKey

/-- The order of buckets; the key is always the last criterion. -/
inductive BucketOrder where
  | countDesc
  | countAsc
  | keyAsc
  | keyDesc
deriving DecidableEq, Repr

/-- The parts of a statistics result. -/
inductive Statistic where
  | count
  | min
  | max
  | avg
  | sum
deriving DecidableEq, Repr

/-- The name of a part of a statistics result. -/
def Statistic.name : Statistic → String
  | .count => "count"
  | .min => "min"
  | .max => "max"
  | .avg => "avg"
  | .sum => "sum"

/-- What a metric column stands for in the result. -/
inductive MetricRole where
  | value
  | statistic (s : Statistic)
  | percentile (percent : Binary64)
deriving DecidableEq

/-- A computation over the rows of a group; rows without the field do not count. -/
inductive Computation where
  | average (field : String)
  | sum (field : String)
  | least (field : String)
  | greatest (field : String)
  | distinct (field : String)
  | count (field : String)
  | percentile (field : String) (percent : Binary64)
deriving DecidableEq

/-- The condition that a field has a value. -/
def presence (field : String) : String := "isnotnull(" ++ identifier field ++ ")"

/-- A computation on the present values of a field. -/
def overPresent (function field : String) : String :=
  function ++ "(" ++ identifier field ++ ", " ++ presence field ++ ")"

/-- The text of a computation. -/
def Computation.text : Computation → String
  | .average field => overPresent "avgif" field
  | .sum field => overPresent "sumif" field
  | .least field => overPresent "minif" field
  | .greatest field => overPresent "maxif" field
  | .distinct field => overPresent "dcountif" field
  | .count field => "countif(" ++ presence field ++ ")"
  | .percentile field percent =>
    "percentile(" ++ identifier field ++ ", " ++ Decimal.plainText percent ++ ")"

/-- A column of a metric. -/
structure MetricColumn where
  role : MetricRole
  column : String
  computation : Computation
deriving DecidableEq

/-- A metric with its columns. -/
structure MetricPlan where
  name : String
  function : MetricFunction
  columns : List MetricColumn
deriving DecidableEq

/-- A level of buckets. Its key is a column with the name of the aggregation. -/
structure BucketPlan where
  name : String
  key : BucketKey
  order : BucketOrder
  /-- How many buckets are kept below one parent. -/
  limit : Option Nat
  minDocCount : Nat
deriving DecidableEq

/-- The plan of an aggregation. -/
inductive AggregationPlan where
  | bucket (plan : BucketPlan) (children : List AggregationPlan)
  | metric (plan : MetricPlan)

namespace AggregationPlan

/-- The name of the aggregation. -/
def name : AggregationPlan → String
  | .bucket plan _ => plan.name
  | .metric plan => plan.name

/-- The metrics among some plans. -/
def metrics (plans : List AggregationPlan) : List MetricPlan :=
  plans.filterMap fun
    | .metric plan => some plan
    | .bucket .. => none

mutual

/-- The number of bucket levels of a plan. -/
def levelCount : AggregationPlan → Nat
  | .bucket _ children => levelCounts children + 1
  | .metric _ => 0

/-- The number of bucket levels of plans together. -/
def levelCounts : List AggregationPlan → Nat
  | [] => 0
  | plan :: plans => levelCount plan + levelCounts plans

end

end AggregationPlan

/-- The plan of a search. -/
structure Plan where
  index : String
  filter : Kql.Predicate
  aggregations : List AggregationPlan
  hits : HitSelection

end KustoSearch
