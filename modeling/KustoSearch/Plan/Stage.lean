import KustoSearch.Plan.Aggregation

/-! # Stages

The steps of a tabular expression. A `Stage` takes the rows that the step before it gives and
hands rows on; `Stage.text` writes it as it stands between two pipes.
-/

namespace KustoSearch

open Kql (identifier)

/-- A sort key of rows. -/
structure OrderKey where
  column : String
  descending : Bool
  nullsLast : Bool
deriving DecidableEq, Repr

/-- The text of a sort key. -/
def OrderKey.text (k : OrderKey) : String :=
  identifier k.column ++ (if k.descending then " desc" else " asc") ++
    (if k.nullsLast then " nulls last" else "")

/-- A name or pattern of columns. -/
inductive ColumnPattern where
  | column (name : String)
  /-- A pattern whose stars stand for any characters. -/
  | pattern (text : String)
deriving DecidableEq, Repr

/-- The text of a column pattern; patterns are not quoted. -/
def ColumnPattern.text : ColumnPattern → String
  | .column name => identifier name
  | .pattern text => text

/-- A helper column that numbers rows and is removed again. -/
inductive Counter where
  /-- Numbers the rows within one parent bucket. -/
  | rank
  /-- Numbers all rows. -/
  | rowNumber
deriving DecidableEq, Repr

/-- The name of a helper column. -/
def Counter.column : Counter → String
  | .rank => "_rank"
  | .rowNumber => "_rn"

/-- The name under which a level of buckets is bound. -/
def levelVariable (level : Nat) : String := "_agg" ++ Text.naturalText level

/-- A step of a tabular expression. -/
inductive Stage where
  /-- Keeps the rows that have a bucket key. -/
  | hasKey (key : BucketKey)
  /-- Groups rows by keys, and counts the rows of each group beside other computations. -/
  | group (columns : List MetricColumn) (by_ : List (String × BucketKey))
  /-- Makes one row of all rows. -/
  | summarize (columns : List MetricColumn)
  /-- Keeps the rows whose values in some columns occur in a level of buckets. -/
  | within (level : Nat) (columns : List String)
  /-- Keeps the groups with at least so many rows. -/
  | minDocCount (n : Nat)
  | order (keys : List OrderKey)
  | take (n : Nat)
  /-- Numbers the rows from one, again from one where one of the columns changes. -/
  | rank (restart : List String)
  | rankAtMost (n : Nat)
  /-- Numbers all rows from one. -/
  | number
  | numberAbove (n : Nat)
  | drop (counter : Counter)
  | keepColumns (patterns : List ColumnPattern)
  | dropColumns (patterns : List ColumnPattern)
  /-- Makes one row that holds the number of rows. -/
  | count
deriving DecidableEq

namespace Stage

/-- A computed column. -/
def metricText (c : MetricColumn) : String :=
  identifier c.column ++ " = " ++ c.computation.text

/-- The column with the number of documents, quoted. -/
def docCount : String := identifier Aggregation.docCountColumn

/-- The text of a stage. -/
def text : Stage → String
  | .hasKey key => "where " ++ key.guard
  | .group columns by_ =>
    "summarize " ++ Text.join ", " ((docCount ++ " = count()") :: columns.map metricText) ++
      " by " ++ Text.join ", " (by_.map fun (name, key) =>
        identifier name ++ " = " ++ key.expression)
  | .summarize columns => "summarize " ++ Text.join ", " (columns.map metricText)
  | .within level columns =>
    "join kind=leftsemi (" ++ levelVariable level ++ ") on " ++
      Text.join ", " (columns.map identifier)
  | .minDocCount n => "where " ++ docCount ++ " >= " ++ Text.naturalText n
  | .order keys => "order by " ++ Text.join ", " (keys.map OrderKey.text)
  | .take n => "take " ++ Text.naturalText n
  | .rank restart =>
    "extend " ++ Counter.rank.column ++ " = row_number(1, " ++
      Text.join " or " (restart.map fun c =>
        "prev(" ++ identifier c ++ ") != " ++ identifier c) ++ ")"
  | .rankAtMost n => "where " ++ Counter.rank.column ++ " <= " ++ Text.naturalText n
  | .number => "serialize " ++ Counter.rowNumber.column ++ " = row_number()"
  | .numberAbove n => "where " ++ Counter.rowNumber.column ++ " > " ++ Text.naturalText n
  | .drop counter => "project-away " ++ counter.column
  | .keepColumns patterns => "project-keep " ++ Text.join ", " (patterns.map ColumnPattern.text)
  | .dropColumns patterns => "project-away " ++ Text.join ", " (patterns.map ColumnPattern.text)
  | .count => "count"

end Stage

/-- What an expression starts from. -/
inductive Source where
  /-- The rows of the table that the query selects. -/
  | rows
  /-- The buckets of a level. -/
  | level (number : Nat)
deriving DecidableEq, Repr

/-- The name of a source. -/
def Source.text : Source → String
  | .rows => "_data"
  | .level number => levelVariable number

/-- A source with stages after it. -/
def pipeline (source : Source) (stages : List Stage) : String :=
  Text.join " | " (source.text :: stages.map Stage.text)

end KustoSearch
