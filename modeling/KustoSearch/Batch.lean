import KustoSearch.Plan.Stage
import KustoSearch.Text.Blank

/-! # Batches

The statement for a plan. One `let` binds the selected rows, each level of buckets has a `let` of
its own, and every table that the response needs is an output with a name. Levels are numbered in
pre-order of the aggregation tree, which is also the order of the response. The layout says which
table carries which part of the response.
-/

namespace KustoSearch

/-- The table of a level of buckets. -/
structure BucketTable where
  table : String
  aggregation : String
  /-- The key columns of the ancestors, then the own one. -/
  keyColumns : List String
deriving DecidableEq, Repr

/-- Which table carries which part of a response. -/
structure Layout where
  hits : Option String
  total : Option String
  metrics : Option String
  /-- The levels of buckets in pre-order. -/
  buckets : List BucketTable
deriving DecidableEq, Repr

namespace Layout

/-- A layout without tables. -/
def empty : Layout := ⟨none, none, none, []⟩

/-- The names of the tables for hits, for their number and for top-level metrics. -/
def hitsTable : String := "hits"
def totalTable : String := "hitsTotal"
def metricsTable : String := "aggs"

/-- The column that holds the number of rows. -/
def totalColumn : String := "Count"

end Layout

/-- A bound level of buckets. -/
structure Level where
  number : Nat
  stages : List Stage
  aggregation : String
  keyColumns : List String
deriving DecidableEq

namespace Level

/-- The name of the level's table. -/
def table (level : Level) : String := "agg" ++ Text.naturalText level.number

/-- The binding of the level. -/
def text (level : Level) : String :=
  "let " ++ levelVariable level.number ++ " = " ++ pipeline .rows level.stages ++ ";"

end Level

/-- A named result. -/
structure Output where
  source : Source
  stages : List Stage
  name : String
deriving DecidableEq

/-- The text of a named result. -/
def Output.text (o : Output) : String := pipeline o.source o.stages ++ " | as " ++ o.name

/-- A statement with the layout of its results. -/
structure Batch where
  database : String
  table : String
  filter : Kql.Predicate
  levels : List Level
  outputs : List Output
  layout : Layout

namespace Batch

/-- The binding of the selected rows. -/
def rowsText (batch : Batch) : String :=
  "let _data = database(" ++ Kql.textLiteral batch.database ++ ")." ++
    Kql.identifier batch.table ++ " | where " ++ batch.filter.text ++ ";"

/-- The statement: bindings, each on a line, then outputs. -/
def text (batch : Batch) : String :=
  Text.join "\n" (batch.rowsText :: batch.levels.map Level.text) ++ "\n" ++
    Text.join ";\n" (batch.outputs.map Output.text)

/-! ## Names -/

/-- The database and the table of an index; a database may stand before a colon. -/
def splitIndex (index defaultDatabase : String) : Except Failure (String × String) :=
  let (database, table) := match Text.splitAt? [':'] index.toList with
    | some (database, table) =>
      (String.ofList (Text.trim database), String.ofList (Text.trim table))
    | none => (defaultDatabase, Text.trimmed index)
  if Text.containsAny table ['*', ','] then
    .error (.unsupported "IndexPattern"
      ("index pattern [" ++ index ++ "] is not supported, name a single table"))
  else if table.isEmpty || database.isEmpty then
    .error (.malformed ("index [" ++ index ++ "] does not name a database and table"))
  else .ok (database, table)

/-- The first name that has come before, after the names in `seen`. -/
def firstRepeated? (seen : List String) : List String → Option String
  | [] => none
  | name :: names =>
    if seen.contains name then some name else firstRepeated? (name :: seen) names

/-- Refuses columns of one table that have the same name. -/
def requireDistinct (level : String) (columns : List String) : Except Failure Unit :=
  match firstRepeated? [] columns with
  | none => .ok ()
  | some column =>
    .error (.unsupported "AggregationTree"
      ("column [" ++ column ++ "] would be produced twice at aggregation [" ++ level ++
        "], rename one of the aggregations"))

/-- The columns of some metrics. -/
def columnsOf (metrics : List MetricPlan) : List MetricColumn :=
  metrics.flatMap MetricPlan.columns

/-! ## Levels of buckets -/

/-- The sort keys of a level's own order. -/
def ownOrder (plan : BucketPlan) : List OrderKey :=
  let docCount (descending : Bool) : OrderKey :=
    ⟨Aggregation.docCountColumn, descending, false⟩
  let key (descending : Bool) : OrderKey := ⟨plan.name, descending, false⟩
  match plan.order with
  | .countDesc => [docCount true, key false]
  | .countAsc => [docCount false, key false]
  | .keyAsc => [key false]
  | .keyDesc => [key true]

/-- The stages that order a level and keep the first buckets below each parent. -/
def orderStages (plan : BucketPlan) (parentKeys : List String) : List Stage :=
  let grouping := parentKeys.map fun c => (⟨c, false, false⟩ : OrderKey)
  let limit := match plan.limit with
    | none => []
    | some n =>
      if parentKeys.isEmpty then [.take n]
      else [.rank parentKeys, .rankAtMost n, .drop .rank]
  .order (grouping ++ ownOrder plan) :: limit

/-- A level of buckets below some ancestors. -/
def level (number : Nat) (parent : Option Nat) (ancestors : List BucketPlan)
    (plan : BucketPlan) (metrics : List MetricPlan) : Except Failure Level := do
  let chain := ancestors ++ [plan]
  let keyColumns := chain.map BucketPlan.name
  let columns := columnsOf metrics
  requireDistinct plan.name
    (keyColumns ++ [Aggregation.docCountColumn] ++ columns.map MetricColumn.column)
  let parentKeys := ancestors.map BucketPlan.name
  let within := match parent with
    | some parent => [Stage.within parent parentKeys]
    | none => []
  let atLeast := if 1 < plan.minDocCount then [Stage.minDocCount plan.minDocCount] else []
  .ok {
    number := number
    stages :=
      [.hasKey plan.key, .group columns (chain.map fun b => (b.name, b.key))] ++ within ++
        atLeast ++ orderStages plan parentKeys
    aggregation := plan.name
    keyColumns := keyColumns }

mutual

/-- The levels of a plan, numbered from `number` on. -/
def levelsOf (number : Nat) (parent : Option Nat) (ancestors : List BucketPlan) :
    AggregationPlan → Except Failure (List Level)
  | .metric _ => .ok []
  | .bucket plan children => do
    let own ← level number parent ancestors plan (AggregationPlan.metrics children)
    let below ← levelsOfAll (number + 1) (some number) (ancestors ++ [plan]) children
    .ok (own :: below)

/-- The levels of plans one after another. -/
def levelsOfAll (number : Nat) (parent : Option Nat) (ancestors : List BucketPlan) :
    List AggregationPlan → Except Failure (List Level)
  | [] => .ok []
  | plan :: plans => do
    let first ← levelsOf number parent ancestors plan
    let rest ← levelsOfAll (number + first.length) parent ancestors plans
    .ok (first ++ rest)

end

/-! ## Hits -/

/-- A pattern with a star is written as it is, so it may hold nothing that needs quoting. -/
def columnPattern (name : String) : Except Failure ColumnPattern :=
  if !Text.containsAny name ['*'] then .ok (.column name)
  else if name.toList.all fun c => c.isAlphanum || c = '_' || c = '*' then .ok (.pattern name)
  else
    .error (.unsupported "SourceFilter"
      ("wildcard source pattern [" ++ name ++ "] is not supported"))

/-- The stages that choose the columns of a hit. -/
def sourceStages : SourceSelection → Except Failure (List Stage)
  | .all => .ok []
  | .none => .ok []
  | .only includes excludes => do
    let keep ← includes.mapM columnPattern
    let drop ← excludes.mapM columnPattern
    .ok ((if keep.isEmpty then [] else [.keepColumns keep]) ++
      (if drop.isEmpty then [] else [.dropColumns drop]))

/-- The stages that select hits. -/
def hitStages (hits : HitSelection) : Except Failure (List Stage) := do
  let keys := hits.sort.map fun f => (⟨f.field, f.descending, true⟩ : OrderKey)
  let source ← sourceStages hits.source
  .ok ((if keys.isEmpty then [] else [.order keys]) ++
    (if hits.skip = 0 then []
      else [.number, .numberAbove hits.skip, .drop .rowNumber]) ++
    [.take hits.size] ++ source)

/-- The output for the number of hits. -/
def totalOutput : Output := ⟨.rows, [.count], Layout.totalTable⟩

/-- The outputs for the number of hits and for the hits. The number is counted where it is asked
for, and also where there would be no other output. -/
def hitOutputs (hits : HitSelection) (others : Bool) : Except Failure (List Output × Layout) := do
  if hits.size = 0 then
    if hits.trackTotal || !others then
      .ok ([totalOutput], { Layout.empty with total := some Layout.totalTable })
    else .ok ([], Layout.empty)
  else
    let stages ← hitStages hits
    let output : Output := ⟨.rows, stages, Layout.hitsTable⟩
    if hits.trackTotal then
      .ok ([totalOutput, output],
        { Layout.empty with total := some Layout.totalTable, hits := some Layout.hitsTable })
    else .ok ([output], { Layout.empty with hits := some Layout.hitsTable })

/-! ## The whole statement -/

/-- The output for top-level metrics. -/
def metricOutputs (metrics : List MetricPlan) : Except Failure (List Output) := do
  if metrics.isEmpty then .ok []
  else
    let columns := columnsOf metrics
    requireDistinct "top level" (columns.map MetricColumn.column)
    .ok [⟨.rows, [.summarize columns], Layout.metricsTable⟩]

/-- The output of a level. -/
def levelOutput (level : Level) : Output := ⟨.level level.number, [], level.table⟩

/-- The table of a level. -/
def levelTable (level : Level) : BucketTable :=
  ⟨level.table, level.aggregation, level.keyColumns⟩

end Batch

/-- The statement of a plan; the default database serves an index that names none. -/
def Plan.batch (plan : Plan) (defaultDatabase : String) : Except Failure Batch := do
  let (database, table) ← Batch.splitIndex plan.index defaultDatabase
  let levels ← Batch.levelsOfAll 0 none [] plan.aggregations
  let metrics ← Batch.metricOutputs (AggregationPlan.metrics plan.aggregations)
  let before := levels.map Batch.levelOutput ++ metrics
  let (hits, layout) ← Batch.hitOutputs plan.hits (!before.isEmpty)
  .ok {
    database := database
    table := table
    filter := plan.filter
    levels := levels
    outputs := before ++ hits
    layout := { layout with
      metrics := if metrics.isEmpty then none else some Layout.metricsTable
      buckets := levels.map Batch.levelTable } }

end KustoSearch
