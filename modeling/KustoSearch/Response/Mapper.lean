import KustoSearch.Batch
import KustoSearch.Response.Cell
import KustoSearch.Response.Gaps

/-! # Responses from tables

The response that the tables of a batch stand for. Each level of buckets is read from a table of
its own: its rows are grouped by the keys of their ancestors, and every bucket takes the group of
its own path. A row that no bucket takes is a mismatch.
-/

namespace KustoSearch

namespace Mapper

/-- The table of a name. -/
def requireTable (result : Result) (name : String) : Except Stop Table :=
  match result.table? name with
  | some table => .ok table
  | none => .error (mismatch ("result table " ++ name ++ " is missing"))

/-- The position of a column. -/
def requireColumn (table : Table) (name : String) : Except Stop Nat :=
  match table.columnIndex? name with
  | some i => .ok i
  | none =>
    .error (mismatch ("column " ++ name ++ " is missing from table " ++ table.name))

/-- Refuses a row that is not as long as the table has columns. -/
def checkWidth (table : Table) (row : Row) : Except Stop Unit :=
  if row.length = table.columns.length then .ok ()
  else
    .error (mismatch ("row in table " ++ table.name ++ " has " ++
      Text.naturalText row.length ++ " values for " ++
      Text.naturalText table.columns.length ++ " columns"))

/-- A cell of a row. -/
def cell (row : Row) (i : Nat) : Except Stop Json :=
  match row[i]? with
  | some value => .ok value
  | none => .error (.fault .cellOutOfRange)

/-! ## Hits -/

/-- The columns of a row as the members of a hit. -/
def hitSource (source : SourceSelection) (table : Table) (row : Row) :
    Option (List (String × Json)) :=
  if source = .none then none
  else
    some (membersOf ((table.columns.zip row).map fun (column, value) =>
      (column.name, Cell.sourceValue column.type value)))

/-- The hit of a row; hits get their ids from a supply, by position. -/
def hit (index : String) (source : SourceSelection) (ids : Nat → String) (table : Table)
    (position : Nat) (row : Row) : Except Stop Hit := do
  checkWidth table row
  .ok ⟨index, ids position, hitSource source table row⟩

/-- The hits of rows from a position on. -/
def hitsFrom (index : String) (source : SourceSelection) (ids : Nat → String) (table : Table) :
    Nat → List Row → Except Stop (List Hit)
  | _, [] => .ok []
  | position, row :: rows => do
    let h ← hit index source ids table position row
    let hs ← hitsFrom index source ids table (position + 1) rows
    .ok (h :: hs)

/-- The number of hits that a table holds. -/
def readTotal (table : Table) : Except Stop Nat := do
  let i ← requireColumn table Layout.totalColumn
  match table.rows with
  | [] => .error (mismatch ("table " ++ table.name ++ " has no rows"))
  | row :: _ =>
    let value ← cell row i
    match Cell.count? value with
    | some n => .ok n
    | none =>
      .error (mismatch ("total in table " ++ table.name ++ " is not a count: " ++ value.text))

/-! ## Metrics -/

/-- The value with the role of a statistic. -/
def statistic (cells : List (MetricRole × Cell.Metric)) (s : Statistic) : Json :=
  match cells.find? fun c => c.1 = .statistic s with
  | some c => c.2.value
  | none => .null

/-- The natural number zero. -/
def zero : Json := Json.ofNat 0

/-- Zero in the place of null. -/
def zeroIfNull (value : Json) : Json := if value.isNull then zero else value

/-- The result of a metric from its cells. Sums and counts of nothing are zero. -/
def metricFromCells (function : MetricFunction) (cells : List (MetricRole × Cell.Metric)) :
    AggregationResult :=
  let first := match cells with
    | c :: _ => c.2
    | [] => Cell.Metric.none
  match function with
  | .stats =>
    let count := (Cell.count? (statistic cells .count)).getD 0
    if count = 0 then .stats 0 .null .null .null zero
    else
      .stats count (statistic cells .min) (statistic cells .max) (statistic cells .avg)
        (zeroIfNull (statistic cells .sum))
  | .percentiles _ =>
    .percentiles (membersOf (cells.filterMap fun c =>
      match c.1 with
      | .percentile p => some (Decimal.descriptiveText p, c.2.value)
      | _ => none))
  | .sum => .single (zeroIfNull first.value) none
  | .cardinality => .single (zeroIfNull first.value) none
  | .valueCount => .single (zeroIfNull first.value) none
  | .avg => .single first.value first.asString
  | .min => .single first.value first.asString
  | .max => .single first.value first.asString

/-- The cell of a metric column. -/
def metricCell (table : Table) (row : Row) (c : MetricColumn) :
    Except Stop (MetricRole × Cell.Metric) := do
  let i ← requireColumn table c.column
  let value ← cell row i
  match table.columns[i]? with
  | some column =>
    let m ← Cell.metric table.name column value
    .ok (c.role, m)
  | none => .error (.fault .cellOutOfRange)

/-- The result of a metric from a row. -/
def metricResult (plan : MetricPlan) (table : Table) (row : Row) :
    Except Stop AggregationResult := do
  let cells ← plan.columns.mapM (metricCell table row)
  .ok (metricFromCells plan.function cells)

/-- The result of a metric over no documents. -/
def emptyMetric (plan : MetricPlan) : AggregationResult :=
  metricFromCells plan.function (plan.columns.map fun c => (c.role, Cell.Metric.none))

/-- The results of sub-aggregations in a bucket without documents. -/
def emptyResults (children : List AggregationPlan) : List (String × AggregationResult) :=
  membersOf (children.map fun
    | .metric plan => (plan.name, emptyMetric plan)
    | .bucket plan _ => (plan.name, .buckets []))

/-! ## Levels of buckets -/

/-- Rows that share the keys of their ancestors, under the text of those keys. -/
abbrev Group := String × List Row

/-- The rows of a level that no bucket has taken yet. -/
structure LevelRows where
  table : Table
  keyIndex : Nat
  docCountIndex : Nat
  groups : List Group

/-- The text of a list of keys. -/
def groupKey (keys : List Json) : String := (Json.array keys).text

/-- Adds a row at the end of its group. -/
def addToGroup (key : String) (row : Row) : List Group → List Group
  | [] => [(key, [row])]
  | (k, rows) :: groups =>
    if k = key then (k, rows ++ [row]) :: groups else (k, rows) :: addToGroup key row groups

/-- Takes a group out; a key without rows has the empty group. -/
def takeGroup (key : String) : List Group → List Row × List Group
  | [] => ([], [])
  | (k, rows) :: groups =>
    if k = key then (rows, groups)
    else
      let (taken, rest) := takeGroup key groups
      (taken, (k, rows) :: rest)

/-- The rows of a level in groups. -/
def levelRows (result : Result) (level : BucketTable) : Except Stop LevelRows := do
  let table ← requireTable result level.table
  let indices ← level.keyColumns.mapM (requireColumn table)
  match indices.reverse with
  | [] =>
    .error (mismatch ("bucket level " ++ level.table ++ " declares no key column"))
  | keyIndex :: ancestors =>
    let ancestors := ancestors.reverse
    let docCountIndex ← requireColumn table Aggregation.docCountColumn
    let groups ← table.rows.foldlM (fun groups row => do
      checkWidth table row
      let keys ← ancestors.mapM (cell row)
      .ok (addToGroup (groupKey keys) row groups)) []
    .ok ⟨table, keyIndex, docCountIndex, groups⟩

/-- The levels with the rows that are left. -/
abbrev Levels := List LevelRows

/-- Computations that take rows out of levels. -/
abbrev Walk := StateT Levels (Except Stop)

/-- Takes the rows of a level that lie below a path of keys. -/
def takeRows (name : String) (level : Nat) (path : List Json) : Walk (LevelRows × List Row) := do
  let levels ← get
  match levels[level]? with
  | none =>
    throw (mismatch ("no result table for bucket aggregation [" ++ name ++ "]"))
  | some rows =>
    let (taken, rest) := takeGroup (groupKey path) rows.groups
    set (levels.set level { rows with groups := rest })
    pure (rows, taken)

/-- The own members of the bucket of a row, and its key as it was delivered. -/
def bucketHead (plan : BucketPlan) (rows : LevelRows) (row : Row) :
    Except Stop (BucketHead × Json) := do
  let raw ← cell row rows.keyIndex
  let type ← match rows.table.columns[rows.keyIndex]? with
    | some column => .ok column.type
    | none => .error (.fault .cellOutOfRange)
  let (key, text) ← Cell.bucketKey rows.table.name plan.name type plan.key raw
  let value ← cell row rows.docCountIndex
  match Cell.count? value with
  | some n => .ok (⟨key, text, n⟩, raw)
  | none =>
    .error (mismatch ("doc_count in table " ++ rows.table.name ++ " is not a count: " ++
      value.text))

/-- The buckets of a level, with the gaps between them filled where empty ones are shown. -/
def finish (plan : BucketPlan) (children : List AggregationPlan) (buckets : List Bucket) :
    Except Stop AggregationResult :=
  if plan.minDocCount = 0 then
    if Gaps.overlong plan.key buckets then .error (.fault .durationOutOfRange)
    else
      match Gaps.fill? plan.key (emptyResults children) buckets with
      | some buckets => .ok (.buckets buckets)
      | none => .error (.failure (Gaps.tooMany plan))
  else .ok (.buckets buckets)

mutual

/-- The result of an aggregation. Buckets are read from `level` on, below a path of keys; metrics
are read from a row. -/
def aggregation (level : Nat) (path : List Json) (table : Table) (row : Row) :
    AggregationPlan → Walk AggregationResult
  | .metric plan => metricResult plan table row
  | .bucket plan children => do
    let (rows, taken) ← takeRows plan.name level path
    let buckets ← taken.mapM fun row => do
      let (head, raw) ← bucketHead plan rows row
      let results ← aggregations (level + 1) (path ++ [raw]) rows.table row children
      pure (head, membersOf results)
    finish plan children buckets

/-- The results of aggregations, whose levels follow one another. -/
def aggregations (level : Nat) (path : List Json) (table : Table) (row : Row) :
    List AggregationPlan → Walk (List (String × AggregationResult))
  | [] => pure []
  | plan :: plans => do
    let result ← aggregation level path table row plan
    let results ← aggregations (level + plan.levelCount) path table row plans
    pure ((plan.name, result) :: results)

end

/-- The row that holds the top-level metrics. -/
def metricsRow (metrics : Option Table) (name : String) : Except Stop (Table × Row) := do
  match metrics with
  | none => .error (mismatch ("no metrics table for [" ++ name ++ "]"))
  | some table =>
    match table.rows with
    | [] => .error (mismatch ("metrics table " ++ table.name ++ " has no rows"))
    | row :: _ =>
      checkWidth table row
      .ok (table, row)

/-- A table without columns and rows, for buckets, which read none but their own. -/
def noTable : Table := ⟨"", [], []⟩

/-- The results of the top-level aggregations from `level` on. -/
def topLevel (metrics : Option Table) (level : Nat) :
    List AggregationPlan → Walk (List (String × AggregationResult))
  | [] => pure []
  | plan :: plans => do
    let (table, row) ← match plan with
      | .metric m => liftM (metricsRow metrics m.name)
      | .bucket .. => pure (noTable, [])
    let result ← aggregation level [] table row plan
    let results ← topLevel metrics (level + plan.levelCount) plans
    pure ((plan.name, result) :: results)

/-- The number of rows that no bucket has taken. -/
def LevelRows.left (rows : LevelRows) : Nat := (rows.groups.flatMap Prod.snd).length

/-- Refuses rows that no bucket has taken. -/
def checkAllTaken (levels : Levels) : Except Stop Unit :=
  match levels.find? fun rows => rows.left != 0 with
  | none => .ok ()
  | some rows =>
    .error (mismatch (Text.naturalText rows.left ++ " rows of table " ++ rows.table.name ++
      " do not belong to any parent bucket"))

/-- The results of all aggregations. -/
def allAggregations (plan : Plan) (layout : Layout) (result : Result) :
    Except Stop (List (String × AggregationResult)) := do
  let levels ← layout.buckets.mapM (levelRows result)
  let metrics ← layout.metrics.mapM (requireTable result)
  let (results, levels) ← (topLevel metrics 0 plan.aggregations).run levels
  let count := AggregationPlan.levelCounts plan.aggregations
  if count != layout.buckets.length then
    .error (mismatch ("layout lists " ++ Text.naturalText layout.buckets.length ++
      " bucket levels, aggregation tree has " ++ Text.naturalText count))
  else
    checkAllTaken levels
    .ok (membersOf results)

end Mapper

/-- The response that tables stand for. -/
def Plan.response (plan : Plan) (layout : Layout) (result : Result) (took : Nat)
    (ids : Nat → String) : Except Stop Response := do
  let hits ← match layout.hits with
    | some name => do
      let table ← Mapper.requireTable result name
      Mapper.hitsFrom plan.index plan.hits.source ids table 0 table.rows
    | none => .ok []
  let total ← match layout.total with
    | some name => do
      let table ← Mapper.requireTable result name
      let n ← Mapper.readTotal table
      .ok ⟨n, true⟩
    | none => .ok ⟨hits.length, false⟩
  let aggregations ←
    if plan.aggregations.isEmpty then .ok none
    else do
      let results ← Mapper.allAggregations plan layout result
      .ok (some results)
  .ok ⟨took, total, hits, aggregations⟩

end KustoSearch
