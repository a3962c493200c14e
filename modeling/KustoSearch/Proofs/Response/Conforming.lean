import KustoSearch.Proofs.Response.Account
import KustoSearch.Proofs.Response.Cell

/-! # Results that conform to a layout

What the engine promises of its tables, and that every level of such a result is ready to be read.
-/

namespace KustoSearch.Mapper

variable {layout : Layout} {result : Result}

/-- The cell of a row in a column, with the type of the column. -/
def cellOf? (table : Table) (row : Row) (name : String) : Option (ColumnType × Json) := do
  let i ← table.columnIndex? name
  let column ← table.columns[i]?
  let value ← row[i]?
  some (column.type, value)

/-- Whether a row has a cell of some kind in a column. -/
def Has (kind : ColumnType → Json → Prop) (table : Table) (row : Row) (name : String) : Prop :=
  ∃ type value, cellOf? table row name = some (type, value) ∧ kind type value

/-- Whether the table of a level is as its bucket node asks. -/
structure LevelConforms (layout : Layout) (result : Result) (node : BucketNode)
    (listed : BucketTable) (table : Table) : Prop where
  wide : Wide table
  columns : ∀ c ∈ node.columns, ∃ i, table.columnIndex? c = some i
  keys : ∀ row ∈ table.rows, Has Cell.IsKey table row node.plan.name
  docCounts : ∀ row ∈ table.rows,
    Has (fun _ => Cell.IsCount) table row Aggregation.docCountColumn
  metrics : ∀ row ∈ table.rows, ∀ c ∈ node.metricColumns, Has Cell.IsMetric table row c
  /-- The keys of the ancestors are the key path of a row that was delivered for the parent. -/
  parents : ∀ row ∈ table.rows,
    values table (ancestorColumns listed) row ∈ keyPaths layout result node.parent

/-- Whether a result has the tables that a layout lists, as the aggregations ask. -/
structure Conforms (plan : Plan) (layout : Layout) (result : Result) : Prop where
  hits : ∀ name, layout.hits = some name → ∃ table, result.table? name = some table ∧ Wide table
  total : ∀ name, layout.total = some name → ∃ table row, result.table? name = some table ∧
    table.rows = [row] ∧ Wide table ∧
    Has (fun _ => Cell.IsCount) table row Layout.totalColumn
  metrics : ∀ name, layout.metrics = some name → ∃ table row, result.table? name = some table ∧
    table.rows = [row] ∧ Wide table ∧
    ∀ c ∈ Batch.columnsOf (AggregationPlan.metrics plan.aggregations),
      Has Cell.IsMetric table row c.column
  levels : ∀ node ∈ AggregationPlan.nodesOfAll 0 none [] plan.aggregations,
    ∀ listed, layout.buckets[node.number]? = some listed →
      ∃ table, result.table? listed.table = some table ∧
        LevelConforms layout result node listed table

theorem Has.cell {kind : ColumnType → Json → Prop} {table : Table} {row : Row} {name : String}
    (h : Has kind table row name) : ∃ i column value, table.columnIndex? name = some i ∧
      table.columns[i]? = some column ∧ row[i]? = some value ∧ kind column.type value := by
  obtain ⟨type, value, hcell, hkind⟩ := h
  obtain ⟨i, hi, hcell⟩ := Option.bind_eq_some_iff.mp hcell
  obtain ⟨column, hcolumn, hcell⟩ := Option.bind_eq_some_iff.mp hcell
  obtain ⟨v, hv, hcell⟩ := Option.bind_eq_some_iff.mp hcell
  cases hcell
  exact ⟨i, column, value, hi, hcolumn, hv, hkind⟩

/-! ## Rows that are ready -/

theorem metricsReady_of_has {plans : List AggregationPlan} {table : Table} {row : Row}
    (h : ∀ c ∈ Batch.columnsOf (AggregationPlan.metrics plans),
      Has Cell.IsMetric table row c.column) : MetricsReady plans table row := by
  intro m hm
  have hcells : ∃ cells, m.columns.mapM (metricCell table row) = .ok cells := by
    refine Outcome.exists_mapM_eq_ok fun c hc => ?_
    obtain ⟨i, column, value, hi, hcolumn, hvalue, hmetric⟩ :=
      (h c (List.mem_flatMap.mpr ⟨m, hm, hc⟩)).cell
    obtain ⟨shown, hshown⟩ := Cell.metric_of_isMetric hmetric
    refine ⟨(c.role, shown), ?_⟩
    unfold metricCell
    rw [requireColumn_eq_ok.mpr hi]
    refine Outcome.bind_eq_ok.mpr ⟨i, rfl, ?_⟩
    refine Outcome.bind_eq_ok.mpr ⟨value, cell_eq_ok.mpr hvalue, ?_⟩
    rw [hcolumn]
    exact Outcome.bind_eq_ok.mpr ⟨shown, hshown, rfl⟩
  obtain ⟨cells, hcells⟩ := hcells
  exact ⟨metricFromCells m.function cells, Outcome.bind_eq_ok.mpr ⟨cells, hcells, rfl⟩⟩

/-- A level that can be read as the level of a bucket node, with every row of it a bucket. -/
structure Ready (layout : Layout) (result : Result) (node : BucketNode) (listed : BucketTable)
    (rows : LevelRows) : Prop where
  level : LevelOf layout result node.number listed rows
  heads : ∀ row ∈ rows.table.rows, ∃ head raw, bucketHead node.plan rows row = .ok (head, raw)
  metrics : ∀ row ∈ rows.table.rows, MetricsReady node.children rows.table row
  parents : ∀ row ∈ rows.table.rows,
    values rows.table (ancestorColumns listed) row ∈ keyPaths layout result node.parent

/-- The rows of a table are grouped by columns that it has. -/
theorem exists_groups {table : Table} {ancestors : List Nat} (hwide : Wide table)
    (hbound : ∀ i ∈ ancestors, i < table.columns.length) :
    ∃ groups, (table.rows.foldlM (fun groups row => do
      checkWidth table row
      let keys ← ancestors.mapM (cell row)
      .ok (addToGroup (groupKey keys) row groups)) [] : Except Stop (List Group)) = .ok groups := by
  refine Outcome.exists_foldlM_eq_ok fun groups row hrow => ?_
  obtain ⟨keys, hkeys⟩ : ∃ keys, ancestors.mapM (cell row) = .ok keys := by
    refine Outcome.exists_mapM_eq_ok fun i hi => ?_
    have hlt : i < row.length := by
      rw [hwide row hrow]
      exact hbound i hi
    exact ⟨row[i], cell_eq_ok.mpr (List.getElem?_eq_getElem hlt)⟩
  refine ⟨addToGroup (groupKey keys) row groups, ?_⟩
  refine Outcome.bind_eq_ok.mpr ⟨(), checkWidth_eq_ok.mpr (hwide row hrow), ?_⟩
  exact Outcome.bind_eq_ok.mpr ⟨keys, hkeys, rfl⟩

/-- A table with the columns of a level is read. -/
theorem exists_levelRows {level : BucketTable} {table : Table}
    (htable : result.table? level.table = some table) (hwide : Wide table)
    (hsome : level.keyColumns ≠ [])
    (hcolumns : ∀ c ∈ level.keyColumns, ∃ i, table.columnIndex? c = some i)
    (hdocCount : ∃ i, table.columnIndex? Aggregation.docCountColumn = some i) :
    ∃ rows, levelRows result level = .ok rows ∧ rows.table = table := by
  obtain ⟨docCount, hdocCount⟩ := hdocCount
  obtain ⟨indices, hindices⟩ : ∃ indices, level.keyColumns.mapM (requireColumn table) =
      .ok indices := by
    refine Outcome.exists_mapM_eq_ok fun c hc => ?_
    obtain ⟨i, hi⟩ := hcolumns c hc
    exact ⟨i, requireColumn_eq_ok.mpr hi⟩
  have hread := Outcome.mapM_eq_ok.mp hindices
  -- the last column has the own keys, and the ones before it those of the ancestors
  cases hreverse : indices.reverse with
  | nil =>
    rw [List.reverse_eq_nil_iff] at hreverse
    rw [hreverse, List.forall₂_nil_right_iff] at hread
    exact absurd hread hsome
  | cons key ancestors =>
    have hbound : ∀ i ∈ ancestors.reverse, i < table.columns.length := by
      intro i hi
      have hmem : i ∈ indices := by
        rw [← List.mem_reverse, hreverse]
        exact List.mem_cons_of_mem _ (List.mem_reverse.mp hi)
      obtain ⟨c, _, hc⟩ := exists_of_forall₂ hread.flip hmem
      rw [requireColumn_eq_ok] at hc
      exact (List.findIdx?_eq_some_iff_getElem.mp hc).1
    obtain ⟨groups, hgroups⟩ := exists_groups hwide hbound
    refine ⟨⟨table, key, docCount, groups⟩, ?_, rfl⟩
    unfold levelRows
    refine Outcome.bind_eq_ok.mpr ⟨table, requireTable_eq_ok.mpr htable, ?_⟩
    refine Outcome.bind_eq_ok.mpr ⟨indices, hindices, ?_⟩
    rw [hreverse]
    refine Outcome.bind_eq_ok.mpr ⟨docCount, requireColumn_eq_ok.mpr hdocCount, ?_⟩
    exact Outcome.bind_eq_ok.mpr ⟨groups, hgroups, rfl⟩

/-- A row with a key and a count is a bucket. -/
theorem exists_bucketHead {plan : BucketPlan} {rows : LevelRows} {row : Row} {column : Column}
    {raw value : Json} (hlength : plan.key.HasLength)
    (hcolumn : rows.table.columns[rows.keyIndex]? = some column)
    (hraw : row[rows.keyIndex]? = some raw) (hkey : Cell.IsKey column.type raw)
    (hvalue : row[rows.docCountIndex]? = some value) (hcount : Cell.IsCount value) :
    ∃ head raw, bucketHead plan rows row = .ok (head, raw) := by
  obtain ⟨n, hn⟩ := Cell.count?_of_isCount hcount
  obtain ⟨⟨key, text⟩, hshown⟩ :=
    @Cell.bucketKey_of_isKey rows.table.name plan.name column.type plan.key raw hlength hkey
  refine ⟨⟨key, text, n⟩, raw, ?_⟩
  unfold bucketHead
  refine Outcome.bind_eq_ok.mpr ⟨raw, cell_eq_ok.mpr hraw, ?_⟩
  rw [hcolumn]
  refine Outcome.bind_eq_ok.mpr ⟨column.type, rfl, ?_⟩
  refine Outcome.bind_eq_ok.mpr ⟨(key, text), hshown, ?_⟩
  refine Outcome.bind_eq_ok.mpr ⟨value, cell_eq_ok.mpr hvalue, ?_⟩
  rw [hn]

theorem ancestorColumns_table (node : BucketNode) :
    ancestorColumns node.table = node.ancestors.map BucketPlan.name := by
  simp [ancestorColumns, BucketNode.table, BucketNode.keyColumns]

/-- Every level of a conforming result is ready. -/
theorem ready_of_conforms {plan : Plan} (hconforms : Conforms plan layout result)
    {node : BucketNode} (hlength : node.plan.key.HasLength)
    (hnode : node ∈ AggregationPlan.nodesOfAll 0 none [] plan.aggregations)
    (hlisted : layout.buckets[node.number]? = some node.table) :
    ∃ rows, Ready layout result node node.table rows := by
  obtain ⟨table, htable, hlevel⟩ := hconforms.levels node hnode node.table hlisted
  have hkeys : ∀ c ∈ node.keyColumns, ∃ i, table.columnIndex? c = some i := fun c hc =>
    hlevel.columns c (by simp [BucketNode.columns, hc])
  have hdocCount := hlevel.columns Aggregation.docCountColumn (by simp [BucketNode.columns])
  obtain ⟨rows, hrows, rfl⟩ := exists_levelRows htable hlevel.wide
    (by simp [BucketNode.table, BucketNode.keyColumns]) hkeys hdocCount
  have hread := readAs_of_levelRows hrows
  refine ⟨rows, ⟨hlisted, hrows⟩, fun row hrow => ?_, fun row hrow => ?_, hlevel.parents⟩
  · obtain ⟨own, hcolumns, hown⟩ := hread.own
    obtain ⟨i, column, raw, hi, hcolumn, hraw, hkey⟩ := (hlevel.keys row hrow).cell
    obtain ⟨j, _, value, hj, _, hvalue, hcount⟩ := (hlevel.docCounts row hrow).cell
    have hname : own = node.plan.name := by
      rw [ancestorColumns_table] at hcolumns
      simpa [BucketNode.table, BucketNode.keyColumns, eq_comm] using hcolumns
    rw [hname, hi, Option.some.injEq] at hown
    have hindex := hread.docCount
    rw [hj, Option.some.injEq] at hindex
    subst hown
    subst hindex
    exact exists_bucketHead hlength hcolumn hraw hkey hvalue hcount
  · exact metricsReady_of_has fun c hc =>
      hlevel.metrics row hrow c.column (List.mem_map_of_mem hc)

end KustoSearch.Mapper
