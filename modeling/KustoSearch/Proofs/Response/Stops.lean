import KustoSearch.Proofs.Plan.Nodes
import KustoSearch.Proofs.Response.Cell
import KustoSearch.Proofs.Response.Parts
import KustoSearch.Proofs.Response.Trace

/-! # What a mapping stops at

A mapping fails for two reasons only: the tables do not fit the statement, or a level that shows
its empty buckets would have too many of them (`Mapper.Refused`). A row of the hits, of the metrics
or of a level is as long as its table has columns before any of its cells is read, so each of them
is there. The row with the number of hits is read as it came. Main result: `Plan.response_stops`.
-/

namespace KustoSearch

/-! ## Stops of computations -/

/-- Whether a computation stops only as some property says. -/
def StopsIn {α : Type} (p : Stop → Prop) (x : Except Stop α) : Prop :=
  ∀ stop, x = .error stop → p stop

section StopsIn

variable {α β σ : Type} {p : Stop → Prop}

theorem stopsIn_ok (a : α) : StopsIn p (.ok a : Except Stop α) := by
  intro stop h
  cases h

theorem stopsIn_error {stop : Stop} (h : p stop) : StopsIn p (.error stop : Except Stop α) := by
  intro stop' h'
  cases h'
  exact h

theorem StopsIn.imp {q : Stop → Prop} {x : Except Stop α} (h : StopsIn p x)
    (himp : ∀ stop, p stop → q stop) : StopsIn q x :=
  fun stop hstop => himp stop (h stop hstop)

theorem StopsIn.bind {x : Except Stop α} {f : α → Except Stop β} (hx : StopsIn p x)
    (hf : ∀ a, x = .ok a → StopsIn p (f a)) : StopsIn p (x >>= f) := by
  intro stop h
  rcases Outcome.bind_eq_error.mp h with h | ⟨a, ha, h⟩
  · exact hx stop h
  · exact hf a ha stop h

theorem StopsIn.mapM {f : α → Except Stop β} {as : List α} (h : ∀ a ∈ as, StopsIn p (f a)) :
    StopsIn p (as.mapM f) := by
  intro stop hstop
  obtain ⟨a, ha, hstop⟩ := Outcome.exists_mem_of_mapM_eq_error hstop
  exact h a ha stop hstop

theorem StopsIn.foldlM {f : β → α → Except Stop β} {as : List α} {b : β}
    (h : ∀ b, ∀ a ∈ as, StopsIn p (f b a)) : StopsIn p (as.foldlM f b) := by
  induction as generalizing b with
  | nil => exact stopsIn_ok b
  | cons a as ih =>
    rw [List.foldlM_cons]
    exact (h b a (by simp)).bind fun next _ => ih fun b a ha => h b a (List.mem_cons_of_mem _ ha)

/-- A run with a state stops where one of its steps does. -/
theorem StopsIn.run_bind {x : StateT σ (Except Stop) α} {f : α → StateT σ (Except Stop) β}
    {s : σ} (hx : StopsIn p (x.run s))
    (hf : ∀ a t, x.run s = .ok (a, t) → StopsIn p ((f a).run t)) :
    StopsIn p ((x >>= f).run s) := by
  intro stop h
  rcases Outcome.run_bind_eq_error.mp h with h | ⟨a, t, ha, h⟩
  · exact hx stop h
  · exact hf a t ha stop h

theorem StopsIn.run_lift {x : Except Stop α} (hx : StopsIn p x) (s : σ) :
    StopsIn p ((liftM x : StateT σ (Except Stop) α).run s) := by
  intro stop h
  exact hx stop (Outcome.run_lift_eq_error.mp h)

end StopsIn

/-- Whether a stop tells of tables that do not fit. -/
def IsMismatch (stop : Stop) : Prop := ∃ detail, stop = mismatch detail

theorem stopsIn_mismatch {α : Type} (detail : String) :
    StopsIn IsMismatch (.error (mismatch detail) : Except Stop α) :=
  stopsIn_error ⟨detail, rfl⟩

/-! ## Single cells -/

namespace Cell

theorem numeric_stops (table column : String) (value : Json) :
    StopsIn IsMismatch (numeric table column value) := by
  unfold numeric
  split
  · exact stopsIn_ok _
  · exact stopsIn_ok _
  · split_ifs
    · exact stopsIn_ok _
    · split
      · exact stopsIn_ok _
      · exact stopsIn_mismatch _
  · exact stopsIn_mismatch _

theorem metric_stops (table : String) (column : Column) (value : Json) :
    StopsIn IsMismatch (metric table column value) := by
  have hnumber : StopsIn IsMismatch (do
      let v ← numeric table column.name value
      .ok (⟨v, none⟩ : Metric)) :=
    (numeric_stops table column.name value).bind fun v _ => stopsIn_ok _
  unfold metric
  dsimp only
  split
  · split_ifs
    · exact hnumber
    · split
      · exact stopsIn_ok _
      · exact stopsIn_mismatch _
  · exact hnumber

/-- Whether a stop tells of a date that is to be put into intervals of no length. -/
def NoStart (type : ColumnType) (key : BucketKey) (raw : Json) (stop : Stop) : Prop :=
  stop = .fault .remainderByZero ∧ type = .timestamp ∧ (∃ field, key = .date field (.fixed 0)) ∧
    ∃ t, raw.string?.bind Calendar.instant? = some t

theorem bucketKey_stops (table aggregation : String) (type : ColumnType) (key : BucketKey)
    (raw : Json) :
    StopsIn (fun stop => IsMismatch stop ∨ NoStart type key raw stop)
      (bucketKey table aggregation type key raw) := by
  unfold bucketKey
  split_ifs
  · exact stopsIn_error (Or.inl ⟨_, rfl⟩)
  · split
    · split
      · exact stopsIn_error (Or.inl ⟨_, rfl⟩)
      · rename_i t ht
        dsimp only
        split
        · exact stopsIn_ok _
        · rename_i hnone
          -- only the start of a bucket of a date histogram may be missing
          split at hnone
          · rename_i field interval
            obtain rfl := Interval.start?_eq_none.mp hnone
            exact stopsIn_error (Or.inr ⟨rfl, rfl, ⟨field, rfl⟩, t, ht⟩)
          · cases hnone
    · split
      · exact stopsIn_ok _
      · split
        · exact stopsIn_ok _
        · exact stopsIn_error (Or.inl ⟨_, rfl⟩)
      · exact stopsIn_error (Or.inl ⟨_, rfl⟩)
    · exact stopsIn_ok _

end Cell

namespace Mapper

variable {layout : Layout} {result : Result}

theorem requireTable_stops (result : Result) (name : String) :
    StopsIn IsMismatch (requireTable result name) := by
  unfold requireTable
  split
  · exact stopsIn_ok _
  · exact stopsIn_mismatch _

theorem requireColumn_stops (table : Table) (name : String) :
    StopsIn IsMismatch (requireColumn table name) := by
  unfold requireColumn
  split
  · exact stopsIn_ok _
  · exact stopsIn_mismatch _

theorem checkWidth_stops (table : Table) (row : Row) :
    StopsIn IsMismatch (checkWidth table row) := by
  unfold checkWidth
  split_ifs
  · exact stopsIn_ok _
  · exact stopsIn_mismatch _

/-- Reading a cell fails exactly where the row has none there. -/
theorem cell_eq_error {row : Row} {i : Nat} {stop : Stop} :
    cell row i = .error stop ↔ row.length ≤ i ∧ stop = .fault .cellOutOfRange := by
  unfold cell
  cases h : row[i]? with
  | none =>
    have hlength := List.getElem?_eq_none_iff.mp h
    constructor
    · intro h
      cases h
      exact ⟨hlength, rfl⟩
    · rintro ⟨_, rfl⟩
      rfl
  | some value =>
    obtain ⟨hi, _⟩ := List.getElem?_eq_some_iff.mp h
    constructor
    · intro h
      cases h
    · rintro ⟨hlength, _⟩
      omega

theorem cell_stops {p : Stop → Prop} {row : Row} {i : Nat} (h : i < row.length) :
    StopsIn p (cell row i) := by
  intro stop hstop
  have hlength := (cell_eq_error.mp hstop).1
  omega

/-- A column that a table has is a column of its rows too. -/
theorem lt_of_columnIndex? {table : Table} {name : String} {i : Nat}
    (h : table.columnIndex? name = some i) : i < table.columns.length :=
  (List.findIdx?_eq_some_iff_findIdx_eq.mp h).1

/-! ## Metrics and levels -/

theorem metricResult_stops {table : Table} {row : Row}
    (hwide : row.length = table.columns.length) (plan : MetricPlan) :
    StopsIn IsMismatch (metricResult plan table row) := by
  refine StopsIn.bind (StopsIn.mapM fun c _ => ?_) fun cells _ => stopsIn_ok _
  refine (requireColumn_stops table c.column).bind fun i hi => ?_
  have hlt := lt_of_columnIndex? (requireColumn_eq_ok.mp hi)
  refine (cell_stops (by omega)).bind fun value _ => ?_
  rw [List.getElem?_eq_getElem hlt]
  exact (Cell.metric_stops table.name _ value).bind fun m _ => stopsIn_ok _

theorem levelRows_stops (result : Result) (level : BucketTable) :
    StopsIn IsMismatch (levelRows result level) := by
  refine (requireTable_stops result level.table).bind fun table _ => ?_
  refine (StopsIn.mapM fun c _ => requireColumn_stops table c).bind fun indices hindices => ?_
  -- every position is that of a column, so it is one in a row that is wide enough
  have hcolumns : ∀ i ∈ indices, i < table.columns.length := by
    intro i hi
    obtain ⟨c, _, hc⟩ := exists_of_forall₂ (Outcome.mapM_eq_ok.mp hindices).flip hi
    exact lt_of_columnIndex? (requireColumn_eq_ok.mp hc)
  split
  · exact stopsIn_mismatch _
  · rename_i keyIndex ancestors hreverse
    refine (requireColumn_stops table _).bind fun docCountIndex _ => ?_
    refine StopsIn.bind (StopsIn.foldlM fun groups row _ => ?_) fun groups _ => stopsIn_ok _
    refine (checkWidth_stops table row).bind fun _ hwidth => ?_
    refine StopsIn.bind (StopsIn.mapM fun i hi => cell_stops ?_) fun keys _ => stopsIn_ok _
    have hmem : i ∈ indices := by
      rw [← List.mem_reverse, hreverse]
      exact List.mem_cons_of_mem _ (List.mem_reverse.mp hi)
    rw [checkWidth_eq_ok.mp hwidth]
    exact hcolumns i hmem

theorem takeRows_stops (name : String) (level : Nat) (path : List Json) (levels : Levels) :
    StopsIn IsMismatch ((takeRows name level path).run levels) := by
  refine StopsIn.run_bind (x := get) (stopsIn_ok _) fun current state hget => ?_
  cases hget
  cases levels[level]? with
  | none => exact stopsIn_mismatch _
  | some rows => exact stopsIn_ok _

/-! ## Rows with dates -/

/-- The date that a row has as its key. -/
def LevelRows.date? (rows : LevelRows) (row : Row) : Option Calendar.Instant := do
  let raw ← row[rows.keyIndex]?
  let column ← rows.table.columns[rows.keyIndex]?
  if column.type = .timestamp then raw.string?.bind Calendar.instant? else none

/-- Whether a level has a row with a date as its key. -/
def DatedAt (layout : Layout) (result : Result) (level : Nat) : Prop :=
  ∃ listed rows, LevelOf layout result level listed rows ∧
    ∃ row ∈ rows.table.rows, (rows.date? row).isSome

/-- The row of a bucket is as wide as its table, so that only its key may be missing. -/
theorem bucketHead_stops {plan : BucketPlan} {rows : LevelRows} {row : Row}
    (hkey : rows.keyIndex < rows.table.columns.length)
    (hdocCount : rows.docCountIndex < rows.table.columns.length)
    (hwide : row.length = rows.table.columns.length) :
    StopsIn (fun stop => IsMismatch stop ∨ stop = .fault .remainderByZero ∧
      (∃ field, plan.key = .date field (.fixed 0)) ∧ (rows.date? row).isSome)
      (bucketHead plan rows row) := by
  refine (cell_stops (by omega)).bind fun raw hraw => ?_
  rw [List.getElem?_eq_getElem hkey]
  refine StopsIn.bind (stopsIn_ok _) fun type htype => ?_
  cases htype
  refine StopsIn.bind ((Cell.bucketKey_stops _ _ _ _ _).imp fun stop hstop => ?_) fun key _ => ?_
  · refine hstop.imp_right fun ⟨hfault, htype, hzero, t, ht⟩ => ⟨hfault, hzero, ?_⟩
    simp [LevelRows.date?, cell_eq_ok.mp hraw, List.getElem?_eq_getElem hkey, htype, ht]
  · refine (cell_stops (by omega)).bind fun value _ => ?_
    split
    · exact stopsIn_ok _
    · exact stopsIn_error (Or.inl ⟨_, rfl⟩)

/-- A row that has a date as its key is no bucket of intervals of no length. -/
theorem bucketHead_ne_ok {plan : BucketPlan} {rows : LevelRows} {row : Row} {field : String}
    (hzero : plan.key = .date field (.fixed 0)) (hdate : (rows.date? row).isSome)
    (given : BucketHead × Json) : bucketHead plan rows row ≠ .ok given := by
  intro h
  obtain ⟨t, ht⟩ := Option.isSome_iff_exists.mp hdate
  obtain ⟨raw, hraw, ht⟩ := Option.bind_eq_some_iff.mp ht
  obtain ⟨column, hcolumn, ht⟩ := Option.bind_eq_some_iff.mp ht
  rw [Option.ite_none_right_eq_some] at ht
  obtain ⟨raw', hraw', h⟩ := Outcome.bind_eq_ok.mp h
  rw [cell_eq_ok, hraw, Option.some.injEq] at hraw'
  subst hraw'
  rw [hcolumn] at h
  obtain ⟨type, htype, h⟩ := Outcome.bind_eq_ok.mp h
  cases htype
  obtain ⟨key, hkey, _⟩ := Outcome.bind_eq_ok.mp h
  have hnone : (Interval.fixed 0).start? t = none := Interval.start?_eq_none.mpr rfl
  unfold Cell.bucketKey at hkey
  split_ifs at hkey
  simp [ht.1, ht.2, hzero, hnone] at hkey

/-! ## Walks -/

/-- Why tables are refused for the levels of some nodes. -/
inductive Refused (nodes : List BucketNode) : Failure → Prop where
  /-- The tables do not fit the statement. -/
  | mismatch (detail : String) : Refused nodes (.resultShapeMismatch detail)
  /-- A level that shows its empty buckets would have too many of them. -/
  | tooMany {node : BucketNode} (hnode : node ∈ nodes) (hshown : node.plan.minDocCount = 0) :
    Refused nodes (Gaps.tooMany node.plan)

/-- What can be wrong with the intervals of some nodes. No interval that is read is wrong so. -/
inductive Faulty (layout : Layout) (result : Result) (nodes : List BucketNode) :
    Fault → Prop where
  /-- Dates are to be put into intervals of no length. -/
  | noStart {node : BucketNode} (hnode : node ∈ nodes)
    (hzero : ∃ field, node.plan.key = .date field (.fixed 0))
    (hdated : DatedAt layout result node.number) : Faulty layout result nodes .remainderByZero
  /-- Gaps are to be walked in steps of the least number of milliseconds. -/
  | noStep {node : BucketNode} (hnode : node ∈ nodes) (hshown : node.plan.minDocCount = 0)
    (hleast : ∃ field, node.plan.key = .date field (.fixed Int64.minValue)) :
    Faulty layout result nodes .durationOutOfRange

/-- What a walk over the levels of some nodes stops at. -/
def StopsAt (layout : Layout) (result : Result) (nodes : List BucketNode) : Stop → Prop
  | .failure failure => Refused nodes failure
  | .fault fault => Faulty layout result nodes fault

theorem Refused.mono {nodes more : List BucketNode} {failure : Failure}
    (h : Refused nodes failure) (hmore : nodes ⊆ more) : Refused more failure := by
  cases h with
  | mismatch detail => exact .mismatch detail
  | tooMany hnode hshown => exact .tooMany (hmore hnode) hshown

theorem StopsAt.mono {nodes more : List BucketNode} (hmore : nodes ⊆ more) {stop : Stop}
    (h : StopsAt layout result nodes stop) : StopsAt layout result more stop := by
  cases stop with
  | failure failure => exact Refused.mono h hmore
  | fault fault =>
    cases h with
    | noStart hnode hzero hdated => exact Faulty.noStart (hmore hnode) hzero hdated
    | noStep hnode hshown hleast => exact Faulty.noStep (hmore hnode) hshown hleast

theorem stopsAt_of_isMismatch {nodes : List BucketNode} {stop : Stop} (h : IsMismatch stop) :
    StopsAt layout result nodes stop := by
  obtain ⟨detail, rfl⟩ := h
  exact Refused.mismatch detail

/-- Where all intervals have a length, a walk ends in a failure. -/
theorem StopsAt.refused {nodes : List BucketNode} {stop : Stop}
    (h : StopsAt layout result nodes stop)
    (hlengths : ∀ node ∈ nodes, node.plan.key.HasLength) :
    ∃ failure, Refused nodes failure ∧ stop = .failure failure := by
  cases stop with
  | failure failure => exact ⟨failure, h, rfl⟩
  | fault fault =>
    exfalso
    cases h with
    | noStart hnode hzero hdated =>
      obtain ⟨field, hkey⟩ := hzero
      have hlength := hlengths _ hnode
      rw [hkey] at hlength
      exact absurd rfl (Interval.Proper.ne_fixed_zero hlength)
    | noStep hnode hshown hleast =>
      obtain ⟨field, hkey⟩ := hleast
      have hlength := hlengths _ hnode
      rw [hkey] at hlength
      exact absurd hlength Interval.not_proper_minValue

/-- Where no level shows its empty buckets either, the tables do not fit. -/
theorem StopsAt.isMismatch {nodes : List BucketNode} {stop : Stop}
    (h : StopsAt layout result nodes stop)
    (hnodes : ∀ node ∈ nodes, node.plan.minDocCount ≠ 0 ∧ node.plan.key.HasLength) :
    IsMismatch stop := by
  obtain ⟨failure, hrefused, rfl⟩ := h.refused fun node hnode => (hnodes node hnode).2
  cases hrefused with
  | mismatch detail => exact ⟨detail, rfl⟩
  | tooMany hnode hshown => exact absurd hshown (hnodes _ hnode).1

/-- Rows that were taken out of a level are rows of its table, and are as wide as it. -/
structure TakenAt (layout : Layout) (result : Result) (level : Nat) (rows : LevelRows)
    (taken : List Row) : Prop where
  key : rows.keyIndex < rows.table.columns.length
  docCount : rows.docCountIndex < rows.table.columns.length
  wide : ∀ row ∈ taken, row.length = rows.table.columns.length
  dated : ∀ row ∈ taken, (rows.date? row).isSome → DatedAt layout result level

theorem takenAt_of_takeRows {name : String} {level : Nat} {path : List Json}
    {levels after : Levels} {rows : LevelRows} {taken : List Row}
    (hlevels : LevelsOf layout result levels)
    (h : (takeRows name level path).run levels = .ok ((rows, taken), after)) :
    TakenAt layout result level rows taken := by
  obtain ⟨hlevel, rfl, _⟩ := takeRows_eq_ok hlevels.distinct h
  obtain ⟨listed, original, gone, hread, rfl⟩ := hlevels level rows hlevel
  have hrows := readAs_of_levelRows hread.2
  obtain ⟨own, _, hown⟩ := hrows.own
  have hsublist : (takeGroup (groupKey path) (original.without gone).groups).1.Sublist
      original.table.rows := ((hrows.grouped.filter _).taken (groupKey path)).1
  refine ⟨lt_of_columnIndex? hown, lt_of_columnIndex? hrows.docCount, fun row hrow => ?_,
    fun row hrow hdate => ?_⟩
  · exact hrows.width row (hsublist.subset hrow)
  · exact ⟨listed, original, hread, row, hsublist.subset hrow, hdate⟩

theorem finish_stops {node : BucketNode} {nodes : List BucketNode} (hnode : node ∈ nodes)
    (children : List AggregationPlan) (buckets : List Bucket) :
    StopsIn (StopsAt layout result nodes) (finish node.plan children buckets) := by
  intro stop h
  obtain ⟨hshown, ⟨hlong, rfl⟩ | ⟨_, _, rfl⟩⟩ := finish_eq_error.mp h
  · exact Faulty.noStep hnode hshown (Gaps.exists_of_overlong hlong)
  · exact Refused.tooMany hnode hshown

/-- The buckets of rows that were taken out of the level of a node. -/
theorem buckets_stops {node : BucketNode} {nodes : List BucketNode} (hnode : node ∈ nodes)
    {path : List Json} {rows : LevelRows}
    (hchildren : ∀ {path : List Json} {row : Row} {levels : Levels},
      LevelsOf layout result levels → row.length = rows.table.columns.length →
      StopsIn (StopsAt layout result nodes)
        ((aggregations (node.number + 1) path rows.table row node.children).run levels))
    {taken : List Row} (htaken : TakenAt layout result node.number rows taken)
    {levels : Levels} (hlevels : LevelsOf layout result levels) :
    StopsIn (StopsAt layout result nodes) ((taken.mapM fun row => (do
      let (head, raw) ← bucketHead node.plan rows row
      let results ← aggregations (node.number + 1) (path ++ [raw]) rows.table row node.children
      pure (head, membersOf results) : Walk Bucket)).run levels) := by
  obtain ⟨hkey, hdocCount, hwide, hdated⟩ := htaken
  induction taken generalizing levels with
  | nil => exact stopsIn_ok _
  | cons row taken ih =>
    have hrow := hwide row (by simp)
    rw [List.mapM_cons]
    refine StopsIn.run_bind ?_ fun bucket middle hbucket => ?_
    · have hhead : StopsIn (StopsAt layout result nodes) (bucketHead node.plan rows row) := by
        refine (bucketHead_stops hkey hdocCount hrow).imp fun stop hstop => ?_
        rcases hstop with hmismatch | ⟨rfl, hzero, hdate⟩
        · exact stopsAt_of_isMismatch hmismatch
        · exact Faulty.noStart hnode hzero (hdated row (by simp) hdate)
      refine (hhead.run_lift _).run_bind fun head state hfirst => ?_
      obtain ⟨_, rfl⟩ := Outcome.run_lift_eq_ok.mp hfirst
      exact (hchildren hlevels hrow).run_bind fun results state _ => stopsIn_ok _
    · obtain ⟨head, state, hhead, hbucket⟩ := Outcome.run_bind_eq_ok.mp hbucket
      obtain ⟨_, rfl⟩ := Outcome.run_lift_eq_ok.mp hhead
      obtain ⟨results, state, hresults, hbucket⟩ := Outcome.run_bind_eq_ok.mp hbucket
      obtain ⟨_, rfl⟩ := Outcome.run_pure_eq_ok.mp hbucket
      exact (ih (hlevels.aggregations hresults) (fun r hr => hwide r (List.mem_cons_of_mem _ hr))
        (fun r hr => hdated r (List.mem_cons_of_mem _ hr))).run_bind
          fun rest state _ => stopsIn_ok _

mutual

/-- What a walk over an aggregation stops at, where the row above it is wide enough. -/
theorem aggregation_stops {level : Nat} (parent : Option Nat) (ancestors : List BucketPlan)
    {path : List Json} {table : Table} {row : Row} {levels : Levels}
    (hwide : row.length = table.columns.length) :
    (plan : AggregationPlan) → LevelsOf layout result levels →
    StopsIn (StopsAt layout result (plan.nodes level parent ancestors))
      ((aggregation level path table row plan).run levels)
  | .metric plan => by
    intro _
    rw [aggregation]
    exact ((metricResult_stops hwide plan).imp fun _ => stopsAt_of_isMismatch).run_lift _
  | .bucket plan children => by
    intro hlevels
    have hown : (⟨level, parent, ancestors, plan, children⟩ : BucketNode) ∈
        (AggregationPlan.bucket plan children).nodes level parent ancestors := by
      simp [AggregationPlan.nodes]
    rw [aggregation]
    refine StopsIn.run_bind ?_ fun given middle htake => ?_
    · exact (takeRows_stops plan.name level path levels).imp fun _ => stopsAt_of_isMismatch
    · refine StopsIn.run_bind ?_ fun buckets last _ =>
        (finish_stops hown children buckets).run_lift _
      refine buckets_stops hown (fun hlevels hwide => ?_) (takenAt_of_takeRows hlevels htake)
        (hlevels.takeRows htake)
      refine (aggregations_stops (some level) (ancestors ++ [plan]) hwide children hlevels).imp
        fun _ => StopsAt.mono ?_
      rw [AggregationPlan.nodes]
      exact List.subset_cons_self _ _

/-- What a walk over aggregations stops at, where the row above them is wide enough. -/
theorem aggregations_stops {level : Nat} (parent : Option Nat) (ancestors : List BucketPlan)
    {path : List Json} {table : Table} {row : Row} {levels : Levels}
    (hwide : row.length = table.columns.length) :
    (plans : List AggregationPlan) → LevelsOf layout result levels →
    StopsIn (StopsAt layout result (AggregationPlan.nodesOfAll level parent ancestors plans))
      ((aggregations level path table row plans).run levels)
  | [] => by
    intro _
    exact stopsIn_ok _
  | plan :: plans => by
    intro hlevels
    rw [aggregations, AggregationPlan.nodesOfAll]
    refine StopsIn.run_bind ?_ fun first middle hfirst => ?_
    · exact (aggregation_stops parent ancestors hwide plan hlevels).imp
        fun _ => StopsAt.mono (List.subset_append_left _ _)
    · refine ((aggregations_stops parent ancestors hwide plans
        (hlevels.aggregation hfirst)).imp fun _ => StopsAt.mono ?_).run_bind
          fun rest last _ => stopsIn_ok _
      exact List.subset_append_right _ _

end

/-! ## The aggregations -/

theorem metricsRow_stops (metrics : Option Table) (name : String) :
    StopsIn IsMismatch (metricsRow metrics name) := by
  unfold metricsRow
  split
  · exact stopsIn_mismatch _
  · split
    · exact stopsIn_mismatch _
    · exact (checkWidth_stops _ _).bind fun _ _ => stopsIn_ok _

theorem wide_of_metricsRow {metrics : Option Table} {name : String} {table : Table} {row : Row}
    (h : metricsRow metrics name = .ok (table, row)) : row.length = table.columns.length := by
  unfold metricsRow at h
  split at h
  · cases h
  · split at h
    · cases h
    · obtain ⟨_, hwidth, h⟩ := Outcome.bind_eq_ok.mp h
      cases h
      exact checkWidth_eq_ok.mp hwidth

theorem topLevel_stops {metrics : Option Table} {level : Nat} {plans : List AggregationPlan}
    {levels : Levels} (hlevels : LevelsOf layout result levels) :
    StopsIn (StopsAt layout result (AggregationPlan.nodesOfAll level none [] plans))
      ((topLevel metrics level plans).run levels) := by
  induction plans generalizing level levels with
  | nil => exact stopsIn_ok _
  | cons plan plans ih =>
    rw [AggregationPlan.nodesOfAll]
    -- whichever row the plan is read from is wide: that of the metrics, or the one of no table
    have hrest : ∀ (table : Table) (row : Row), row.length = table.columns.length →
        StopsIn (StopsAt layout result (plan.nodes level none [] ++
          AggregationPlan.nodesOfAll (level + plan.levelCount) none [] plans)) ((do
          let given ← aggregation level [] table row plan
          let results ← topLevel metrics (level + plan.levelCount) plans
          pure ((plan.name, given) :: results) : Walk _).run levels) := by
      intro table row hwide
      refine StopsIn.run_bind ?_ fun first middle hfirst => ?_
      · exact (aggregation_stops none [] hwide plan hlevels).imp
          fun _ => StopsAt.mono (List.subset_append_left _ _)
      · exact ((ih (hlevels.aggregation hfirst)).imp
          fun _ => StopsAt.mono (List.subset_append_right _ _)).run_bind
            fun results last _ => stopsIn_ok _
    unfold topLevel
    cases plan with
    | metric m =>
      refine StopsIn.run_bind ?_ fun source state hsource => ?_
      · exact ((metricsRow_stops metrics m.name).imp fun _ => stopsAt_of_isMismatch).run_lift _
      · obtain ⟨hrow, rfl⟩ := Outcome.run_lift_eq_ok.mp hsource
        exact hrest _ _ (wide_of_metricsRow hrow)
    | bucket b children => exact hrest noTable [] rfl

theorem checkAllTaken_stops (levels : Levels) : StopsIn IsMismatch (checkAllTaken levels) := by
  unfold checkAllTaken
  split
  · exact stopsIn_ok _
  · exact stopsIn_mismatch _

theorem allAggregations_stops (plan : Plan) (layout : Layout) (result : Result) :
    StopsIn (StopsAt layout result (AggregationPlan.nodesOfAll 0 none [] plan.aggregations))
      (allAggregations plan layout result) := by
  have hmetrics : StopsIn IsMismatch (layout.metrics.mapM (requireTable result)) := by
    cases layout.metrics with
    | none => exact stopsIn_ok _
    | some name => exact (requireTable_stops result name).bind fun table _ => stopsIn_ok _
  refine StopsIn.bind ?_ fun levels hlevels => ?_
  · exact (StopsIn.mapM fun level _ => levelRows_stops result level).imp
      fun _ => stopsAt_of_isMismatch
  refine (hmetrics.imp fun _ => stopsAt_of_isMismatch).bind fun metrics _ => ?_
  refine (topLevel_stops (levelsOf_of_mapM hlevels)).bind fun given _ => ?_
  dsimp only
  split_ifs
  · exact stopsIn_error (stopsAt_of_isMismatch ⟨_, rfl⟩)
  · exact ((checkAllTaken_stops given.2).imp fun _ => stopsAt_of_isMismatch).bind
      fun _ _ => stopsIn_ok _

/-! ## Hits and their number -/

theorem hitsOf_stops (plan : Plan) (layout : Layout) (result : Result) (ids : Nat → String) :
    StopsIn IsMismatch (hitsOf plan layout result ids) := by
  unfold hitsOf
  cases layout.hits with
  | none => exact stopsIn_ok _
  | some name =>
    refine (requireTable_stops result name).bind fun table _ => ?_
    generalize table.rows = rows, (0 : Nat) = position
    induction rows generalizing position with
    | nil => exact stopsIn_ok _
    | cons row rows ih =>
      unfold hitsFrom
      refine StopsIn.bind ?_ fun first _ => (ih (position + 1)).bind fun rest _ => stopsIn_ok _
      exact (checkWidth_stops table row).bind fun _ _ => stopsIn_ok _

/-- Whether the hits can be read: their table is there, and its rows are as long as it has
columns. -/
def HitsReadable (layout : Layout) (result : Result) : Prop :=
  ∀ name, layout.hits = some name → ∃ table, result.table? name = some table ∧ Wide table

theorem wide_of_hitsFrom {index : String} {source : SourceSelection} {ids : Nat → String}
    {table : Table} {position : Nat} {rows : List Row} {hits : List Hit}
    (h : hitsFrom index source ids table position rows = .ok hits) :
    ∀ row ∈ rows, row.length = table.columns.length := by
  induction rows generalizing position hits with
  | nil => simp
  | cons row rows ih =>
    obtain ⟨first, hfirst, h⟩ := Outcome.bind_eq_ok.mp h
    obtain ⟨rest, hrest, _⟩ := Outcome.bind_eq_ok.mp h
    obtain ⟨_, hwidth, _⟩ := Outcome.bind_eq_ok.mp hfirst
    intro r hr
    rcases List.mem_cons.mp hr with rfl | hr
    · exact checkWidth_eq_ok.mp hwidth
    · exact ih hrest r hr

theorem exists_hitsOf_iff {plan : Plan} {ids : Nat → String} :
    (∃ hits, hitsOf plan layout result ids = .ok hits) ↔ HitsReadable layout result := by
  unfold hitsOf HitsReadable
  cases layout.hits with
  | none => exact ⟨fun _ name h => (by cases h), fun _ => ⟨[], rfl⟩⟩
  | some name =>
    constructor
    · rintro ⟨hits, h⟩ name' hname
      cases hname
      obtain ⟨table, htable, h⟩ := Outcome.bind_eq_ok.mp h
      exact ⟨table, requireTable_eq_ok.mp htable, wide_of_hitsFrom h⟩
    · intro h
      obtain ⟨table, htable, hwide⟩ := h name rfl
      obtain ⟨hits, hhits⟩ := exists_hitsFrom plan.index plan.hits.source ids 0 hwide
      exact ⟨hits, Outcome.bind_eq_ok.mpr ⟨table, requireTable_eq_ok.mpr htable, hhits⟩⟩

/-- Whether the row with the number of hits ends before that number. -/
def TotalCutOff (layout : Layout) (result : Result) : Prop :=
  ∃ name table row rest i, layout.total = some name ∧ result.table? name = some table ∧
    table.rows = row :: rest ∧ table.columnIndex? Layout.totalColumn = some i ∧ row.length ≤ i

/-- No width is checked before the number of hits is read, so its cell may be missing. -/
theorem totalOf_stops (layout : Layout) (result : Result) (hits : List Hit) :
    StopsIn (fun stop => IsMismatch stop ∨
      stop = .fault .cellOutOfRange ∧ TotalCutOff layout result) (totalOf layout result hits) := by
  unfold totalOf
  split
  · exact stopsIn_ok _
  · rename_i name hname
    refine ((requireTable_stops result name).imp fun _ => Or.inl).bind fun table htable => ?_
    refine StopsIn.bind ?_ fun n _ => stopsIn_ok _
    refine ((requireColumn_stops table _).imp fun _ => Or.inl).bind fun i hi => ?_
    split
    · exact stopsIn_error (Or.inl ⟨_, rfl⟩)
    · rename_i row rest hrows
      refine StopsIn.bind (fun stop h => ?_) fun value _ => ?_
      · obtain ⟨hlength, rfl⟩ := cell_eq_error.mp h
        exact Or.inr ⟨rfl, name, table, row, rest, i, hname, requireTable_eq_ok.mp htable, hrows,
          requireColumn_eq_ok.mp hi, hlength⟩
      · split
        · exact stopsIn_ok _
        · exact stopsIn_error (Or.inl ⟨_, rfl⟩)

/-- A row that ends before the number of hits is read past its end. -/
theorem totalOf_of_cutOff (hits : List Hit) (h : TotalCutOff layout result) :
    totalOf layout result hits = .error (.fault .cellOutOfRange) := by
  obtain ⟨name, table, row, rest, i, hname, htable, hrows, hi, hlength⟩ := h
  unfold totalOf
  rw [hname]
  refine Outcome.bind_eq_error.mpr (Or.inr ⟨table, requireTable_eq_ok.mpr htable, ?_⟩)
  refine Outcome.bind_eq_error.mpr (Or.inl ?_)
  refine Outcome.bind_eq_error.mpr (Or.inr ⟨i, requireColumn_eq_ok.mpr hi, ?_⟩)
  rw [hrows]
  exact Outcome.bind_eq_error.mpr (Or.inl (cell_eq_error.mpr ⟨hlength, rfl⟩))

theorem resultsOf_stops (plan : Plan) (layout : Layout) (result : Result) :
    StopsIn (StopsAt layout result (AggregationPlan.nodesOfAll 0 none [] plan.aggregations))
      (resultsOf plan layout result) := by
  unfold resultsOf
  split_ifs
  · exact stopsIn_ok _
  · intro stop h
    cases hall : allAggregations plan layout result with
    | ok results =>
      rw [hall] at h
      cases h
    | error stop' =>
      rw [hall] at h
      cases h
      exact allAggregations_stops plan layout result stop hall

end Mapper

open Mapper

/-- Tables without a response are refused, or the row with the number of hits ends before it, or
some interval is at fault. -/
theorem Plan.response_stops {plan : Plan} {layout : Layout} {result : Result} {took : Nat}
    {ids : Nat → String} {stop : Stop}
    (h : plan.response layout result took ids = .error stop) :
    StopsAt layout result (AggregationPlan.nodesOfAll 0 none [] plan.aggregations) stop ∨
      stop = .fault .cellOutOfRange ∧ HitsReadable layout result ∧ TotalCutOff layout result := by
  rw [response_eq] at h
  rcases Outcome.bind_eq_error.mp h with h | ⟨hits, hhits, h⟩
  · exact Or.inl (stopsAt_of_isMismatch (hitsOf_stops plan layout result ids stop h))
  rcases Outcome.bind_eq_error.mp h with h | ⟨total, _, h⟩
  · refine (totalOf_stops layout result hits stop h).imp stopsAt_of_isMismatch fun hcut => ?_
    exact ⟨hcut.1, exists_hitsOf_iff.mp ⟨hits, hhits⟩, hcut.2⟩
  rcases Outcome.bind_eq_error.mp h with h | ⟨_, _, h⟩
  · exact Or.inl (resultsOf_stops plan layout result stop h)
  · cases h

end KustoSearch
