import KustoSearch.Proofs.Decimal.Value
import KustoSearch.Proofs.Response.Conforming
import KustoSearch.Proofs.Response.Sources

/-! # Counts

Where the counts of a response come from. The number of hits and the numbers of documents are those
that their cells hold, up to the greatest count of 64 bits, and any other cell makes the response
fail. The count of a statistics result comes from what its cell is made into as a metric, and is
zero where that is no count; a cell that is made into nothing makes the response fail. Main result:
`Plan.response_counts`.
-/

namespace KustoSearch

/-! ## Cells -/

namespace Cell

/-- Whether a cell holds a natural number, as a number or as the digits of one. -/
def Holds : Json → Nat → Prop
  | .number (.natural n), k => n.toNat = k
  | .number (.double x), k => x.value = k
  | .string s, k => ∃ digits, Text.IsDigits digits ∧
    (s.toList = digits ∨ s.toList = '+' :: digits) ∧ Text.digitsValue digits = k
  | _, _ => False

/-- Whether a count is the one that a cell holds. A floating-point number past the greatest count
of 64 bits stands for that one. -/
def Tallied (value : Json) (n : Nat) : Prop :=
  Holds value n ∧ n < 2 ^ 64 ∨
    ∃ x k, value = .number (.double x) ∧ Holds value k ∧ 2 ^ 64 ≤ k ∧ n = 2 ^ 64 - 1

theorem count?_eq_some {value : Json} {n : Nat} : count? value = some n ↔ Tallied value n := by
  unfold Tallied
  cases value with
  | number v =>
    cases v with
    | natural m =>
      simp only [count?, Holds, Option.some.injEq, reduceCtorEq, false_and, exists_false, or_false,
        Json.number.injEq]
      constructor
      · rintro rfl
        exact ⟨rfl, m.toNat_lt⟩
      · exact And.left
    | negative k => simp [count?, Holds]
    | double x =>
      have hlimit : Nat.pow 2 64 - 1 = 2 ^ 64 - 1 := rfl
      simp only [count?, Holds, Option.ite_none_right_eq_some, Bool.and_eq_true,
        Option.some.injEq, Json.number.injEq, Number.double.injEq, Binary64.value_eq_natCast_iff,
        hlimit]
      constructor
      · rintro ⟨⟨hsign, hwhole⟩, rfl⟩
        -- past 64 bits the greatest count is taken
        by_cases hfits : x.wholePart < 2 ^ 64
        · rw [Nat.min_eq_left (by omega)]
          exact Or.inl ⟨⟨hsign, hwhole, rfl⟩, hfits⟩
        · rw [Nat.min_eq_right (by omega)]
          exact Or.inr ⟨x, x.wholePart, rfl, ⟨hsign, hwhole, rfl⟩, by omega, rfl⟩
      · rintro (⟨⟨hsign, hwhole, rfl⟩, hfits⟩ | ⟨_, k, _, ⟨hsign, hwhole, rfl⟩, hlarge, rfl⟩)
        · exact ⟨⟨hsign, hwhole⟩, Nat.min_eq_left (by omega)⟩
        · exact ⟨⟨hsign, hwhole⟩, Nat.min_eq_right (by omega)⟩
  | string s =>
    simp only [count?, Holds, Text.uint64?, Option.filter_eq_some_iff, Text.unsigned?_eq_some,
      decide_eq_true_eq, reduceCtorEq, false_and, exists_false, or_false]
    exact Iff.rfl
  | null => simp [count?, Holds]
  | bool b => simp [count?, Holds]
  | array items => simp [count?, Holds]
  | object members => simp [count?, Holds]

theorem count?_eq_none {value : Json} : count? value = none ↔ ∀ n, ¬ Tallied value n := by
  rw [Option.eq_none_iff_forall_ne_some]
  exact forall_congr' fun n => not_congr count?_eq_some

/-- What a cell of a metric is made into. Numbers stay as they are, and texts become the nearest
floating-point number, or in a column of dates the milliseconds of one. -/
inductive MadeInto (type : ColumnType) : Json → Json → Prop where
  | number (v : Number) : MadeInto type (.number v) (.number v)
  | null : MadeInto type .null .null
  | noNumber {s : String} (htype : type ≠ .timestamp ∨ s = "") (h : s ∈ noNumbers) :
      MadeInto type (.string s) .null
  | text {s : String} {x : Binary64} (htype : type ≠ .timestamp) (hs : s ∉ noNumbers)
      (h : Decimal.finite? s.toList = some x) : MadeInto type (.string s) (.number (.double x))
  | date {s : String} {t : Calendar.Instant} (htype : type = .timestamp) (hs : s ≠ "")
      (h : Calendar.instant? s = some t) : MadeInto type (.string s) (Json.ofInt t.millis)

theorem madeInto_of_numeric {table column : String} {type : ColumnType} {value shown : Json}
    (htype : type ≠ .timestamp ∨ ∀ s, value = .string s → s = "")
    (h : numeric table column value = .ok shown) : MadeInto type value shown := by
  unfold numeric at h
  split at h
  · cases h
    exact .null
  · cases h
    exact .number _
  · rename_i s
    have hempty : type ≠ .timestamp ∨ s = "" := htype.imp_right fun hall => hall s rfl
    split_ifs at h with hnone
    · cases h
      exact .noNumber hempty (by simpa using hnone)
    · split at h
      · rename_i hread
        cases h
        have hs : s ∉ noNumbers := by simpa using hnone
        rcases hempty with htype | rfl
        · exact .text htype hs hread
        · simp [noNumbers] at hs
      · cases h
  · cases h

theorem madeInto_of_metric {table : String} {column : Column} {value : Json} {shown : Metric}
    (h : metric table column value = .ok shown) : MadeInto column.type value shown.value := by
  have hnumber : (column.type ≠ .timestamp ∨ ∀ s, value = .string s → s = "") → (do
      let v ← numeric table column.name value
      .ok ⟨v, none⟩ : Except Stop Metric) = .ok shown → MadeInto column.type value shown.value := by
    intro htype h
    obtain ⟨v, hv, h⟩ := Outcome.bind_eq_ok.mp h
    cases h
    exact madeInto_of_numeric htype hv
  unfold metric at h
  dsimp only at h
  split at h
  · rename_i s htype
    split_ifs at h with hempty
    · refine hnumber (Or.inr fun other hother => ?_) h
      cases hother
      exact String.isEmpty_iff.mp hempty
    · split at h
      · rename_i hread
        cases h
        exact .date htype (fun hs => hempty (String.isEmpty_iff.mpr hs)) hread
      · cases h
  · rename_i hother
    refine hnumber ?_ h
    by_cases htype : column.type = .timestamp
    · exact Or.inr fun s hs => absurd hs (hother s htype)
    · exact Or.inl htype

/-- The count of a statistics result for the cell of its count: that of what the cell is made into,
and zero where that holds no count. -/
def CountShown (type : ColumnType) (value : Json) (n : Nat) : Prop :=
  ∃ shown, MadeInto type value shown ∧ (Tallied shown n ∨ n = 0 ∧ ∀ k, ¬ Tallied shown k)

theorem countOrZero {shown : Json} {n : Nat} (h : (count? shown).getD 0 = n) :
    Tallied shown n ∨ n = 0 ∧ ∀ k, ¬ Tallied shown k := by
  cases hcount : count? shown with
  | some k =>
    rw [hcount] at h
    cases h
    exact Or.inl (count?_eq_some.mp hcount)
  | none =>
    rw [hcount] at h
    exact Or.inr ⟨h.symm, count?_eq_none.mp hcount⟩

theorem Holds.unique {value : Json} {n k : Nat} (h : Holds value n) (h' : Holds value k)
    (hnumber : ∃ v, value = .number v) : n = k := by
  obtain ⟨v, rfl⟩ := hnumber
  cases v with
  | natural m => exact h.symm.trans h'
  | negative m => exact h.elim
  | double x => exact_mod_cast h.symm.trans h'

/-- A number below the greatest count of 64 bits is shown as it is. -/
theorem CountShown.eq_of_holds {type : ColumnType} {v : Number} {n k : Nat}
    (h : CountShown type (.number v) n) (hk : Holds (.number v) k) (hfits : k < 2 ^ 64) :
    n = k := by
  obtain ⟨_, ⟨v⟩, htallied | ⟨rfl, hnone⟩⟩ := h
  · rcases htallied with ⟨hn, _⟩ | ⟨x, m, _, hm, hlarge, _⟩
    · exact hn.unique hk ⟨v, rfl⟩
    · have hsame := hm.unique hk ⟨v, rfl⟩
      omega
  · exact absurd (Or.inl ⟨hk, hfits⟩) (hnone k)

end Cell

/-! ## Results -/

namespace Mapper

open Cell (Tallied CountShown)

variable {layout : Layout} {result : Result}

/-- Whether the count of a statistics result is that of its cell, and the other statistics are
left out where it is zero. -/
def StatsCounted (plan : MetricPlan) (table : Table) (row : Row) (given : AggregationResult) :
    Prop :=
  ∃ count least greatest mean sum, given = .stats count least greatest mean sum ∧
    (count = 0 → least = .null ∧ greatest = .null ∧ mean = .null ∧ sum = zero) ∧
    match plan.columns.find? fun c => c.role = .statistic .count with
    | none => count = 0
    | some c => ∃ i column value, table.columnIndex? c.column = some i ∧
      table.columns[i]? = some column ∧ row[i]? = some value ∧
      CountShown column.type value count

theorem metricCell_eq_ok {table : Table} {row : Row} {c : MetricColumn}
    {cell : MetricRole × Cell.Metric} (h : metricCell table row c = .ok cell) :
    cell.1 = c.role ∧ ∃ i column value, table.columnIndex? c.column = some i ∧
      table.columns[i]? = some column ∧ row[i]? = some value ∧
      Cell.metric table.name column value = .ok cell.2 := by
  obtain ⟨i, hi, h⟩ := Outcome.bind_eq_ok.mp h
  obtain ⟨value, hvalue, h⟩ := Outcome.bind_eq_ok.mp h
  split at h
  · rename_i column hcolumn
    obtain ⟨m, hm, h⟩ := Outcome.bind_eq_ok.mp h
    cases h
    exact ⟨rfl, i, column, value, requireColumn_eq_ok.mp hi, hcolumn, cell_eq_ok.mp hvalue, hm⟩
  · cases h

/-- The cell of the first column of a role is the first cell of the role. -/
theorem find?_cells {table : Table} {row : Row} (role : MetricRole) {columns : List MetricColumn}
    {cells : List (MetricRole × Cell.Metric)}
    (h : List.Forall₂ (fun c cell => metricCell table row c = .ok cell) columns cells) :
    (columns.find? (fun c => c.role = role) = none ∧
        cells.find? (fun cell => cell.1 = role) = none) ∨
      ∃ c cell, columns.find? (fun c => c.role = role) = some c ∧
        cells.find? (fun cell => cell.1 = role) = some cell ∧
        metricCell table row c = .ok cell := by
  induction h with
  | nil => exact Or.inl ⟨rfl, rfl⟩
  | @cons c cell columns cells hcell _ ih =>
    have hrole : cell.1 = c.role := (metricCell_eq_ok hcell).1
    by_cases hfirst : c.role = role
    · exact Or.inr ⟨c, cell, by simp [hfirst], by simp [hrole, hfirst], hcell⟩
    · simpa [hrole, hfirst] using ih

/-- A statistics result is read from a row with its count. -/
theorem statsCounted_of_metricResult {plan : MetricPlan} {table : Table} {row : Row}
    {given : AggregationResult} (hstats : plan.function = .stats)
    (h : metricResult plan table row = .ok given) : StatsCounted plan table row given := by
  obtain ⟨cells, hcells, h⟩ := Outcome.bind_eq_ok.mp h
  cases h
  -- whatever the count, it is shown, and the cell of the count has it
  have hcount : ∀ n, (Cell.count? (statistic cells .count)).getD 0 = n →
      match plan.columns.find? fun c => c.role = .statistic .count with
      | none => n = 0
      | some c => ∃ i column value, table.columnIndex? c.column = some i ∧
        table.columns[i]? = some column ∧ row[i]? = some value ∧
        CountShown column.type value n := by
    intro n hn
    rcases find?_cells (.statistic .count) (Outcome.mapM_eq_ok.mp hcells) with
      ⟨hcolumns, hnone⟩ | ⟨c, cell, hcolumns, hsome, hcell⟩
    · rw [hcolumns]
      rw [statistic, hnone] at hn
      exact hn.symm
    · rw [hcolumns]
      rw [statistic, hsome] at hn
      obtain ⟨_, i, column, value, hi, hcolumn, hvalue, hmetric⟩ := metricCell_eq_ok hcell
      exact ⟨i, column, value, hi, hcolumn, hvalue, _, Cell.madeInto_of_metric hmetric,
        Cell.countOrZero hn⟩
  unfold metricFromCells
  rw [hstats]
  dsimp only
  split_ifs with hzero
  · exact ⟨_, _, _, _, _, rfl, fun _ => ⟨rfl, rfl, rfl, rfl⟩, hcount 0 hzero⟩
  · exact ⟨_, _, _, _, _, rfl, fun h => absurd h hzero, hcount _ rfl⟩

/-- Counts as the cells that they are read from hold them. -/
def Reading.counted : Reading where
  metric plan table row given := plan.function = .stats → StatsCounted plan table row given
  head plan rows row head := ∃ raw value, bucketHead plan rows row = .ok (head, raw) ∧
    row[rows.docCountIndex]? = some value ∧ Tallied value head.docCount
  level plan children delivered given := ∃ shown, given = .buckets shown ∧
    (plan.minDocCount ≠ 0 → shown = delivered) ∧
      Gaps.Fills (emptyResults children) delivered shown

theorem bucketHead_counted {plan : BucketPlan} {rows : LevelRows} {row : Row} {head : BucketHead}
    {raw : Json} (h : bucketHead plan rows row = .ok (head, raw)) :
    ∃ value, row[rows.docCountIndex]? = some value ∧ Tallied value head.docCount := by
  obtain ⟨key, _, h⟩ := Outcome.bind_eq_ok.mp h
  split at h
  · obtain ⟨type, _, h⟩ := Outcome.bind_eq_ok.mp h
    obtain ⟨shown, _, h⟩ := Outcome.bind_eq_ok.mp h
    obtain ⟨value, hvalue, h⟩ := Outcome.bind_eq_ok.mp h
    split at h
    · rename_i n hcount
      cases h
      exact ⟨value, cell_eq_ok.mp hvalue, Cell.count?_eq_some.mp hcount⟩
    · cases h
  · cases h

theorem exact_implies_counted : Reading.exact.Implies .counted where
  metric h hstats := statsCounted_of_metricResult hstats h
  head := by
    rintro plan rows row head ⟨raw, h⟩
    obtain ⟨value, hvalue, htallied⟩ := bucketHead_counted h
    exact ⟨raw, value, h, hvalue, htallied⟩
  level := by
    intro plan children delivered given h
    rcases finish_eq_ok.mp h with ⟨hne, rfl⟩ | ⟨hshown, _, shown, hfill, rfl⟩
    · exact ⟨delivered, rfl, fun _ => rfl, Gaps.fills_refl _ delivered⟩
    · exact ⟨shown, rfl, fun hne => absurd hshown hne, Gaps.fills_of_fill? hfill⟩

/-! ## The number of hits -/

/-- Whether a value is in the cell with the number of hits. -/
def TotalCell (layout : Layout) (result : Result) (value : Json) : Prop :=
  ∃ name table i row, layout.total = some name ∧ result.table? name = some table ∧
    table.columnIndex? Layout.totalColumn = some i ∧ table.rows.head? = some row ∧
    row[i]? = some value

/-- Whether a number of hits is the one that its cell holds, or that of the hits at hand where the
layout asks for none. -/
def TotalCounted (layout : Layout) (result : Result) (hits : List Hit) (total : TotalHits) : Prop :=
  (layout.total = none ∧ total = ⟨hits.length, false⟩) ∨
    ∃ value n, TotalCell layout result value ∧ Tallied value n ∧ total = ⟨n, true⟩

theorem totalCounted_of_totalOf {hits : List Hit} {total : TotalHits}
    (h : totalOf layout result hits = .ok total) : TotalCounted layout result hits total := by
  unfold totalOf at h
  split at h
  · rename_i hnone
    cases h
    exact Or.inl ⟨hnone, rfl⟩
  · rename_i name hname
    obtain ⟨table, htable, h⟩ := Outcome.bind_eq_ok.mp h
    obtain ⟨n, hread, h⟩ := Outcome.bind_eq_ok.mp h
    cases h
    obtain ⟨i, hi, hread⟩ := Outcome.bind_eq_ok.mp hread
    split at hread
    · cases hread
    · rename_i row rest hrows
      obtain ⟨value, hvalue, hread⟩ := Outcome.bind_eq_ok.mp hread
      split at hread
      · rename_i k hcount
        cases hread
        exact Or.inr ⟨value, n, ⟨name, table, i, row, hname, requireTable_eq_ok.mp htable,
          requireColumn_eq_ok.mp hi, by rw [hrows]; rfl, cell_eq_ok.mp hvalue⟩,
          Cell.count?_eq_some.mp hcount, rfl⟩
      · cases hread

/-- A number of hits that is no count is a mismatch. -/
theorem totalOf_eq_mismatch {hits : List Hit} {value : Json} (hcell : TotalCell layout result value)
    (h : ∀ n, ¬ Tallied value n) :
    ∃ detail, totalOf layout result hits = .error (mismatch detail) := by
  obtain ⟨name, table, i, row, hname, htable, hi, hrow, hvalue⟩ := hcell
  obtain ⟨rest, hrows⟩ : ∃ rest, table.rows = row :: rest :=
    ⟨_, (List.cons_head?_tail hrow).symm⟩
  refine ⟨"total in table " ++ table.name ++ " is not a count: " ++ value.text, ?_⟩
  unfold totalOf
  rw [hname]
  refine Outcome.bind_eq_error.mpr (Or.inr ⟨table, requireTable_eq_ok.mpr htable, ?_⟩)
  refine Outcome.bind_eq_error.mpr (Or.inl ?_)
  refine Outcome.bind_eq_error.mpr (Or.inr ⟨i, requireColumn_eq_ok.mpr hi, ?_⟩)
  rw [hrows]
  refine Outcome.bind_eq_error.mpr (Or.inr ⟨value, cell_eq_ok.mpr hvalue, ?_⟩)
  rw [Cell.count?_eq_none.mpr h]

/-! ## Cells of levels and metrics -/

/-- Whether a value is in a cell with a number of documents, of a row of a level. -/
def DocCountCell (layout : Layout) (result : Result) (value : Json) : Prop :=
  ∃ listed ∈ layout.buckets, ∃ table i, ∃ row ∈ table.rows,
    result.table? listed.table = some table ∧
    table.columnIndex? Aggregation.docCountColumn = some i ∧ row[i]? = some value

/-- Whether a value is in a cell that a metric is read from: of the first row of the metrics where
it stands at the top, or else of a row of the level that it stands directly below. -/
inductive MetricAt (plan : Plan) (layout : Layout) (result : Result) : ColumnType → Json → Prop where
  | top {table : Table} {row : Row} {m : MetricPlan} {c : MetricColumn} {type : ColumnType}
    {value : Json} (htable : layout.metrics.bind result.table? = some table)
    (hrow : table.rows.head? = some row) (hm : m ∈ AggregationPlan.metrics plan.aggregations)
    (hc : c ∈ m.columns) (hcell : cellOf? table row c.column = some (type, value)) :
    MetricAt plan layout result type value
  | below {node : BucketNode} {listed : BucketTable} {table : Table} {row : Row} {m : MetricPlan}
    {c : MetricColumn} {type : ColumnType} {value : Json}
    (hnode : node ∈ AggregationPlan.nodesOfAll 0 none [] plan.aggregations)
    (hlisted : listed? layout result node.number = some (listed, table))
    (hrow : row ∈ table.rows) (hm : m ∈ AggregationPlan.metrics node.children)
    (hc : c ∈ m.columns) (hcell : cellOf? table row c.column = some (type, value)) :
    MetricAt plan layout result type value

/-- The cells of a metric that has been read are made into something. -/
theorem exists_madeInto_of_metricResult {plan : MetricPlan} {table : Table} {row : Row}
    {given : AggregationResult} (h : metricResult plan table row = .ok given) {c : MetricColumn}
    (hc : c ∈ plan.columns) {type : ColumnType} {value : Json}
    (hcell : cellOf? table row c.column = some (type, value)) :
    ∃ shown, Cell.MadeInto type value shown := by
  obtain ⟨cells, hcells, _⟩ := Outcome.bind_eq_ok.mp h
  obtain ⟨cell, hread⟩ := Outcome.exists_of_mem_of_mapM_eq_ok hcells hc
  obtain ⟨_, i, column, value', hi, hcolumn, hvalue, hmetric⟩ := metricCell_eq_ok hread
  simp only [cellOf?, hi, hcolumn, hvalue, Option.bind_eq_bind, Option.bind_some,
    Option.some.injEq, Prod.mk.injEq] at hcell
  obtain ⟨rfl, rfl⟩ := hcell
  exact ⟨_, Cell.madeInto_of_metric hmetric⟩

/-- The metrics at the top are read from the first row of the metrics. -/
theorem metricResult_of_readFromTop {metrics : Option Table} {level : Nat}
    {plans : List AggregationPlan} {results : List (String × AggregationResult)}
    (h : ReadFromTop .exact layout result metrics level plans results) {m : MetricPlan}
    (hm : m ∈ AggregationPlan.metrics plans) : ∃ table row given, metrics = some table ∧
      table.rows.head? = some row ∧ metricResult m table row = .ok given := by
  induction plans generalizing level results with
  | nil => cases hm
  | cons plan plans ih =>
    obtain ⟨table, row, given, rest, _, hsource, hfirst, hrest⟩ := h
    cases plan with
    | metric first =>
      rcases List.mem_cons.mp hm with rfl | hm
      · obtain ⟨htable, hrow⟩ := hsource m rfl
        exact ⟨table, row, given, htable, hrow, hfirst⟩
      · exact ih hrest hm
    | bucket b children => exact ih hrest hm

/-- Wherever the aggregations have results, every number of documents is a count. -/
theorem tallied_of_docCountCell {plan : Plan} {value : Json}
    {results : List (String × AggregationResult)}
    (hall : allAggregations plan layout result = .ok results)
    (hcell : DocCountCell layout result value) : ∃ n, Tallied value n := by
  obtain ⟨listed, hlisted, table, i, row, hrow, htable, hi, hvalue⟩ := hcell
  obtain ⟨level, hlevel⟩ := List.getElem?_of_mem hlisted
  have hmem : row ∈ rowsAt layout result level := by
    simpa [rowsAt, listed?, hlevel, htable] using hrow
  obtain ⟨node, _, _, listed', rows, hread, _, ⟨head, raw, hhead⟩, _⟩ :=
    madeBucket_of_allAggregations hall hmem
  obtain ⟨value', hvalue', htallied⟩ := bucketHead_counted hhead
  -- the level of the row is the listed one, so the two cells are one
  have hsame := hread.listed
  simp only [listed?, hlevel, htable, Option.bind_eq_bind, Option.bind_some, Option.some.injEq,
    Prod.mk.injEq] at hsame
  obtain ⟨rfl, rfl⟩ := hsame
  have hindex := (readAs_of_levelRows hread.2).docCount
  rw [hi] at hindex
  cases hindex
  rw [hvalue] at hvalue'
  cases hvalue'
  exact ⟨_, htallied⟩

/-- Wherever the aggregations have results, every cell of a metric is made into something. -/
theorem madeInto_of_metricAt {plan : Plan} {type : ColumnType} {value : Json}
    {results : List (String × AggregationResult)}
    (hall : allAggregations plan layout result = .ok results)
    (hcell : MetricAt plan layout result type value) :
    ∃ shown, Cell.MadeInto type value shown := by
  cases hcell with
  | top htable hrow hm hc hcell =>
    obtain ⟨_, _, hread⟩ := readFrom_allAggregations hall
    obtain ⟨table, row, given, htable', hrow', hgiven⟩ := metricResult_of_readFromTop hread hm
    rw [htable, Option.some.injEq] at htable'
    subst htable'
    rw [hrow, Option.some.injEq] at hrow'
    subst hrow'
    exact exists_madeInto_of_metricResult hgiven hc hcell
  | @below node _ _ row _ _ _ _ hnode hlisted hrow hm hc hcell =>
    have hmem : row ∈ rowsAt layout result node.number := by
      rw [rowsAt, hlisted]
      exact hrow
    obtain ⟨other, hother, hnumber, listed', rows, hread, _, _, hmetrics⟩ :=
      madeBucket_of_allAggregations hall hmem
    obtain rfl := AggregationPlan.eq_of_number hother hnode hnumber
    have hsame := hread.listed
    rw [hlisted, Option.some.injEq, Prod.mk.injEq] at hsame
    obtain ⟨rfl, rfl⟩ := hsame
    obtain ⟨given, hgiven⟩ := hmetrics _ hm
    exact exists_madeInto_of_metricResult hgiven hc hcell

/-- Where the aggregations have no results there is no response. -/
theorem response_stops_of_allAggregations {plan : Plan} (hplans : plan.aggregations ≠ [])
    (took : Nat) (ids : Nat → String)
    (h : ∀ results, allAggregations plan layout result ≠ .ok results) :
    ∃ stop, plan.response layout result took ids = .error stop ∧
      (StopsAt layout result (AggregationPlan.nodesOfAll 0 none [] plan.aggregations) stop ∨
        stop = .fault .cellOutOfRange ∧ HitsReadable layout result ∧
          TotalCutOff layout result) := by
  cases hresponse : plan.response layout result took ids with
  | error stop => exact ⟨stop, rfl, Plan.response_stops hresponse⟩
  | ok response =>
    exfalso
    rw [response_eq] at hresponse
    obtain ⟨_, _, hresponse⟩ := Outcome.bind_eq_ok.mp hresponse
    obtain ⟨_, _, hresponse⟩ := Outcome.bind_eq_ok.mp hresponse
    obtain ⟨results, hresults, _⟩ := Outcome.bind_eq_ok.mp hresponse
    unfold resultsOf at hresults
    rw [if_neg hplans] at hresults
    obtain ⟨results, hall, _⟩ := Outcome.map_eq_ok.mp hresults
    exact h results hall

end Mapper

open Mapper in
/-- Counts are those of their cells, or the tables are refused. In a response the number of hits,
the number of documents of every bucket that was delivered, and the count of every statistics
result come from their cells. There is no response where the cell with the number of hits holds no
count: the tables do not fit. Nor is there one where a cell with a number of documents holds no
count, or a cell of a metric, such as that of a count, is made into nothing: the tables are refused
for that or for what has been found before. They do not fit wherever no level shows its empty
buckets. -/
theorem Plan.response_counts (plan : Plan) (layout : Layout) (result : Result) (took : Nat)
    (ids : Nat → String) :
    (∀ response, plan.response layout result took ids = .ok response →
      TotalCounted layout result response.hits response.total ∧
        (plan.aggregations = [] ∧ response.aggregations = none ∨
          plan.aggregations ≠ [] ∧ ∃ given, response.aggregations = some (membersOf given) ∧
            ReadFromTop .counted layout result (layout.metrics.bind result.table?) 0
              plan.aggregations given)) ∧
    (∀ value, TotalCell layout result value → (∀ n, ¬ Cell.Tallied value n) →
      ∃ detail, plan.response layout result took ids = .error (mismatch detail)) ∧
    (plan.aggregations ≠ [] →
      ((∃ value, DocCountCell layout result value ∧ ∀ n, ¬ Cell.Tallied value n) ∨
        ∃ type value, MetricAt plan layout result type value ∧
          ∀ shown, ¬ Cell.MadeInto type value shown) →
      ∃ stop, plan.response layout result took ids = .error stop ∧
        (StopsAt layout result (AggregationPlan.nodesOfAll 0 none [] plan.aggregations) stop ∨
          stop = .fault .cellOutOfRange ∧ HitsReadable layout result ∧
            TotalCutOff layout result)) ∧
    ((∀ node ∈ AggregationPlan.nodesOfAll 0 none [] plan.aggregations,
        node.plan.minDocCount ≠ 0 ∧ node.plan.key.HasLength) → ¬ TotalCutOff layout result →
      ∀ stop, plan.response layout result took ids = .error stop →
        ∃ detail, stop = mismatch detail) := by
  refine ⟨fun response h => ⟨?_, ?_⟩, fun value hcell hnone => ?_, fun hplans hcell => ?_,
    fun hnodes hcut stop h => ?_⟩
  · rw [response_eq] at h
    obtain ⟨hits, _, h⟩ := Outcome.bind_eq_ok.mp h
    obtain ⟨total, htotal, h⟩ := Outcome.bind_eq_ok.mp h
    obtain ⟨results, _, h⟩ := Outcome.bind_eq_ok.mp h
    cases h
    exact totalCounted_of_totalOf htotal
  · rcases response_readFrom h with hnone | ⟨hplans, given, hgiven, hread⟩
    · exact Or.inl hnone
    · exact Or.inr ⟨hplans, given, hgiven, hread.imp exact_implies_counted⟩
  · rw [response_eq]
    cases hhits : hitsOf plan layout result ids with
    | error stop =>
      obtain ⟨detail, rfl⟩ := hitsOf_stops plan layout result ids stop hhits
      exact ⟨detail, rfl⟩
    | ok hits =>
      obtain ⟨detail, htotal⟩ := totalOf_eq_mismatch hcell hnone
      exact ⟨detail, Outcome.bind_eq_error.mpr
        (Or.inr ⟨hits, rfl, Outcome.bind_eq_error.mpr (Or.inl htotal)⟩)⟩
  · refine response_stops_of_allAggregations hplans took ids fun results hall => ?_
    rcases hcell with ⟨value, hcell, hnone⟩ | ⟨type, value, hcell, hnone⟩
    · obtain ⟨n, htallied⟩ := tallied_of_docCountCell hall hcell
      exact hnone n htallied
    · obtain ⟨shown, hmade⟩ := madeInto_of_metricAt hall hcell
      exact hnone shown hmade
  · rcases response_stops h with hstops | ⟨_, _, hcutOff⟩
    · exact hstops.isMismatch hnodes
    · exact absurd hcutOff hcut

end KustoSearch
