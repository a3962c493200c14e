import KustoSearch.Proofs.Response.Levels

/-! # The parts of a response

A response is put together from hits, their number and the results of aggregations, each of which
is read from tables of its own.
-/

namespace KustoSearch.Mapper

/-- The hits that a layout and the tables give. -/
def hitsOf (plan : Plan) (layout : Layout) (result : Result) (ids : Nat → String) :
    Except Stop (List Hit) :=
  match layout.hits with
  | none => .ok []
  | some name => do
    let table ← requireTable result name
    hitsFrom plan.index plan.hits.source ids table 0 table.rows

/-- The number of hits that a layout and the tables give, or that of the hits at hand. -/
def totalOf (layout : Layout) (result : Result) (hits : List Hit) : Except Stop TotalHits :=
  match layout.total with
  | none => .ok ⟨hits.length, false⟩
  | some name => do
    let table ← requireTable result name
    let n ← readTotal table
    .ok ⟨n, true⟩

/-- The results of the aggregations, where some are asked for. -/
def resultsOf (plan : Plan) (layout : Layout) (result : Result) :
    Except Stop (Option (List (String × AggregationResult))) :=
  if plan.aggregations = [] then .ok none
  else (allAggregations plan layout result).map some

/-- A response is put together from its hits, their number and the results of aggregations. -/
theorem response_eq (plan : Plan) (layout : Layout) (result : Result) (took : Nat)
    (ids : Nat → String) :
    plan.response layout result took ids = (do
      let hits ← hitsOf plan layout result ids
      let total ← totalOf layout result hits
      let aggregations ← resultsOf plan layout result
      .ok ⟨took, total, hits, aggregations⟩) := by
  have hempty : plan.aggregations.isEmpty = true ↔ plan.aggregations = [] := List.isEmpty_iff
  -- both sides run the same steps, so it is enough to name what each of them gives
  unfold Plan.response hitsOf totalOf resultsOf
  simp only [hempty]
  generalize allAggregations plan layout result = results
  cases layout.hits with
  | none =>
    cases layout.total with
    | none => split_ifs <;> cases results <;> rfl
    | some total =>
      dsimp only
      cases requireTable result total with
      | error stop => rfl
      | ok table =>
        dsimp only [bind, Except.bind]
        cases readTotal table <;> split_ifs <;> cases results <;> rfl
  | some name =>
    dsimp only
    cases requireTable result name with
    | error stop => rfl
    | ok table =>
      dsimp only [bind, Except.bind]
      cases hitsFrom plan.index plan.hits.source ids table 0 table.rows with
      | error stop => rfl
      | ok hits =>
        cases layout.total with
        | none => split_ifs <;> cases results <;> rfl
        | some total =>
          dsimp only
          cases requireTable result total with
          | error stop => rfl
          | ok counted =>
            dsimp only
            cases readTotal counted <;> split_ifs <;> cases results <;> rfl

/-- Whether all rows of a table are as long as it has columns. -/
def Wide (table : Table) : Prop := ∀ row ∈ table.rows, row.length = table.columns.length

/-- Every row of a table is a hit, in its place. -/
theorem hitsFrom_eq_ok {index : String} {source : SourceSelection} {ids : Nat → String}
    {table : Table} {position : Nat} {rows : List Row} {hits : List Hit}
    (h : hitsFrom index source ids table position rows = .ok hits) :
    hits = rows.mapIdx fun i row =>
      ⟨index, ids (position + i), hitSource source table row⟩ := by
  induction rows generalizing position hits with
  | nil =>
    cases h
    rfl
  | cons row rows ih =>
    obtain ⟨first, hfirst, h⟩ := Outcome.bind_eq_ok.mp h
    obtain ⟨rest, hrest, h⟩ := Outcome.bind_eq_ok.mp h
    obtain ⟨_, _, hfirst⟩ := Outcome.bind_eq_ok.mp hfirst
    cases hfirst
    cases h
    rw [ih hrest, List.mapIdx_cons]
    simp only [Nat.add_zero, Nat.add_assoc, Nat.add_comm 1]

/-- Rows that are as long as the table has columns are hits. -/
theorem exists_hitsFrom (index : String) (source : SourceSelection) (ids : Nat → String)
    {table : Table} (position : Nat) {rows : List Row}
    (hwide : ∀ row ∈ rows, row.length = table.columns.length) :
    ∃ hits, hitsFrom index source ids table position rows = .ok hits := by
  induction rows generalizing position with
  | nil => exact ⟨[], rfl⟩
  | cons row rows ih =>
    have hwidth := hwide row (by simp)
    obtain ⟨hits, hhits⟩ := ih (position + 1) fun r hr => hwide r (List.mem_cons_of_mem _ hr)
    refine ⟨⟨index, ids position, hitSource source table row⟩ :: hits, ?_⟩
    unfold hitsFrom
    refine Outcome.bind_eq_ok.mpr ⟨_, ?_, Outcome.bind_eq_ok.mpr ⟨hits, hhits, rfl⟩⟩
    exact Outcome.bind_eq_ok.mpr ⟨(), checkWidth_eq_ok.mpr hwidth, rfl⟩

/-- Whether every row of the table of hits is a hit, in its place. -/
def RowsAreHits (plan : Plan) (layout : Layout) (result : Result) (ids : Nat → String)
    (hits : List Hit) : Prop :=
  match layout.hits with
  | none => hits = []
  | some name => ∃ table, result.table? name = some table ∧
    hits = table.rows.mapIdx fun i row =>
      ⟨plan.index, ids i, hitSource plan.hits.source table row⟩

theorem rowsAreHits_of_hitsOf {plan : Plan} {layout : Layout} {result : Result}
    {ids : Nat → String} {hits : List Hit} (h : hitsOf plan layout result ids = .ok hits) :
    RowsAreHits plan layout result ids hits := by
  unfold hitsOf at h
  unfold RowsAreHits
  cases hname : layout.hits with
  | none =>
    rw [hname] at h
    cases h
    rfl
  | some name =>
    rw [hname] at h
    obtain ⟨table, htable, h⟩ := Outcome.bind_eq_ok.mp h
    refine ⟨table, requireTable_eq_ok.mp htable, ?_⟩
    simpa only [Nat.zero_add] using hitsFrom_eq_ok h

/-! ## Names of hits -/

section

variable {index : String} {source : SourceSelection} {table : Table} (names : Nat → String)
  {ids : Nat → String}

/-- How hits are named does not say how many there are. -/
theorem exists_hitsFrom_of_ok {position : Nat} {rows : List Row} {hits : List Hit}
    (h : hitsFrom index source ids table position rows = .ok hits) :
    ∃ others, hitsFrom index source names table position rows = .ok others ∧
      others.length = hits.length := by
  induction rows generalizing position hits with
  | nil =>
    cases h
    exact ⟨[], rfl, rfl⟩
  | cons row rows ih =>
    obtain ⟨first, hfirst, h⟩ := Outcome.bind_eq_ok.mp h
    obtain ⟨rest, hrest, h⟩ := Outcome.bind_eq_ok.mp h
    obtain ⟨_, hwidth, _⟩ := Outcome.bind_eq_ok.mp hfirst
    cases h
    obtain ⟨others, hothers, hlength⟩ := ih hrest
    refine ⟨⟨index, names position, hitSource source table row⟩ :: others, ?_, by simp [hlength]⟩
    unfold hitsFrom
    refine Outcome.bind_eq_ok.mpr ⟨_, ?_, Outcome.bind_eq_ok.mpr ⟨others, hothers, rfl⟩⟩
    exact Outcome.bind_eq_ok.mpr ⟨(), hwidth, rfl⟩

theorem hitsFrom_eq_error {position : Nat} {rows : List Row} {stop : Stop}
    (h : hitsFrom index source ids table position rows = .error stop) :
    hitsFrom index source names table position rows = .error stop := by
  induction rows generalizing position with
  | nil => cases h
  | cons row rows ih =>
    unfold hitsFrom at h ⊢
    rcases Outcome.bind_eq_error.mp h with h | ⟨first, hfirst, h⟩
    · refine Outcome.bind_eq_error.mpr (Or.inl ?_)
      rcases Outcome.bind_eq_error.mp h with h | ⟨_, _, h⟩
      · exact Outcome.bind_eq_error.mpr (Or.inl h)
      · cases h
    · obtain ⟨_, hwidth, _⟩ := Outcome.bind_eq_ok.mp hfirst
      refine Outcome.bind_eq_error.mpr (Or.inr ⟨_, Outcome.bind_eq_ok.mpr ⟨(), hwidth, rfl⟩, ?_⟩)
      rcases Outcome.bind_eq_error.mp h with h | ⟨_, _, h⟩
      · exact Outcome.bind_eq_error.mpr (Or.inl (ih h))
      · cases h

variable {plan : Plan} {layout : Layout} {result : Result}

theorem exists_hitsOf_of_ok {hits : List Hit} (h : hitsOf plan layout result ids = .ok hits) :
    ∃ others, hitsOf plan layout result names = .ok others ∧ others.length = hits.length := by
  unfold hitsOf at h ⊢
  cases hname : layout.hits with
  | none =>
    rw [hname] at h
    cases h
    exact ⟨[], rfl, rfl⟩
  | some name =>
    rw [hname] at h
    obtain ⟨table, htable, h⟩ := Outcome.bind_eq_ok.mp h
    obtain ⟨others, hothers, hlength⟩ := exists_hitsFrom_of_ok names h
    exact ⟨others, Outcome.bind_eq_ok.mpr ⟨table, htable, hothers⟩, hlength⟩

theorem hitsOf_eq_error {stop : Stop} (h : hitsOf plan layout result ids = .error stop) :
    hitsOf plan layout result names = .error stop := by
  unfold hitsOf at h ⊢
  cases hname : layout.hits with
  | none =>
    rw [hname] at h
    cases h
  | some name =>
    rw [hname] at h
    rcases Outcome.bind_eq_error.mp h with h | ⟨table, htable, h⟩
    · exact Outcome.bind_eq_error.mpr (Or.inl h)
    · exact Outcome.bind_eq_error.mpr (Or.inr ⟨table, htable, hitsFrom_eq_error names h⟩)

/-- The total counts hits, and does not look at them. -/
theorem totalOf_congr {hits others : List Hit} (h : others.length = hits.length) :
    totalOf layout result others = totalOf layout result hits := by
  unfold totalOf
  rw [h]

/-- However hits are named, the same tables have no response. -/
theorem response_eq_error {took : Nat} {stop : Stop}
    (h : plan.response layout result took ids = .error stop) :
    plan.response layout result took names = .error stop := by
  rw [response_eq] at h ⊢
  rcases Outcome.bind_eq_error.mp h with h | ⟨hits, hhits, h⟩
  · exact Outcome.bind_eq_error.mpr (Or.inl (hitsOf_eq_error names h))
  · obtain ⟨others, hothers, hlength⟩ := exists_hitsOf_of_ok names hhits
    refine Outcome.bind_eq_error.mpr (Or.inr ⟨others, hothers, ?_⟩)
    rw [totalOf_congr hlength]
    rcases Outcome.bind_eq_error.mp h with h | ⟨total, htotal, h⟩
    · exact Outcome.bind_eq_error.mpr (Or.inl h)
    · refine Outcome.bind_eq_error.mpr (Or.inr ⟨total, htotal, ?_⟩)
      rcases Outcome.bind_eq_error.mp h with h | ⟨_, _, h⟩
      · exact Outcome.bind_eq_error.mpr (Or.inl h)
      · cases h

end

end KustoSearch.Mapper
