import KustoSearch.Proofs.Response.Invariant

/-! # What results are read from

Every metric of a response comes from a row, every bucket that was delivered from a row of its
level, and the buckets that are shown from those that were delivered: `response_readFrom`. What is
known of these three goes through the whole tree of results: `Reading.Implies`.
-/

namespace KustoSearch.Mapper

/-- What the parts of a result have to do with what they are read from. -/
structure Reading where
  /-- The result of a metric, and its row. -/
  metric : MetricPlan → Table → Row → AggregationResult → Prop
  /-- The own members of a bucket that was delivered, and its row. -/
  head : BucketPlan → LevelRows → Row → BucketHead → Prop
  /-- The buckets of a level that are shown, and those that were delivered. -/
  level : BucketPlan → List AggregationPlan → List Bucket → AggregationResult → Prop

/-- Parts as they are read. -/
def Reading.exact : Reading where
  metric plan table row given := metricResult plan table row = .ok given
  head plan rows row head := ∃ raw, bucketHead plan rows row = .ok (head, raw)
  level plan children delivered given := finish plan children delivered = .ok given

/-- Whether what a reading says of each part another one says as well. -/
structure Reading.Implies (reading other : Reading) : Prop where
  metric : ∀ {plan : MetricPlan} {table : Table} {row : Row} {given : AggregationResult},
    reading.metric plan table row given → other.metric plan table row given
  head : ∀ {plan : BucketPlan} {rows : LevelRows} {row : Row} {head : BucketHead},
    reading.head plan rows row head → other.head plan rows row head
  level : ∀ {plan : BucketPlan} {children : List AggregationPlan} {delivered : List Bucket}
    {given : AggregationResult},
    reading.level plan children delivered given → other.level plan children delivered given

section ReadFrom

variable (reading : Reading) (layout : Layout) (result : Result)

mutual

/-- Whether a result is read from a row, or from the rows of a level that lie below a path. The
rows stand in the order of the table, and what is below a bucket is read from its own row, and from
below the path that its own key ends. -/
def ReadFrom (level : Nat) (path : List Json) (table : Table) (row : Row) :
    AggregationPlan → AggregationResult → Prop
  | .metric plan, given => reading.metric plan table row given
  | .bucket plan children, given => ∃ listed rows taken delivered,
    LevelOf layout result level listed rows ∧ taken.Sublist rows.table.rows ∧
      (∀ row ∈ taken, values rows.table (ancestorColumns listed) row = path) ∧
      List.Forall₂ (fun row (bucket : Bucket) => reading.head plan rows row bucket.1 ∧
        ∃ raw results, row[rows.keyIndex]? = some raw ∧
          ReadFromAll (level + 1) (path ++ [raw]) rows.table row children results ∧
          bucket.2 = membersOf results) taken delivered ∧
      reading.level plan children delivered given

/-- Whether some results are read from a row, or from levels that follow one another. -/
def ReadFromAll (level : Nat) (path : List Json) (table : Table) (row : Row) :
    List AggregationPlan → List (String × AggregationResult) → Prop
  | [], results => results = []
  | plan :: plans, results => ∃ given rest, results = (plan.name, given) :: rest ∧
    ReadFrom level path table row plan given ∧
      ReadFromAll (level + plan.levelCount) path table row plans rest

end

/-- Whether some results at the top are read from levels that follow one another, and from the
first row of a table of metrics. -/
def ReadFromTop (metrics : Option Table) (level : Nat) :
    List AggregationPlan → List (String × AggregationResult) → Prop
  | [], results => results = []
  | plan :: plans, results => ∃ table row given rest, results = (plan.name, given) :: rest ∧
    (∀ m, plan = .metric m → metrics = some table ∧ table.rows.head? = some row) ∧
      ReadFrom reading layout result level [] table row plan given ∧
      ReadFromTop metrics (level + plan.levelCount) plans rest

end ReadFrom

variable {reading other : Reading} {layout : Layout} {result : Result}

/-! ## Readings that imply others -/

mutual

theorem ReadFrom.imp (h : reading.Implies other) {level : Nat} {path : List Json} {table : Table}
    {row : Row} {given : AggregationResult} : (plan : AggregationPlan) →
    ReadFrom reading layout result level path table row plan given →
    ReadFrom other layout result level path table row plan given
  | .metric plan => h.metric
  | .bucket plan children => by
    rintro ⟨listed, rows, taken, delivered, hlevel, horder, hpath, hbuckets, hshown⟩
    refine ⟨listed, rows, taken, delivered, hlevel, horder, hpath, hbuckets.imp ?_, h.level hshown⟩
    rintro row bucket ⟨hhead, raw, results, hraw, hbelow, hresults⟩
    exact ⟨h.head hhead, raw, results, hraw, ReadFromAll.imp h children hbelow, hresults⟩

theorem ReadFromAll.imp (h : reading.Implies other) {level : Nat} {path : List Json}
    {table : Table} {row : Row} {results : List (String × AggregationResult)} :
    (plans : List AggregationPlan) →
    ReadFromAll reading layout result level path table row plans results →
    ReadFromAll other layout result level path table row plans results
  | [] => id
  | plan :: plans => by
    rintro ⟨given, rest, rfl, hfirst, hrest⟩
    exact ⟨given, rest, rfl, ReadFrom.imp h plan hfirst, ReadFromAll.imp h plans hrest⟩

end

theorem ReadFromTop.imp (h : reading.Implies other) {metrics : Option Table} {level : Nat}
    {plans : List AggregationPlan} {results : List (String × AggregationResult)}
    (hread : ReadFromTop reading layout result metrics level plans results) :
    ReadFromTop other layout result metrics level plans results := by
  induction plans generalizing level results with
  | nil => exact hread
  | cons plan plans ih =>
    obtain ⟨table, row, given, rest, rfl, hsource, hfirst, hrest⟩ := hread
    exact ⟨table, row, given, rest, rfl, hsource, hfirst.imp h plan, ih hrest⟩

/-! ## Walks -/

/-- The buckets of some rows, as they are read. -/
theorem readFrom_buckets {plan : BucketPlan} {children : List AggregationPlan} {level : Nat}
    {path : List Json} {rows : LevelRows}
    (hchildren : ∀ {path : List Json} {row : Row} {levels after : Levels}
      {results : List (String × AggregationResult)}, LevelsOf layout result levels →
      (aggregations level path rows.table row children).run levels = .ok (results, after) →
      ReadFromAll .exact layout result level path rows.table row children results)
    {taken : List Row} {levels after : Levels} {buckets : List Bucket}
    (hlevels : LevelsOf layout result levels)
    (h : (taken.mapM fun row => (do
      let (head, raw) ← bucketHead plan rows row
      let results ← aggregations level (path ++ [raw]) rows.table row children
      pure (head, membersOf results) : Walk Bucket)).run levels = .ok (buckets, after)) :
    List.Forall₂ (fun row (bucket : Bucket) => Reading.exact.head plan rows row bucket.1 ∧
      ∃ raw results, row[rows.keyIndex]? = some raw ∧
        ReadFromAll .exact layout result level (path ++ [raw]) rows.table row children results ∧
        bucket.2 = membersOf results) taken buckets := by
  induction taken generalizing levels buckets with
  | nil =>
    rw [List.mapM_nil, Outcome.run_pure_eq_ok] at h
    obtain ⟨rfl, rfl⟩ := h
    exact .nil
  | cons row taken ih =>
    rw [List.mapM_cons] at h
    obtain ⟨bucket, middle, hbucket, h⟩ := Outcome.run_bind_eq_ok.mp h
    obtain ⟨rest, last, hrest, h⟩ := Outcome.run_bind_eq_ok.mp h
    obtain ⟨rfl, rfl⟩ := Outcome.run_pure_eq_ok.mp h
    obtain ⟨⟨head, raw⟩, state, hhead, hbucket⟩ := Outcome.run_bind_eq_ok.mp hbucket
    obtain ⟨hkey, rfl⟩ := Outcome.run_lift_eq_ok.mp hhead
    obtain ⟨results, state, hresults, hbucket⟩ := Outcome.run_bind_eq_ok.mp hbucket
    obtain ⟨rfl, rfl⟩ := Outcome.run_pure_eq_ok.mp hbucket
    refine .cons ⟨⟨raw, hkey⟩, raw, results, cell_of_bucketHead hkey, ?_, rfl⟩ ?_
    · exact hchildren hlevels hresults
    · exact ih (hlevels.aggregations hresults) hrest

mutual

/-- What a walk over an aggregation gives is read from the row and the levels that it walks. -/
theorem readFrom_aggregation {level : Nat} {path : List Json} {table : Table} {row : Row}
    {levels after : Levels} {given : AggregationResult} :
    (plan : AggregationPlan) → LevelsOf layout result levels →
    (aggregation level path table row plan).run levels = .ok (given, after) →
    ReadFrom .exact layout result level path table row plan given
  | .metric plan => by
    intro _ h
    rw [Mapper.aggregation] at h
    exact (Outcome.run_lift_eq_ok.mp h).1
  | .bucket plan children => by
    intro hlevels h
    rw [Mapper.aggregation] at h
    obtain ⟨⟨rows, taken⟩, middle, htake, h⟩ := Outcome.run_bind_eq_ok.mp h
    obtain ⟨buckets, last, hbuckets, h⟩ := Outcome.run_bind_eq_ok.mp h
    obtain ⟨hfinish, rfl⟩ := Outcome.run_lift_eq_ok.mp h
    have hread := readFrom_buckets (fun hlevels h => readFrom_aggregations children hlevels h)
      (hlevels.takeRows htake) hbuckets
    obtain ⟨hlevel, htaken, _⟩ := takeRows_eq_ok hlevels.distinct htake
    obtain ⟨listed, original, gone, hlisted, rfl⟩ := hlevels level rows hlevel
    obtain ⟨horder, hsame⟩ :=
      ((readAs_of_levelRows hlisted.2).grouped.filter _).taken (groupKey path)
    rw [htaken] at hread
    exact ⟨listed, original, _, buckets, hlisted, horder,
      fun row hrow => path_of_groupKey (hsame row hrow), hread, hfinish⟩

theorem readFrom_aggregations {level : Nat} {path : List Json} {table : Table} {row : Row}
    {levels after : Levels} {given : List (String × AggregationResult)} :
    (plans : List AggregationPlan) → LevelsOf layout result levels →
    (aggregations level path table row plans).run levels = .ok (given, after) →
    ReadFromAll .exact layout result level path table row plans given
  | [] => by
    intro _ h
    obtain ⟨rfl, rfl⟩ := Outcome.run_pure_eq_ok.mp h
    rfl
  | plan :: plans => by
    intro hlevels h
    rw [Mapper.aggregations] at h
    obtain ⟨first, middle, hfirst, h⟩ := Outcome.run_bind_eq_ok.mp h
    obtain ⟨rest, last, hrest, h⟩ := Outcome.run_bind_eq_ok.mp h
    obtain ⟨rfl, rfl⟩ := Outcome.run_pure_eq_ok.mp h
    exact ⟨first, rest, rfl, readFrom_aggregation plan hlevels hfirst,
      readFrom_aggregations plans (hlevels.aggregation hfirst) hrest⟩

end

/-- What the walk over the top-level aggregations gives is read from the table of metrics and the
levels. -/
theorem readFrom_topLevel {metrics : Option Table} {level : Nat} {plans : List AggregationPlan}
    {levels after : Levels} {given : List (String × AggregationResult)}
    (hlevels : LevelsOf layout result levels)
    (h : (topLevel metrics level plans).run levels = .ok (given, after)) :
    ReadFromTop .exact layout result metrics level plans given := by
  induction plans generalizing level levels given with
  | nil =>
    obtain ⟨rfl, rfl⟩ := Outcome.run_pure_eq_ok.mp h
    rfl
  | cons plan plans ih =>
    obtain ⟨table, row, first, middle, rest, hsource, hfirst, hrest, rfl⟩ := topLevel_cons_source h
    exact ⟨table, row, first, rest, rfl, hsource, readFrom_aggregation plan hlevels hfirst,
      ih (hlevels.aggregation hfirst) hrest⟩

/-- The results of all aggregations are read from the table of metrics and the levels. -/
theorem readFrom_allAggregations {plan : Plan} {results : List (String × AggregationResult)}
    (h : allAggregations plan layout result = .ok results) :
    ∃ given, results = membersOf given ∧
      ReadFromTop .exact layout result (layout.metrics.bind result.table?) 0 plan.aggregations
        given := by
  obtain ⟨levels, hlevels, h⟩ := Outcome.bind_eq_ok.mp h
  obtain ⟨metrics, hmetrics, h⟩ := Outcome.bind_eq_ok.mp h
  obtain ⟨⟨given, after⟩, hwalk, h⟩ := Outcome.bind_eq_ok.mp h
  dsimp only at h
  split_ifs at h
  obtain ⟨_, _, h⟩ := Outcome.bind_eq_ok.mp h
  cases h
  have hsource : layout.metrics.bind result.table? = metrics := by
    cases hname : layout.metrics with
    | none =>
      rw [hname] at hmetrics
      cases hmetrics
      rfl
    | some name =>
      rw [hname] at hmetrics
      obtain ⟨table, htable, hmetrics⟩ := Outcome.map_eq_ok.mp hmetrics
      cases hmetrics
      exact requireTable_eq_ok.mp htable
  rw [hsource]
  exact ⟨given, rfl, readFrom_topLevel (levelsOf_of_mapM hlevels) hwalk⟩

/-- The results of a response are read from the table of metrics and the levels. -/
theorem response_readFrom {plan : Plan} {took : Nat} {ids : Nat → String} {response : Response}
    (h : plan.response layout result took ids = .ok response) :
    (plan.aggregations = [] ∧ response.aggregations = none) ∨
      plan.aggregations ≠ [] ∧ ∃ given, response.aggregations = some (membersOf given) ∧
        ReadFromTop .exact layout result (layout.metrics.bind result.table?) 0 plan.aggregations
          given := by
  rw [response_eq] at h
  obtain ⟨hits, _, h⟩ := Outcome.bind_eq_ok.mp h
  obtain ⟨total, _, h⟩ := Outcome.bind_eq_ok.mp h
  obtain ⟨results, hresults, h⟩ := Outcome.bind_eq_ok.mp h
  cases h
  unfold resultsOf at hresults
  split_ifs at hresults with hempty
  · cases hresults
    exact Or.inl ⟨hempty, rfl⟩
  · obtain ⟨results, hall, rfl⟩ := Outcome.map_eq_ok.mp hresults
    obtain ⟨given, rfl, hread⟩ := readFrom_allAggregations hall
    exact Or.inr ⟨hempty, given, rfl, hread⟩

end KustoSearch.Mapper
