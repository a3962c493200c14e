import KustoSearch.Proofs.Response.Account

/-! # Invariants of results

What holds of the result of every metric, and of buckets whenever it holds below them, holds of
every result that a walk over levels gives: `ResultInvariant.aggregation`. Buckets that fill a gap
count as delivered ones without documents.
-/

namespace KustoSearch

namespace Gaps

/-- Whether a bucket is an empty one with a key between two others. -/
def InGap (key : BucketKey) (empty : List (String × AggregationResult)) (b : Bucket) : Prop :=
  ∃ prev next limit keys k, between? key prev next limit = some keys ∧ k ∈ keys ∧
    b = (⟨k.1, k.2, 0⟩, empty)

variable {key : BucketKey} {empty : List (String × AggregationResult)}

theorem mem_addEmpty? {keys : List Key} {filled after : Filled}
    (h : addEmpty? empty filled keys = some after) :
    ∀ b ∈ after.buckets, b ∈ filled.buckets ∨ ∃ k ∈ keys, b = (⟨k.1, k.2, 0⟩, empty) := by
  induction keys generalizing filled with
  | nil =>
    cases h
    exact fun b hb => Or.inl hb
  | cons k keys ih =>
    intro b hb
    obtain ⟨k, text⟩ := k
    unfold addEmpty? at h
    split_ifs at h
    rcases ih h b hb with hb | ⟨other, hother, hb⟩
    · rcases List.mem_cons.mp hb with rfl | hb
      · exact Or.inr ⟨(k, text), by simp, rfl⟩
      · exact Or.inl hb
    · exact Or.inr ⟨other, List.mem_cons_of_mem _ hother, hb⟩

/-- One more bucket comes with those in the gap before it. -/
theorem mem_add? {bucket : Bucket} {filled after : Filled}
    (h : add? key empty filled bucket = some after) :
    ∀ b ∈ after.buckets, b ∈ filled.buckets ∨ b = bucket ∨ InGap key empty b := by
  intro b hb
  unfold add? at h
  split at h
  · cases h
    rcases List.mem_cons.mp hb with rfl | hb
    · exact Or.inr (Or.inl rfl)
    · exact Or.inl hb
  · obtain ⟨before, hbefore, h⟩ := Option.bind_eq_some_iff.mp h
    obtain ⟨keys, hkeys, hbefore⟩ := Option.bind_eq_some_iff.mp hbefore
    cases h
    rcases List.mem_cons.mp hb with rfl | hb
    · exact Or.inr (Or.inl rfl)
    · rcases mem_addEmpty? hbefore b hb with hb | ⟨k, hk, hb⟩
      · exact Or.inl hb
      · exact Or.inr (Or.inr ⟨_, _, _, keys, k, hkeys, hk, hb⟩)

/-- The buckets of a level are those that were delivered, and empty ones between them. -/
theorem mem_fill? {buckets shown : List Bucket} (h : fill? key empty buckets = some shown) :
    ∀ b ∈ shown, b ∈ buckets ∨ InGap key empty b := by
  -- over the buckets that are still to come, whatever stands before them already
  have hrun : ∀ {rest : List Bucket} {filled after : Filled},
      rest.foldlM (add? key empty) filled = some after →
      ∀ b ∈ after.buckets, b ∈ filled.buckets ∨ b ∈ rest ∨ InGap key empty b := by
    intro rest
    induction rest with
    | nil =>
      intro filled after h b hb
      cases h
      exact Or.inl hb
    | cons bucket rest ih =>
      intro filled after h b hb
      obtain ⟨next, hnext, h⟩ := Option.bind_eq_some_iff.mp h
      rcases ih h b hb with hb | hb | hb
      · rcases mem_add? hnext b hb with hb | rfl | hb
        · exact Or.inl hb
        · exact Or.inr (Or.inl List.mem_cons_self)
        · exact Or.inr (Or.inr hb)
      · exact Or.inr (Or.inl (List.mem_cons_of_mem _ hb))
      · exact Or.inr (Or.inr hb)
  obtain ⟨after, hafter, rfl⟩ := Option.map_eq_some_iff.mp h
  intro b hb
  rcases hrun hafter b (List.mem_reverse.mp hb) with hb | hb
  · cases hb
  · exact hb

end Gaps

namespace Mapper

variable {layout : Layout} {result : Result}

/-- Whether a row was delivered. -/
def Delivered (result : Result) (row : Row) : Prop := ∃ table ∈ result.tables, row ∈ table.rows

/-- The rows that are taken out of a level were delivered. -/
theorem delivered_of_takeRows {name : String} {level : Nat} {path : List Json}
    {levels after : Levels} {rows : LevelRows} {taken : List Row}
    (hlevels : LevelsOf layout result levels)
    (h : (takeRows name level path).run levels = .ok ((rows, taken), after)) :
    ∀ row ∈ taken, Delivered result row := by
  intro row hrow
  obtain ⟨hlevel, rfl, _⟩ := takeRows_eq_ok hlevels.distinct h
  obtain ⟨table, original, gone, hread, rfl⟩ := hlevels level rows hlevel
  have hread := readAs_of_levelRows hread.2
  refine ⟨original.table, List.mem_of_find?_eq_some hread.table, ?_⟩
  exact ((hread.grouped.filter _).taken (groupKey path)).1.subset hrow

/-! ## Invariants -/

/-- Whether results are those of some plans, in order and under their names. -/
def GivenBy (p : AggregationPlan → AggregationResult → Prop) (plans : List AggregationPlan)
    (results : List (String × AggregationResult)) : Prop :=
  List.Forall₂ (fun plan named => named.1 = plan.name ∧ p plan named.2) plans results

/-- A property of results that holds of metrics, and of buckets whenever it holds below them and
their own members have a property too. -/
structure ResultInvariant (result : Result) (own : BucketHead → Prop)
    (p : AggregationPlan → AggregationResult → Prop) : Prop where
  metric : ∀ {plan : MetricPlan} {table : Table} {row : Row} {given : AggregationResult},
    metricResult plan table row = .ok given → p (.metric plan) given
  emptyMetric : ∀ plan : MetricPlan, p (.metric plan) (emptyMetric plan)
  head : ∀ {plan : BucketPlan} {rows : LevelRows} {row : Row} {head : BucketHead} {raw : Json},
    Delivered result row → bucketHead plan rows row = .ok (head, raw) → own head
  gap : ∀ {key : BucketKey} {prev next : Json} {limit : Nat} {keys : List Gaps.Key},
    Gaps.between? key prev next limit = some keys → ∀ k ∈ keys, own ⟨k.1, k.2, 0⟩
  buckets : ∀ (plan : BucketPlan) {children : List AggregationPlan} {items : List Bucket},
    (∀ item ∈ items, own item.1 ∧
      ∃ results, GivenBy p children results ∧ item.2 = membersOf results) →
    p (.bucket plan children) (.buckets items)

namespace ResultInvariant

variable {own : BucketHead → Prop} {p : AggregationPlan → AggregationResult → Prop}

theorem emptyResults (h : ResultInvariant result own p) (children : List AggregationPlan) :
    ∃ results, GivenBy p children results ∧ emptyResults children = membersOf results := by
  refine ⟨_, ?_, rfl⟩
  induction children with
  | nil => exact .nil
  | cons child children ih =>
    refine .cons ?_ ih
    cases child with
    | metric plan => exact ⟨rfl, h.emptyMetric plan⟩
    | bucket plan below => exact ⟨rfl, h.buckets plan (by simp)⟩

/-- Finishing a level keeps an invariant. -/
theorem finish (h : ResultInvariant result own p) {plan : BucketPlan}
    {children : List AggregationPlan} {buckets : List Bucket} {given : AggregationResult}
    (hbuckets : ∀ item ∈ buckets, own item.1 ∧
      ∃ results, GivenBy p children results ∧ item.2 = membersOf results)
    (hgiven : finish plan children buckets = .ok given) :
    p (.bucket plan children) given := by
  rcases finish_eq_ok.mp hgiven with ⟨_, rfl⟩ | ⟨_, _, shown, hshown, rfl⟩
  · exact h.buckets plan hbuckets
  · refine h.buckets plan fun item hitem => ?_
    rcases Gaps.mem_fill? hshown item hitem with hitem | ⟨_, _, _, _, k, hkeys, hk, rfl⟩
    · exact hbuckets item hitem
    · exact ⟨h.gap hkeys k hk, h.emptyResults children⟩

/-- The buckets of delivered rows. -/
theorem delivered (h : ResultInvariant result own p) {plan : BucketPlan}
    {children : List AggregationPlan} {level : Nat} {path : List Json} {rows : LevelRows}
    (hchildren : ∀ {path : List Json} {row : Row} {levels after : Levels}
      {results : List (String × AggregationResult)}, LevelsOf layout result levels →
      (aggregations level path rows.table row children).run levels = .ok (results, after) →
      GivenBy p children results)
    {taken : List Row} {levels after : Levels} {buckets : List Bucket}
    (hlevels : LevelsOf layout result levels) (htaken : ∀ row ∈ taken, Delivered result row)
    (hrun : (taken.mapM fun row => (do
      let (head, raw) ← bucketHead plan rows row
      let results ← aggregations level (path ++ [raw]) rows.table row children
      pure (head, membersOf results) : Walk Bucket)).run levels = .ok (buckets, after)) :
    ∀ item ∈ buckets, own item.1 ∧
      ∃ results, GivenBy p children results ∧ item.2 = membersOf results := by
  induction taken generalizing levels buckets with
  | nil =>
    rw [List.mapM_nil, Outcome.run_pure_eq_ok] at hrun
    obtain ⟨rfl, rfl⟩ := hrun
    intro item hitem
    cases hitem
  | cons row taken ih =>
    rw [List.mapM_cons] at hrun
    obtain ⟨bucket, middle, hbucket, hrun⟩ := Outcome.run_bind_eq_ok.mp hrun
    obtain ⟨rest, last, hrest, hrun⟩ := Outcome.run_bind_eq_ok.mp hrun
    obtain ⟨rfl, rfl⟩ := Outcome.run_pure_eq_ok.mp hrun
    obtain ⟨⟨head, raw⟩, state, hhead, hbucket⟩ := Outcome.run_bind_eq_ok.mp hbucket
    obtain ⟨hkey, rfl⟩ := Outcome.run_lift_eq_ok.mp hhead
    obtain ⟨results, state, hresults, hbucket⟩ := Outcome.run_bind_eq_ok.mp hbucket
    obtain ⟨rfl, rfl⟩ := Outcome.run_pure_eq_ok.mp hbucket
    -- the rows after this one are read from what it has left of the levels
    intro item hitem
    rcases List.mem_cons.mp hitem with rfl | hitem
    · exact ⟨h.head (htaken row (by simp)) hkey, results, hchildren hlevels hresults, rfl⟩
    · exact ih (hlevels.aggregations hresults)
        (fun r hr => htaken r (List.mem_cons_of_mem _ hr)) hrest item hitem

mutual

/-- An invariant holds of the result of every walk over an aggregation. -/
theorem aggregation (h : ResultInvariant result own p) {level : Nat} {path : List Json}
    {table : Table} {row : Row} {levels after : Levels} {given : AggregationResult} :
    (plan : AggregationPlan) → LevelsOf layout result levels →
    (aggregation level path table row plan).run levels = .ok (given, after) → p plan given
  | .metric plan => by
    intro _ hrun
    rw [Mapper.aggregation] at hrun
    exact h.metric (Outcome.run_lift_eq_ok.mp hrun).1
  | .bucket plan children => by
    intro hlevels hrun
    rw [Mapper.aggregation] at hrun
    obtain ⟨⟨rows, taken⟩, middle, htake, hrun⟩ := Outcome.run_bind_eq_ok.mp hrun
    obtain ⟨buckets, last, hbuckets, hrun⟩ := Outcome.run_bind_eq_ok.mp hrun
    obtain ⟨hgiven, rfl⟩ := Outcome.run_lift_eq_ok.mp hrun
    refine h.finish (h.delivered (fun hlevels hrun => ?_) (hlevels.takeRows htake)
      (delivered_of_takeRows hlevels htake) hbuckets) hgiven
    exact aggregations h children hlevels hrun

/-- An invariant holds of the results of every walk over aggregations. -/
theorem aggregations (h : ResultInvariant result own p) {level : Nat} {path : List Json}
    {table : Table} {row : Row} {levels after : Levels}
    {given : List (String × AggregationResult)} :
    (plans : List AggregationPlan) → LevelsOf layout result levels →
    (aggregations level path table row plans).run levels = .ok (given, after) →
    GivenBy p plans given
  | [] => by
    intro _ hrun
    obtain ⟨rfl, rfl⟩ := Outcome.run_pure_eq_ok.mp hrun
    exact .nil
  | plan :: plans => by
    intro hlevels hrun
    rw [Mapper.aggregations] at hrun
    obtain ⟨first, middle, hfirst, hrun⟩ := Outcome.run_bind_eq_ok.mp hrun
    obtain ⟨rest, last, hrest, hrun⟩ := Outcome.run_bind_eq_ok.mp hrun
    obtain ⟨rfl, rfl⟩ := Outcome.run_pure_eq_ok.mp hrun
    exact .cons ⟨rfl, aggregation h plan hlevels hfirst⟩
      (aggregations h plans (hlevels.aggregation hfirst) hrest)

end

theorem topLevel (h : ResultInvariant result own p) {metrics : Option Table} {level : Nat}
    {plans : List AggregationPlan} {levels after : Levels}
    {given : List (String × AggregationResult)} (hlevels : LevelsOf layout result levels)
    (hrun : (topLevel metrics level plans).run levels = .ok (given, after)) :
    GivenBy p plans given := by
  induction plans generalizing level levels given with
  | nil =>
    obtain ⟨rfl, rfl⟩ := Outcome.run_pure_eq_ok.mp hrun
    exact .nil
  | cons plan plans ih =>
    obtain ⟨table, row, first, middle, rest, hfirst, hrest, rfl⟩ := topLevel_cons_eq_ok hrun
    exact .cons ⟨rfl, h.aggregation plan hlevels hfirst⟩ (ih (hlevels.aggregation hfirst) hrest)

/-- An invariant holds of the results of all aggregations. -/
theorem allAggregations (h : ResultInvariant result own p) {plan : Plan}
    {results : List (String × AggregationResult)}
    (hall : allAggregations plan layout result = .ok results) :
    ∃ given, GivenBy p plan.aggregations given ∧ results = membersOf given := by
  obtain ⟨levels, hread, hall⟩ := Outcome.bind_eq_ok.mp hall
  obtain ⟨metrics, _, hall⟩ := Outcome.bind_eq_ok.mp hall
  obtain ⟨⟨given, after⟩, hwalk, hall⟩ := Outcome.bind_eq_ok.mp hall
  dsimp only at hall
  split_ifs at hall
  obtain ⟨_, _, hall⟩ := Outcome.bind_eq_ok.mp hall
  cases hall
  exact ⟨given, h.topLevel (levelsOf_of_mapM hread) hwalk, rfl⟩

/-- An invariant holds of the results of a response, which are there where aggregations are. -/
theorem response (h : ResultInvariant result own p) {plan : Plan} {took : Nat}
    {ids : Nat → String} {response : Response}
    (hresponse : plan.response layout result took ids = .ok response) :
    (plan.aggregations = [] ∧ response.aggregations = none) ∨
      plan.aggregations ≠ [] ∧ ∃ given, GivenBy p plan.aggregations given ∧
        response.aggregations = some (membersOf given) := by
  rw [response_eq] at hresponse
  obtain ⟨hits, _, hresponse⟩ := Outcome.bind_eq_ok.mp hresponse
  obtain ⟨total, _, hresponse⟩ := Outcome.bind_eq_ok.mp hresponse
  obtain ⟨results, hresults, hresponse⟩ := Outcome.bind_eq_ok.mp hresponse
  cases hresponse
  unfold resultsOf at hresults
  split_ifs at hresults with hempty
  · cases hresults
    exact Or.inl ⟨hempty, rfl⟩
  · obtain ⟨results, hall, rfl⟩ := Outcome.map_eq_ok.mp hresults
    obtain ⟨given, hgiven, rfl⟩ := h.allAggregations hall
    exact Or.inr ⟨hempty, given, hgiven, rfl⟩

end ResultInvariant

end Mapper

end KustoSearch
