import KustoSearch.Proofs.Response.Conforming

/-! # Walks over levels that are ready

A walk over levels that are ready fails only where the gaps of a level cannot be filled:
`aggregation_error`.
-/

namespace KustoSearch.Mapper

variable {layout : Layout} {result : Result}

/-- Whether a failure tells of a node that shows empty buckets, and would show too many. -/
def TooMany (nodes : List BucketNode) (stop : Stop) : Prop :=
  ∃ node ∈ nodes, node.plan.minDocCount = 0 ∧ stop = .failure (Gaps.tooMany node.plan)

theorem TooMany.mono {nodes more : List BucketNode} {stop : Stop} (h : TooMany nodes stop)
    (hmore : nodes ⊆ more) : TooMany more stop := by
  obtain ⟨node, hnode, hstop⟩ := h
  exact ⟨node, hmore hnode, hstop⟩

/-- Levels in the midst of a walk, one for each node of some nodes, that are ready. -/
structure ReadyFor (layout : Layout) (result : Result) (nodes : List BucketNode)
    (levels : Levels) : Prop where
  read : LevelsOf layout result levels
  numbers : ∀ node ∈ nodes, node.number < levels.length
  ready : ∀ node ∈ nodes, ∃ listed rows, Ready layout result node listed rows
  lengths : ∀ node ∈ nodes, node.plan.key.HasLength

theorem ReadyFor.subset {nodes fewer : List BucketNode} {levels : Levels}
    (h : ReadyFor layout result nodes levels) (hfewer : fewer ⊆ nodes) :
    ReadyFor layout result fewer levels :=
  ⟨h.read, fun node hnode => h.numbers node (hfewer hnode),
    fun node hnode => h.ready node (hfewer hnode),
    fun node hnode => h.lengths node (hfewer hnode)⟩

/-- A walk leaves levels that are ready. -/
theorem ReadyFor.walked {nodes : List BucketNode} {levels after : Levels}
    {visits : List (Nat × List Json)} {taken : List (Nat × Row)}
    (h : ReadyFor layout result nodes levels) (hwalked : Walked levels after visits taken) :
    ReadyFor layout result nodes after := by
  rw [hwalked.after]
  refine ⟨h.read.without visits, fun node hnode => ?_, h.ready, h.lengths⟩
  rw [Mapper.without, List.length_mapIdx]
  exact h.numbers node hnode

/-- Where intervals have a length, a level cannot be finished only for want of room. -/
theorem tooMany_of_finish {nodes : List BucketNode} {node : BucketNode} (hnode : node ∈ nodes)
    (hlength : node.plan.key.HasLength) {children : List AggregationPlan} {buckets : List Bucket}
    {stop : Stop} (h : finish node.plan children buckets = .error stop) : TooMany nodes stop := by
  obtain ⟨hshown, ⟨hlong, _⟩ | ⟨_, _, hstop⟩⟩ := finish_eq_error.mp h
  · obtain ⟨field, hkey⟩ := Gaps.exists_of_overlong hlong
    rw [hkey] at hlength
    exact absurd hlength Interval.not_proper_minValue
  · exact ⟨node, hnode, hshown, hstop⟩

theorem mem_metrics_of_sublist {plans more : List AggregationPlan} {m : MetricPlan}
    (h : plans.Sublist more) (hm : m ∈ AggregationPlan.metrics plans) :
    m ∈ AggregationPlan.metrics more :=
  (h.filterMap _).subset hm

/-- Rows can be taken out of every level that there is. -/
theorem takeRows_ne_error {name : String} {level : Nat} {path : List Json} {levels : Levels}
    {stop : Stop} (hlevel : level < levels.length) :
    (takeRows name level path).run levels ≠ .error stop := by
  intro h
  have hsome : levels[level]? = some levels[level] := List.getElem?_eq_getElem hlevel
  rcases Outcome.run_bind_eq_error.mp h with h | ⟨current, state, hget, h⟩
  · cases h
  · cases hget
    simp only [hsome] at h
    cases h

/-- The buckets of rows that are ready fail only below some row. -/
theorem walk_buckets_error {plan : BucketPlan} {children : List AggregationPlan} {level : Nat}
    {path : List Json} {rows : LevelRows} {nodes : List BucketNode} {taken : List Row}
    {levels : Levels} {stop : Stop}
    (hchildren : ∀ {path : List Json} {row : Row} {levels : Levels},
      ReadyFor layout result nodes levels → MetricsReady children rows.table row →
      (aggregations level path rows.table row children).run levels = .error stop →
      TooMany nodes stop)
    (hready : ReadyFor layout result nodes levels)
    (hheads : ∀ row ∈ taken, ∃ head raw, bucketHead plan rows row = .ok (head, raw))
    (hmetrics : ∀ row ∈ taken, MetricsReady children rows.table row)
    (h : (taken.mapM fun row => (do
      let (head, raw) ← bucketHead plan rows row
      let results ← aggregations level (path ++ [raw]) rows.table row children
      pure (head, membersOf results) : Walk Bucket)).run levels = .error stop) :
    TooMany nodes stop := by
  induction taken generalizing levels with
  | nil => cases h
  | cons row taken ih =>
    obtain ⟨head, raw, hhead⟩ := hheads row (by simp)
    have hrow := hmetrics row (by simp)
    rw [List.mapM_cons] at h
    rcases Outcome.run_bind_eq_error.mp h with h | ⟨bucket, middle, hbucket, h⟩
    · rcases Outcome.run_bind_eq_error.mp h with h | ⟨⟨_, _⟩, state, hfirst, h⟩
      · rw [Outcome.run_lift_eq_error, hhead] at h
        cases h
      · obtain ⟨_, rfl⟩ := Outcome.run_lift_eq_ok.mp hfirst
        rcases Outcome.run_bind_eq_error.mp h with h | ⟨_, _, _, h⟩
        · exact hchildren hready hrow h
        · cases h
    · obtain ⟨⟨_, _⟩, state, hfirst, hbucket⟩ := Outcome.run_bind_eq_ok.mp hbucket
      obtain ⟨_, rfl⟩ := Outcome.run_lift_eq_ok.mp hfirst
      obtain ⟨results, state, hresults, hbucket⟩ := Outcome.run_bind_eq_ok.mp hbucket
      obtain ⟨rfl, rfl⟩ := Outcome.run_pure_eq_ok.mp hbucket
      obtain ⟨traces, htraces⟩ := aggregations_walk children hready.read hresults
      rcases Outcome.run_bind_eq_error.mp h with h | ⟨_, _, _, h⟩
      · exact ih (hready.walked htraces.walked)
          (fun r hr => hheads r (List.mem_cons_of_mem _ hr))
          (fun r hr => hmetrics r (List.mem_cons_of_mem _ hr)) h
      · cases h

mutual

/-- A walk over levels that are ready fails only for want of room. -/
theorem aggregation_error {level : Nat} {parent : Option Nat} {ancestors : List BucketPlan}
    {path : List Json} {table : Table} {row : Row} {levels : Levels} {stop : Stop} :
    (plan : AggregationPlan) →
    ReadyFor layout result (plan.nodes level parent ancestors) levels →
    MetricsReady [plan] table row →
    (aggregation level path table row plan).run levels = .error stop →
    TooMany (plan.nodes level parent ancestors) stop
  | .metric plan => by
    intro _ hmetrics h
    obtain ⟨given, hgiven⟩ := hmetrics plan (by simp [AggregationPlan.metrics])
    rw [aggregation, Outcome.run_lift_eq_error, hgiven] at h
    cases h
  | .bucket plan children => by
    intro hready _ h
    have hown : (⟨level, parent, ancestors, plan, children⟩ : BucketNode) ∈
        (AggregationPlan.bucket plan children).nodes level parent ancestors := by
      simp [AggregationPlan.nodes]
    have hbelow : AggregationPlan.nodesOfAll (level + 1) (some level) (ancestors ++ [plan])
        children ⊆ (AggregationPlan.bucket plan children).nodes level parent ancestors := by
      rw [AggregationPlan.nodes]
      exact List.subset_cons_self _ _
    obtain ⟨listed, original, hnode⟩ := hready.ready _ hown
    -- the rows are taken and made into buckets without failing; finishing the level may fail
    rw [aggregation] at h
    rcases Outcome.run_bind_eq_error.mp h with h | ⟨⟨rows, taken⟩, middle, htake, h⟩
    · exact absurd h (takeRows_ne_error (hready.numbers _ hown))
    · obtain ⟨hlevel, htaken, hmiddle⟩ := takeRows_eq_ok hready.read.distinct htake
      have hwalked := walked_takeRows hready.read.distinct htake
      obtain ⟨listed', original', gone, hread, rfl⟩ := hready.read level rows hlevel
      obtain rfl : listed' = listed := by
        have hsame := hread.1
        rw [hnode.level.1, Option.some.injEq] at hsame
        exact hsame.symm
      obtain rfl : original' = original := by
        have hsame := hread.2
        rw [hnode.level.2, Except.ok.injEq] at hsame
        exact hsame.symm
      have hrows : ∀ r ∈ taken, r ∈ original'.table.rows := by
        intro r hr
        rw [htaken] at hr
        exact (((readAs_of_levelRows hread.2).grouped.filter _).taken (groupKey path)).1.subset hr
      rcases Outcome.run_bind_eq_error.mp h with h | ⟨buckets, last, _, h⟩
      · refine (walk_buckets_error (fun hready hmetrics h => ?_)
          ((hready.walked hwalked).subset hbelow) (fun r hr => hnode.heads r (hrows r hr))
          (fun r hr => hnode.metrics r (hrows r hr)) h).mono hbelow
        exact aggregations_error children hready hmetrics h
      · rw [Outcome.run_lift_eq_error] at h
        exact tooMany_of_finish hown (hready.lengths _ hown) h

/-- A walk over levels that are ready fails only for want of room. -/
theorem aggregations_error {level : Nat} {parent : Option Nat} {ancestors : List BucketPlan}
    {path : List Json} {table : Table} {row : Row} {levels : Levels} {stop : Stop} :
    (plans : List AggregationPlan) →
    ReadyFor layout result (AggregationPlan.nodesOfAll level parent ancestors plans) levels →
    MetricsReady plans table row →
    (aggregations level path table row plans).run levels = .error stop →
    TooMany (AggregationPlan.nodesOfAll level parent ancestors plans) stop
  | [] => by
    intro _ _ h
    cases h
  | plan :: plans => by
    intro hready hmetrics h
    rw [AggregationPlan.nodesOfAll] at hready ⊢
    have hfirst := hready.subset (List.subset_append_left _ _)
    have hrest := hready.subset (List.subset_append_right _ _)
    rw [aggregations] at h
    rcases Outcome.run_bind_eq_error.mp h with h | ⟨given, middle, hgiven, h⟩
    · refine (aggregation_error plan hfirst (fun m hm => hmetrics m ?_) h).mono
        (List.subset_append_left _ _)
      exact mem_metrics_of_sublist (by simp) hm
    · obtain ⟨trace, htrace⟩ := aggregation_walk plan hready.read hgiven
      rcases Outcome.run_bind_eq_error.mp h with h | ⟨_, _, _, h⟩
      · refine (aggregations_error plans (hrest.walked htrace.walked)
          (fun m hm => hmetrics m ?_) h).mono (List.subset_append_right _ _)
        exact mem_metrics_of_sublist (by simp) hm
      · cases h

end

end KustoSearch.Mapper
