import KustoSearch.Proofs.Plan.Tree
import KustoSearch.Proofs.Request.WellFormed
import KustoSearch.Proofs.Response.Coverage

/-! # Statement and response agree

The layout of a statement lists the bucket aggregations of a search in pre-order, and a result that
conforms to it has a response. Main result: `Search.conforming_result_has_response`.
-/

namespace KustoSearch

/-! ## Lengths of intervals -/

namespace Aggregation

/-- The intervals of a bucket are those of its aggregation. -/
theorem hasLength_of_planOf {name : String} {kind : AggregationKind}
    {children : List AggregationPlan} {b : BucketPlan} {below : List AggregationPlan}
    (hwell : kind.WellFormed) (h : planOf name kind children = .ok (.bucket b below)) :
    b.key.HasLength ∧ below = children := by
  cases kind with
  | dateHistogram field interval minDocCount =>
    cases h
    refine ⟨?_, rfl⟩
    cases interval with
    | fixed millis => exact hwell.2 millis rfl
    | _ => trivial
  | histogram field interval minDocCount =>
    cases h
    exact ⟨trivial, rfl⟩
  | terms field size order minDocCount =>
    obtain ⟨plan, hplan, h⟩ := Outcome.bind_eq_ok.mp h
    obtain ⟨_, _, hplan⟩ := Outcome.bind_eq_ok.mp hplan
    split_ifs at hplan
    cases hplan
    cases h
    exact ⟨trivial, rfl⟩
  | metric field function missing =>
    unfold planOf at h
    split_ifs at h
    obtain ⟨m, _, h⟩ := Outcome.bind_eq_ok.mp h
    cases h
  | unimplemented node => cases h

mutual

/-- Every bucket of a well-formed aggregation has intervals of some length. -/
theorem hasLength_nodes {p : AggregationPlan} (number : Nat) (parent : Option Nat)
    (ancestors : List BucketPlan) : (aggregation : Aggregation) →
    (∀ node ∈ aggregation.nodes, node.WellFormed) → plan aggregation = .ok p →
    ∀ node ∈ p.nodes number parent ancestors, node.plan.key.HasLength
  | .node name kind children => by
    intro hwell h
    obtain ⟨below, hbelow, h⟩ := Outcome.bind_eq_ok.mp h
    have hown : (Aggregation.node name kind children).WellFormed :=
      hwell (.aggregation (.node name kind children)) (by simp [Aggregation.nodes])
    cases p with
    | metric m => simp [AggregationPlan.nodes]
    | bucket b given =>
      obtain ⟨hlength, rfl⟩ := hasLength_of_planOf hown.kind h
      intro node hnode
      rw [AggregationPlan.nodes] at hnode
      rcases List.mem_cons.mp hnode with rfl | hnode
      · exact hlength
      · refine hasLength_nodesOfAll _ _ _ children (fun other hother => ?_) hbelow node hnode
        exact hwell other (by simp [Aggregation.nodes, hother])

theorem hasLength_nodesOfAll {ps : List AggregationPlan} (number : Nat) (parent : Option Nat)
    (ancestors : List BucketPlan) : (aggregations : List Aggregation) →
    (∀ node ∈ Aggregation.nodesOfAll aggregations, node.WellFormed) →
    plans aggregations = .ok ps →
    ∀ node ∈ AggregationPlan.nodesOfAll number parent ancestors ps, node.plan.key.HasLength
  | [] => by
    intro _ h
    cases h
    simp [AggregationPlan.nodesOfAll]
  | aggregation :: aggregations => by
    intro hwell h
    obtain ⟨p, hp, h⟩ := Outcome.bind_eq_ok.mp h
    obtain ⟨rest, hrest, h⟩ := Outcome.bind_eq_ok.mp h
    cases h
    intro node hnode
    rw [AggregationPlan.nodesOfAll] at hnode
    rcases List.mem_append.mp hnode with hnode | hnode
    · refine hasLength_nodes _ _ _ aggregation (fun other hother => ?_) hp node hnode
      exact hwell other (by simp [Aggregation.nodesOfAll, hother])
    · refine hasLength_nodesOfAll _ _ _ aggregations (fun other hother => ?_) hrest node hnode
      exact hwell other (by simp [Aggregation.nodesOfAll, hother])

end

end Aggregation

/-- Every interval of a search that has been read has a length. -/
theorem Search.hasLength_of_read {index : String} {body : Json} {search : Search} {plan : Plan}
    (hread : Search.read index body = .ok search) (hplan : search.plan = .ok plan) :
    ∀ node ∈ AggregationPlan.nodesOfAll 0 none [] plan.aggregations, node.plan.key.HasLength := by
  have hwell := (read_wellFormed hread).nodes
  refine Aggregation.hasLength_nodesOfAll 0 none [] _ (fun node hnode => ?_) (plans_of_plan hplan)
  exact hwell node (List.mem_append_right _ hnode)

namespace Mapper

variable {layout : Layout} {result : Result}

/-- Where a walk over the top-level aggregations fails, a walk over one of them does. -/
theorem topLevel_cons_eq_error {metrics : Option Table} {level : Nat} {plan : AggregationPlan}
    {plans : List AggregationPlan} {levels : Levels} {stop : Stop}
    (hmetrics : ∀ m ∈ AggregationPlan.metrics [plan], ∃ table row,
      metricsRow metrics m.name = .ok (table, row) ∧ MetricsReady [plan] table row)
    (h : (topLevel metrics level (plan :: plans)).run levels = .error stop) :
    ∃ table row, MetricsReady [plan] table row ∧
      ((aggregation level [] table row plan).run levels = .error stop ∨
        ∃ first middle, (aggregation level [] table row plan).run levels = .ok (first, middle) ∧
          (topLevel metrics (level + plan.levelCount) plans).run middle = .error stop) := by
  unfold topLevel at h
  cases plan with
  | metric m =>
    obtain ⟨table, row, hsource, hready⟩ := hmetrics m (by simp [AggregationPlan.metrics])
    refine ⟨table, row, hready, ?_⟩
    rcases Outcome.run_bind_eq_error.mp h with h | ⟨source, start, hstart, h⟩
    · rw [Outcome.run_lift_eq_error, hsource] at h
      cases h
    · obtain ⟨heq, rfl⟩ := Outcome.run_lift_eq_ok.mp hstart
      rw [hsource, Except.ok.injEq] at heq
      subst heq
      rcases Outcome.run_bind_eq_error.mp h with h | ⟨first, middle, hfirst, h⟩
      · exact Or.inl h
      · rcases Outcome.run_bind_eq_error.mp h with h | ⟨_, _, _, h⟩
        · exact Or.inr ⟨first, middle, hfirst, h⟩
        · cases h
  | bucket b children =>
    refine ⟨noTable, [], by simp [MetricsReady, AggregationPlan.metrics], ?_⟩
    rcases Outcome.run_bind_eq_error.mp h with h | ⟨source, start, hstart, h⟩
    · cases h
    · obtain ⟨rfl, rfl⟩ := Outcome.run_pure_eq_ok.mp hstart
      rcases Outcome.run_bind_eq_error.mp h with h | ⟨first, middle, hfirst, h⟩
      · exact Or.inl h
      · rcases Outcome.run_bind_eq_error.mp h with h | ⟨_, _, _, h⟩
        · exact Or.inr ⟨first, middle, hfirst, h⟩
        · cases h

/-- A walk over the top-level aggregations fails only for want of room. -/
theorem topLevel_error {metrics : Option Table} {level : Nat} {plans : List AggregationPlan}
    {levels : Levels} {stop : Stop}
    (hready : ReadyFor layout result (AggregationPlan.nodesOfAll level none [] plans) levels)
    (hmetrics : ∀ m ∈ AggregationPlan.metrics plans, ∃ table row,
      metricsRow metrics m.name = .ok (table, row) ∧ MetricsReady plans table row)
    (h : (topLevel metrics level plans).run levels = .error stop) :
    TooMany (AggregationPlan.nodesOfAll level none [] plans) stop := by
  induction plans generalizing level levels with
  | nil => cases h
  | cons plan plans ih =>
    have hmore : ∀ fewer : List AggregationPlan, fewer.Sublist (plan :: plans) →
        ∀ m ∈ AggregationPlan.metrics fewer, ∃ table row,
          metricsRow metrics m.name = .ok (table, row) ∧ MetricsReady fewer table row := by
      intro fewer hfewer m hm
      obtain ⟨table, row, hrow, hgiven⟩ := hmetrics m (mem_metrics_of_sublist hfewer hm)
      exact ⟨table, row, hrow, fun m' hm' => hgiven m' (mem_metrics_of_sublist hfewer hm')⟩
    rw [AggregationPlan.nodesOfAll] at hready ⊢
    obtain ⟨table, row, hrow, h⟩ := topLevel_cons_eq_error (hmore [plan] (by simp)) h
    rcases h with h | ⟨first, middle, hfirst, h⟩
    · exact (aggregation_error plan (hready.subset (List.subset_append_left _ _)) hrow h).mono
        (List.subset_append_left _ _)
    · obtain ⟨trace, htrace⟩ := aggregation_walk plan hready.read hfirst
      have hrest := (hready.subset (List.subset_append_right _ _)).walked htrace.walked
      exact (ih hrest (hmore plans (by simp)) h).mono (List.subset_append_right _ _)

/-- The row of the metrics of a conforming result. -/
theorem metricsRow_of_conforms {plan : Plan} {metrics : Option Table}
    (hconforms : Conforms plan layout result)
    (hlisted : AggregationPlan.metrics plan.aggregations ≠ [] → ∃ name, layout.metrics = some name)
    (hmetrics : layout.metrics.mapM (requireTable result) = .ok metrics) :
    ∀ m ∈ AggregationPlan.metrics plan.aggregations, ∃ table row,
      metricsRow metrics m.name = .ok (table, row) ∧
        MetricsReady plan.aggregations table row := by
  intro m hm
  obtain ⟨name, hname⟩ := hlisted (List.ne_nil_of_mem hm)
  obtain ⟨table, row, htable, hrows, hwide, hcells⟩ := hconforms.metrics name hname
  have hsome : metrics = some table := by
    rw [hname, Option.mapM_some, requireTable_eq_ok.mpr htable] at hmetrics
    cases hmetrics
    rfl
  refine ⟨table, row, ?_, metricsReady_of_has hcells⟩
  have hwidth : row.length = table.columns.length := hwide row (by rw [hrows]; simp)
  simp only [hsome, metricsRow, hrows]
  exact Outcome.bind_eq_ok.mpr ⟨(), checkWidth_eq_ok.mpr hwidth, rfl⟩

section Conforming

variable {plan : Plan} (hconforms : Conforms plan layout result) (hlaid : plan.LaidOut layout)
  (hlengths : ∀ node ∈ AggregationPlan.nodesOfAll 0 none [] plan.aggregations,
    node.plan.key.HasLength)
include hconforms hlaid hlengths

theorem ready_of_laidOut {node : BucketNode}
    (hnode : node ∈ AggregationPlan.nodesOfAll 0 none [] plan.aggregations) :
    ∃ rows, Ready layout result node node.table rows := by
  refine ready_of_conforms hconforms (hlengths node hnode) hnode ?_
  rw [hlaid.buckets, List.getElem?_map, AggregationPlan.getElem?_number hnode]
  rfl

/-- The levels of a conforming result are read. -/
theorem exists_levels_of_conforms :
    ∃ levels, layout.buckets.mapM (levelRows result) = .ok levels := by
  refine Outcome.exists_mapM_eq_ok fun listed hlisted => ?_
  rw [hlaid.buckets] at hlisted
  obtain ⟨node, hnode, rfl⟩ := List.mem_map.mp hlisted
  obtain ⟨rows, hrows⟩ := ready_of_laidOut hconforms hlaid hlengths hnode
  exact ⟨rows, hrows.level.2⟩

/-- Each node finds its rows at its number. -/
theorem getElem?_levels_of_conforms {levels : Levels}
    (hlevels : layout.buckets.mapM (levelRows result) = .ok levels) {node : BucketNode}
    (hnode : node ∈ AggregationPlan.nodesOfAll 0 none [] plan.aggregations) :
    ∃ rows, Ready layout result node node.table rows ∧ levels[node.number]? = some rows := by
  obtain ⟨rows, hrows⟩ := ready_of_laidOut hconforms hlaid hlengths hnode
  rcases getElem?_of_forall₂ (Outcome.mapM_eq_ok.mp hlevels) node.number with
    ⟨hnone, _⟩ | ⟨table, r, htable, hr, hlevel⟩
  · rw [hrows.level.1] at hnone
    cases hnone
  · rw [hrows.level.1, Option.some.injEq] at htable
    subst htable
    rw [hrows.level.2, Except.ok.injEq] at hlevel
    subst hlevel
    exact ⟨rows, hrows, hr⟩

theorem readyFor_of_conforms {levels : Levels}
    (hlevels : layout.buckets.mapM (levelRows result) = .ok levels) :
    ReadyFor layout result (AggregationPlan.nodesOfAll 0 none [] plan.aggregations) levels := by
  refine ⟨levelsOf_of_mapM hlevels, fun node hnode => ?_, fun node hnode => ?_, hlengths⟩
  · obtain ⟨rows, _, hrows⟩ := getElem?_levels_of_conforms hconforms hlaid hlengths hlevels hnode
    exact (List.getElem?_eq_some_iff.mp hrows).1
  · obtain ⟨rows, hrows, _⟩ := getElem?_levels_of_conforms hconforms hlaid hlengths hlevels hnode
    exact ⟨node.table, rows, hrows⟩

/-- A walk over a conforming result takes every row. -/
theorem checkAllTaken_of_conforms {levels after : Levels} {metrics : Option Table}
    {given : List (String × AggregationResult)}
    (hlevels : layout.buckets.mapM (levelRows result) = .ok levels)
    (hwalk : (topLevel metrics 0 plan.aggregations).run levels = .ok (given, after)) :
    checkAllTaken after = .ok () := by
  have hcount : levels.length = AggregationPlan.levelCounts plan.aggregations := by
    rw [← (Outcome.mapM_eq_ok.mp hlevels).length_eq, hlaid.buckets, List.length_map,
      AggregationPlan.length_nodesOfAll]
  have hready := readyFor_of_conforms hconforms hlaid hlengths hlevels
  obtain ⟨traces, htraces⟩ := topLevel_walk hready.read hwalk
  have htop : ∀ p, (none : Option Nat) = some p → p < 0 := by simp
  have hcovers := covers_of_followsAll [] htop plan.aggregations htraces.follows
  exact checkAllTaken_of_held (held_eq_nil
    (fun _ hnode => getElem?_levels_of_conforms hconforms hlaid hlengths hlevels hnode)
    htraces.walked hcovers hcount)

/-- The aggregations over a conforming result fail only for want of room. -/
theorem allAggregations_error {stop : Stop} (h : allAggregations plan layout result = .error stop) :
    TooMany (AggregationPlan.nodesOfAll 0 none [] plan.aggregations) stop := by
  rcases Outcome.bind_eq_error.mp h with h | ⟨levels, hlevels, h⟩
  · obtain ⟨levels, hlevels⟩ := exists_levels_of_conforms hconforms hlaid hlengths
    rw [hlevels] at h
    cases h
  rcases Outcome.bind_eq_error.mp h with h | ⟨metrics, hmetrics, h⟩
  · cases hname : layout.metrics with
    | none =>
      rw [hname] at h
      cases h
    | some name =>
      obtain ⟨table, _, htable, _⟩ := hconforms.metrics name hname
      rw [hname, Option.mapM_some, requireTable_eq_ok.mpr htable] at h
      cases h
  rcases Outcome.bind_eq_error.mp h with h | ⟨⟨given, after⟩, hwalk, h⟩
  · exact topLevel_error (readyFor_of_conforms hconforms hlaid hlengths hlevels)
      (metricsRow_of_conforms hconforms hlaid.metrics hmetrics) h
  · -- both checks behind the walk pass
    have hlength : AggregationPlan.levelCounts plan.aggregations = layout.buckets.length := by
      rw [hlaid.buckets, List.length_map, AggregationPlan.length_nodesOfAll]
    dsimp only at h
    rw [if_neg (by simp [hlength]), checkAllTaken_of_conforms hconforms hlaid hlengths hlevels hwalk] at h
    cases h

end Conforming

/-- The hits of a conforming result are read. -/
theorem hitsOf_of_conforms {plan : Plan} (ids : Nat → String)
    (hconforms : Conforms plan layout result) :
    ∃ hits, hitsOf plan layout result ids = .ok hits := by
  unfold hitsOf
  cases hname : layout.hits with
  | none => exact ⟨[], rfl⟩
  | some name =>
    obtain ⟨table, htable, hwide⟩ := hconforms.hits name hname
    obtain ⟨hits, hhits⟩ := exists_hitsFrom plan.index plan.hits.source ids 0 hwide
    exact ⟨hits, Outcome.bind_eq_ok.mpr ⟨table, requireTable_eq_ok.mpr htable, hhits⟩⟩

/-- The number of hits of a conforming result is read. -/
theorem totalOf_of_conforms {plan : Plan} (hits : List Hit)
    (hconforms : Conforms plan layout result) :
    ∃ total, totalOf layout result hits = .ok total := by
  unfold totalOf
  cases hname : layout.total with
  | none => exact ⟨_, rfl⟩
  | some name =>
    obtain ⟨table, row, htable, hrows, _, hcell⟩ := hconforms.total name hname
    obtain ⟨i, _, value, hi, _, hvalue, hcount⟩ := hcell.cell
    obtain ⟨n, hn⟩ := Cell.count?_of_isCount hcount
    have htotal : readTotal table = .ok n := by
      unfold readTotal
      refine Outcome.bind_eq_ok.mpr ⟨i, requireColumn_eq_ok.mpr hi, ?_⟩
      rw [hrows]
      refine Outcome.bind_eq_ok.mpr ⟨value, cell_eq_ok.mpr hvalue, ?_⟩
      rw [hn]
    refine ⟨⟨n, true⟩, Outcome.bind_eq_ok.mpr ⟨table, requireTable_eq_ok.mpr htable, ?_⟩⟩
    exact Outcome.bind_eq_ok.mpr ⟨n, htotal, rfl⟩

/-- The response to a conforming result fails only for want of room. -/
theorem response_error {plan : Plan} {took : Nat} {ids : Nat → String} {stop : Stop}
    (hconforms : Conforms plan layout result) (hlaid : plan.LaidOut layout)
    (hlengths : ∀ node ∈ AggregationPlan.nodesOfAll 0 none [] plan.aggregations,
      node.plan.key.HasLength)
    (h : plan.response layout result took ids = .error stop) :
    TooMany (AggregationPlan.nodesOfAll 0 none [] plan.aggregations) stop := by
  obtain ⟨hits, hhits⟩ := hitsOf_of_conforms ids hconforms
  obtain ⟨total, htotal⟩ := totalOf_of_conforms hits hconforms
  rw [response_eq, hhits] at h
  rcases Outcome.bind_eq_error.mp h with h | ⟨hits', hhits', h⟩
  · cases h
  cases hhits'
  rw [htotal] at h
  rcases Outcome.bind_eq_error.mp h with h | ⟨total', htotal', h⟩
  · cases h
  rcases Outcome.bind_eq_error.mp h with h | ⟨aggregations, _, h⟩
  · unfold resultsOf at h
    split_ifs at h
    cases hresults : allAggregations plan layout result with
    | ok results =>
      rw [hresults] at h
      cases h
    | error stop' =>
      rw [hresults] at h
      cases h
      exact allAggregations_error hconforms hlaid hlengths hresults
  · cases h

end Mapper

open Mapper

/-- The layout of the statement for a search lists the bucket aggregations of the search in
pre-order, each with the key columns of those above it and its own, and the columns of each table
have different names. Where all intervals have a length, as they have in a search that has been
read, a result that conforms to the layout has a response, unless a level that shows empty buckets
would show too many. -/
theorem Search.conforming_result_has_response {search : Search} {plan : Plan} {batch : Batch}
    {database : String} (hplan : search.plan = .ok plan)
    (hbatch : plan.batch database = .ok batch) :
    batch.layout.buckets = (Aggregation.levelColumnsOfAll [] search.aggregations).mapIdx
      (fun number level => level.table number) ∧
    (∀ level ∈ Aggregation.levelColumnsOfAll [] search.aggregations, level.all.Nodup) ∧
    (Aggregation.metricNames search.aggregations).Nodup ∧
    (∀ index body, Search.read index body = .ok search →
      ∀ node ∈ AggregationPlan.nodesOfAll 0 none [] plan.aggregations,
        node.plan.key.HasLength) ∧
    ((∀ node ∈ AggregationPlan.nodesOfAll 0 none [] plan.aggregations,
        node.plan.key.HasLength) →
      ∀ result took ids, Conforms plan batch.layout result →
      (∃ response, plan.response batch.layout result took ids = .ok response) ∨
      ∃ node ∈ AggregationPlan.nodesOfAll 0 none [] plan.aggregations,
        node.plan.minDocCount = 0 ∧
        plan.response batch.layout result took ids =
          .error (.failure (Gaps.tooMany node.plan))) := by
  have hlaid := Plan.laidOut_of_batch hbatch
  refine ⟨?_, ?_, ?_, fun index body hread => hasLength_of_read hread hplan,
    fun hlengths result took ids hconforms => ?_⟩
  · rw [hlaid.buckets, map_table_nodes hplan]
  · intro level hlevel
    rw [← map_levelColumns hplan] at hlevel
    obtain ⟨node, hnode, rfl⟩ := List.mem_map.mp hlevel
    rw [← node.columns_eq]
    exact hlaid.distinct node hnode
  · rw [← Aggregation.plans_metricNames (plans_of_plan hplan)]
    exact hlaid.metricsDistinct
  · cases h : Plan.response plan batch.layout result took ids with
    | ok response => exact Or.inl ⟨response, rfl⟩
    | error stop =>
      obtain ⟨node, hnode, hzero, rfl⟩ :=
        response_error hconforms hlaid hlengths h
      exact Or.inr ⟨node, hnode, hzero, rfl⟩

/-- A search for the users below each host. -/
def hostsSearch : Search where
  index := "logs"
  query := .matchAll
  aggregations := [.node "host" (.terms "host" 10 .countDesc 1)
    [.node "user" (.terms "user" 10 .countDesc 1) []]]
  hits := ⟨0, 0, [], .none, false⟩

/-- A request for the users below each host, and nothing else. -/
def hostsBody : Json := .object [
  ("size", Json.ofNat 0),
  ("_source", .bool false),
  ("track_total_hits", .bool false),
  ("aggs", .object [("host", .object [
    ("terms", .object [("field", .string "host")]),
    ("aggs", .object [("user", .object [("terms", .object [("field", .string "user")])])])])])]

theorem read_hosts : Search.read "logs" hostsBody = .ok hostsSearch := rfl

/-- The table of a host and a user below it conforms to the statement for them. -/
theorem conforms_hosts : Conforms hostsPlan hostsLayout (hostsResult "a") := by
  refine ⟨by simp [hostsLayout], by simp [hostsLayout], by simp [hostsLayout], ?_⟩
  intro node hnode listed hlisted
  rcases List.mem_pair.mp hnode with rfl | rfl
  · cases hlisted
    refine ⟨_, rfl, ⟨?_, ?_, ?_, ?_, ?_, ?_⟩⟩
    · exact List.forall_mem_singleton.mpr rfl
    · intro c hc
      rcases List.mem_pair.mp hc with rfl | rfl
      · exact ⟨0, rfl⟩
      · exact ⟨1, rfl⟩
    · exact List.forall_mem_singleton.mpr ⟨.string, .string "a", rfl, by simp [Cell.IsKey]⟩
    · exact List.forall_mem_singleton.mpr ⟨.number, Json.ofNat 1, rfl, trivial⟩
    · exact fun _ _ c hc => absurd hc List.not_mem_nil
    · exact List.forall_mem_singleton.mpr (List.mem_singleton.mpr rfl)
  · cases hlisted
    refine ⟨_, rfl, ⟨?_, ?_, ?_, ?_, ?_, ?_⟩⟩
    · exact List.forall_mem_singleton.mpr rfl
    · intro c hc
      have hc : c ∈ ["host", "user", "doc_count"] := hc
      simp only [List.mem_cons, List.not_mem_nil, or_false] at hc
      rcases hc with rfl | rfl | rfl
      · exact ⟨0, rfl⟩
      · exact ⟨1, rfl⟩
      · exact ⟨2, rfl⟩
    · exact List.forall_mem_singleton.mpr ⟨.string, .string "x", rfl, by simp [Cell.IsKey]⟩
    · exact List.forall_mem_singleton.mpr ⟨.number, Json.ofNat 1, rfl, trivial⟩
    · exact fun _ _ c hc => absurd hc List.not_mem_nil
    · exact List.forall_mem_singleton.mpr (List.mem_singleton.mpr rfl)

/-- The statement for the users below each host. -/
theorem exists_batch_hosts : ∃ batch, hostsPlan.batch "db" = .ok batch ∧
    batch.layout = hostsLayout := by
  have hzero : Text.naturalText 0 = "0" := by
    rw [Text.naturalText, Text.decimal_of_lt (by decide)]
    rfl
  have hone : Text.naturalText (0 + 1) = "1" := by
    rw [Text.naturalText, Text.decimal_of_lt (by decide)]
    rfl
  refine ⟨_, rfl, ?_⟩
  show Layout.mk none none none [⟨"agg" ++ Text.naturalText 0, "host", ["host"]⟩,
    ⟨"agg" ++ Text.naturalText (0 + 1), "user", ["host", "user"]⟩] = hostsLayout
  rw [hzero, hone]
  rfl

theorem Search.conforming_result_has_response_hosts :
    ∃ batch, Search.read "logs" hostsBody = .ok hostsSearch ∧ hostsSearch.plan = .ok hostsPlan ∧
      hostsPlan.batch "db" = .ok batch ∧ Conforms hostsPlan batch.layout (hostsResult "a") ∧
      ∃ response, hostsPlan.response batch.layout (hostsResult "a") 0 (fun _ => "") =
        .ok response := by
  have hplan : hostsSearch.plan = .ok hostsPlan := rfl
  obtain ⟨batch, hbatch, hlayout⟩ := exists_batch_hosts
  have hconforms : Conforms hostsPlan batch.layout (hostsResult "a") := by
    rw [hlayout]
    exact conforms_hosts
  refine ⟨batch, read_hosts, hplan, hbatch, hconforms, ?_⟩
  obtain ⟨_, _, _, hlengths, hresponse⟩ := conforming_result_has_response hplan hbatch
  rcases hresponse (hlengths "logs" hostsBody read_hosts) (hostsResult "a") 0 (fun _ => "")
    hconforms with h | ⟨node, hnode, hzero, _⟩
  · exact h
  · rcases List.mem_pair.mp hnode with rfl | rfl <;> cases hzero

end KustoSearch
