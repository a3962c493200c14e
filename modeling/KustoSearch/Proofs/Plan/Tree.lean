import KustoSearch.Proofs.Plan.Nodes

/-! # The tree of a search

The bucket aggregations of a search with their columns, and that the plan of the search has the
same: `plans_levelColumns`.
-/

namespace KustoSearch

/-- The columns of the table of a bucket aggregation. -/
structure LevelColumns where
  name : String
  /-- The names of the aggregations above, the top first. -/
  ancestors : List String
  metrics : List String

namespace LevelColumns

/-- The key columns of the ancestors, then the own one. -/
def keys (level : LevelColumns) : List String := level.ancestors ++ [level.name]

/-- All columns. -/
def all (level : LevelColumns) : List String :=
  level.keys ++ [Aggregation.docCountColumn] ++ level.metrics

/-- The table of a level with a number. -/
def table (level : LevelColumns) (number : Nat) : BucketTable :=
  ⟨"agg" ++ Text.naturalText number, level.name, level.keys⟩

end LevelColumns

namespace Aggregation

/-- The columns of the metrics among some aggregations. -/
def metricNames (aggregations : List Aggregation) : List String :=
  aggregations.flatMap fun
    | .node name (.metric field function _) _ =>
      (metricColumns name field function).map MetricColumn.column
    | _ => []

mutual

/-- The bucket aggregations of a tree in pre-order, below some others. -/
def levelColumns (ancestors : List String) : Aggregation → List LevelColumns
  | .node name kind children =>
    if kind.isBucket then
      ⟨name, ancestors, metricNames children⟩ ::
        levelColumnsOfAll (ancestors ++ [name]) children
    else []

/-- The bucket aggregations of trees, one after another. -/
def levelColumnsOfAll (ancestors : List String) : List Aggregation → List LevelColumns
  | [] => []
  | aggregation :: aggregations =>
    levelColumns ancestors aggregation ++ levelColumnsOfAll ancestors aggregations

end

end Aggregation

/-- The columns of a node. -/
def BucketNode.levelColumns (node : BucketNode) : LevelColumns :=
  ⟨node.plan.name, node.ancestors.map BucketPlan.name, node.metricColumns⟩

theorem BucketNode.table_eq (node : BucketNode) :
    node.table = node.levelColumns.table node.number := by
  simp [BucketNode.table, LevelColumns.table, LevelColumns.keys, BucketNode.levelColumns,
    BucketNode.keyColumns]

theorem BucketNode.columns_eq (node : BucketNode) : node.columns = node.levelColumns.all := by
  simp [BucketNode.columns, LevelColumns.all, LevelColumns.keys, BucketNode.levelColumns,
    BucketNode.keyColumns]

namespace Aggregation

/-- What the plan of a single aggregation is. -/
theorem planOf_eq_ok {name : String} {kind : AggregationKind} {children : List AggregationPlan}
    {p : AggregationPlan} (h : planOf name kind children = .ok p) :
    (kind.isBucket = true ∧ ∃ b, b.name = name ∧ p = .bucket b children) ∨
      ∃ field function missing, kind = .metric field function missing ∧ children = [] ∧
        p = .metric ⟨name, function, metricColumns name field function⟩ := by
  cases kind with
  | dateHistogram field interval minDocCount =>
    cases h
    exact Or.inl ⟨rfl, _, rfl, rfl⟩
  | histogram field interval minDocCount =>
    cases h
    exact Or.inl ⟨rfl, _, rfl, rfl⟩
  | terms field size order minDocCount =>
    obtain ⟨b, hb, h⟩ := Outcome.bind_eq_ok.mp h
    cases h
    obtain ⟨o, _, hb⟩ := Outcome.bind_eq_ok.mp hb
    split_ifs at hb
    cases hb
    exact Or.inl ⟨rfl, _, rfl, rfl⟩
  | metric field function missing =>
    unfold planOf at h
    split_ifs at h with hchildren
    obtain ⟨m, hm, h⟩ := Outcome.bind_eq_ok.mp h
    cases h
    unfold metricPlan at hm
    split_ifs at hm
    cases hm
    refine Or.inr ⟨field, function, missing, rfl, ?_, rfl⟩
    simpa using hchildren
  | unimplemented node => cases h

/-- The metrics among some plans are those among their aggregations. -/
theorem plans_metricNames {aggregations : List Aggregation} {ps : List AggregationPlan}
    (h : plans aggregations = .ok ps) :
    (Batch.columnsOf (AggregationPlan.metrics ps)).map MetricColumn.column =
      metricNames aggregations := by
  induction aggregations generalizing ps with
  | nil =>
    cases h
    rfl
  | cons aggregation aggregations ih =>
    obtain ⟨p, hp, h⟩ := Outcome.bind_eq_ok.mp h
    obtain ⟨rest, hrest, h⟩ := Outcome.bind_eq_ok.mp h
    cases h
    obtain ⟨name, kind, children⟩ := aggregation
    obtain ⟨below, _, hp⟩ := Outcome.bind_eq_ok.mp hp
    have htail := ih hrest
    rcases planOf_eq_ok hp with ⟨hbucket, b, _, rfl⟩ | ⟨field, function, missing, rfl, _, rfl⟩
    · cases kind with
      | dateHistogram => exact htail
      | histogram => exact htail
      | terms => exact htail
      | metric => cases hbucket
      | unimplemented => cases hbucket
    · show (metricColumns name field function ++
        Batch.columnsOf (AggregationPlan.metrics rest)).map MetricColumn.column = _
      rw [List.map_append, htail]
      rfl

mutual

/-- The nodes of a plan are the bucket aggregations of its tree. -/
theorem plan_levelColumns {number : Nat} {parent : Option Nat} {ancestors : List BucketPlan}
    {p : AggregationPlan} : (aggregation : Aggregation) → plan aggregation = .ok p →
    (p.nodes number parent ancestors).map BucketNode.levelColumns =
      levelColumns (ancestors.map BucketPlan.name) aggregation
  | .node name kind children => by
    intro h
    obtain ⟨below, hbelow, h⟩ := Outcome.bind_eq_ok.mp h
    rcases planOf_eq_ok h with ⟨hbucket, b, hname, rfl⟩ | ⟨field, function, missing, rfl, _, rfl⟩
    · rw [AggregationPlan.nodes, levelColumns, if_pos hbucket, List.map_cons,
        plans_levelColumns children hbelow, BucketNode.levelColumns, BucketNode.metricColumns,
        plans_metricNames hbelow, List.map_append, List.map_singleton, hname]
    · simp [AggregationPlan.nodes, levelColumns, AggregationKind.isBucket]

/-- The nodes of plans are the bucket aggregations of their trees, one after another. -/
theorem plans_levelColumns {number : Nat} {parent : Option Nat} {ancestors : List BucketPlan}
    {ps : List AggregationPlan} : (aggregations : List Aggregation) →
    plans aggregations = .ok ps →
    (AggregationPlan.nodesOfAll number parent ancestors ps).map BucketNode.levelColumns =
      levelColumnsOfAll (ancestors.map BucketPlan.name) aggregations
  | [] => by
    intro h
    cases h
    rfl
  | aggregation :: aggregations => by
    intro h
    obtain ⟨p, hp, h⟩ := Outcome.bind_eq_ok.mp h
    obtain ⟨rest, hrest, h⟩ := Outcome.bind_eq_ok.mp h
    cases h
    rw [AggregationPlan.nodesOfAll, levelColumnsOfAll, List.map_append,
      plan_levelColumns aggregation hp, plans_levelColumns aggregations hrest]

end

end Aggregation

/-- The plan of a search has plans of its aggregations. -/
theorem Search.plans_of_plan {search : Search} {plan : Plan} (h : search.plan = .ok plan) :
    Aggregation.plans search.aggregations = .ok plan.aggregations := by
  obtain ⟨filter, _, h⟩ := Outcome.bind_eq_ok.mp h
  obtain ⟨aggregations, haggregations, h⟩ := Outcome.bind_eq_ok.mp h
  cases h
  exact haggregations

/-- The nodes of a plan are the bucket aggregations of the search. -/
theorem Search.map_levelColumns {search : Search} {plan : Plan} (h : search.plan = .ok plan) :
    (AggregationPlan.nodesOfAll 0 none [] plan.aggregations).map BucketNode.levelColumns =
      Aggregation.levelColumnsOfAll [] search.aggregations :=
  Aggregation.plans_levelColumns _ (plans_of_plan h)

/-- The tables of the nodes of a plan, numbered in pre-order. -/
theorem Search.map_table_nodes {search : Search} {plan : Plan} (h : search.plan = .ok plan) :
    (AggregationPlan.nodesOfAll 0 none [] plan.aggregations).map BucketNode.table =
      (Aggregation.levelColumnsOfAll [] search.aggregations).mapIdx
        fun number level => level.table number := by
  rw [← map_levelColumns h]
  apply List.ext_getElem?
  intro i
  rw [List.getElem?_map, List.getElem?_mapIdx, List.getElem?_map]
  cases hnode : (AggregationPlan.nodesOfAll 0 none [] plan.aggregations)[i]? with
  | none => rfl
  | some node =>
    rw [Option.map_some, Option.map_some, Option.map_some, node.table_eq,
      AggregationPlan.number_of_getElem? hnode]

end KustoSearch
