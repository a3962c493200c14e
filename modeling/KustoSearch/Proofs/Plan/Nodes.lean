import KustoSearch.Batch
import KustoSearch.Proofs.Outcome
import Mathlib.Tactic.SplitIfs

/-! # The levels of a tree of aggregations

The bucket nodes of a tree in pre-order. The statement has one level for each of them, and their
columns have different names: `levelsOfAll_eq_ok`.
-/

namespace KustoSearch

/-- A bucket aggregation in its tree. -/
structure BucketNode where
  /-- The number of the node in pre-order. -/
  number : Nat
  /-- The number of the bucket aggregation that it stands directly below. -/
  parent : Option Nat
  ancestors : List BucketPlan
  plan : BucketPlan
  children : List AggregationPlan

namespace BucketNode

/-- The key columns of the ancestors, then the own one. -/
def keyColumns (node : BucketNode) : List String :=
  (node.ancestors ++ [node.plan]).map BucketPlan.name

/-- The columns of the metrics that stand directly below the node. -/
def metricColumns (node : BucketNode) : List String :=
  (Batch.columnsOf (AggregationPlan.metrics node.children)).map MetricColumn.column

/-- All columns of the node's table. -/
def columns (node : BucketNode) : List String :=
  node.keyColumns ++ [Aggregation.docCountColumn] ++ node.metricColumns

/-- The node's table. -/
def table (node : BucketNode) : BucketTable :=
  ⟨"agg" ++ Text.naturalText node.number, node.plan.name, node.keyColumns⟩

/-- The names of the ancestors, the top first. -/
def ancestorColumns (node : BucketNode) : List String := node.ancestors.map BucketPlan.name

/-- The keys that rows are grouped by, under their columns. -/
def keys (node : BucketNode) : List (String × BucketKey) :=
  (node.ancestors ++ [node.plan]).map fun b => (b.name, b.key)

/-- The stages that drop groups without a parent. -/
def withinStages (node : BucketNode) : List Stage :=
  match node.parent with
  | some parent => [.within parent node.ancestorColumns]
  | none => []

/-- The stages that drop groups with too few rows. -/
def countStages (node : BucketNode) : List Stage :=
  if 1 < node.plan.minDocCount then [.minDocCount node.plan.minDocCount] else []

/-- The stages that compute the node's table. -/
def stages (node : BucketNode) : List Stage :=
  [.hasKey node.plan.key,
    .group (Batch.columnsOf (AggregationPlan.metrics node.children)) node.keys] ++
    node.withinStages ++ node.countStages ++ Batch.orderStages node.plan node.ancestorColumns

/-- The node's level of the statement. -/
def level (node : BucketNode) : Level :=
  ⟨node.number, node.stages, node.plan.name, node.keyColumns⟩

theorem keyColumns_eq (node : BucketNode) :
    node.keyColumns = node.ancestorColumns ++ [node.plan.name] := by
  simp [keyColumns, ancestorColumns]

end BucketNode

namespace AggregationPlan

mutual

/-- The bucket nodes of a plan in pre-order. -/
def nodes (number : Nat) (parent : Option Nat) (ancestors : List BucketPlan) :
    AggregationPlan → List BucketNode
  | .metric _ => []
  | .bucket plan children =>
    ⟨number, parent, ancestors, plan, children⟩ ::
      nodesOfAll (number + 1) (some number) (ancestors ++ [plan]) children

/-- The bucket nodes of plans, one after another. -/
def nodesOfAll (number : Nat) (parent : Option Nat) (ancestors : List BucketPlan) :
    List AggregationPlan → List BucketNode
  | [] => []
  | plan :: plans =>
    nodes number parent ancestors plan ++
      nodesOfAll (number + plan.levelCount) parent ancestors plans

end

mutual

theorem length_nodes (number : Nat) (parent : Option Nat) (ancestors : List BucketPlan) :
    (plan : AggregationPlan) → (nodes number parent ancestors plan).length = plan.levelCount
  | .metric _ => rfl
  | .bucket plan children => by
    rw [nodes, levelCount, List.length_cons, length_nodesOfAll]

theorem length_nodesOfAll (number : Nat) (parent : Option Nat) (ancestors : List BucketPlan) :
    (plans : List AggregationPlan) →
    (nodesOfAll number parent ancestors plans).length = levelCounts plans
  | [] => rfl
  | plan :: plans => by
    rw [nodesOfAll, levelCounts, List.length_append, length_nodes, length_nodesOfAll]

end

mutual

/-- The nodes have their places in pre-order as their numbers. -/
theorem map_number_nodes (number : Nat) (parent : Option Nat) (ancestors : List BucketPlan) :
    (plan : AggregationPlan) →
    (nodes number parent ancestors plan).map BucketNode.number =
      List.range' number plan.levelCount
  | .metric _ => rfl
  | .bucket plan children => by
    rw [nodes, levelCount, List.map_cons, map_number_nodesOfAll, List.range'_succ]

theorem map_number_nodesOfAll (number : Nat) (parent : Option Nat) (ancestors : List BucketPlan) :
    (plans : List AggregationPlan) →
    (nodesOfAll number parent ancestors plans).map BucketNode.number =
      List.range' number (levelCounts plans)
  | [] => rfl
  | plan :: plans => by
    rw [nodesOfAll, levelCounts, List.map_append, map_number_nodes, map_number_nodesOfAll,
      ← List.range'_append_1]

end

mutual

/-- A node stands directly below the parent of its plan, or below a node of the plan. -/
theorem parent_of_mem_nodes (number : Nat) (parent : Option Nat) (ancestors : List BucketPlan) :
    (plan : AggregationPlan) → ∀ node ∈ nodes number parent ancestors plan,
      number ≤ node.number ∧ (node.parent = parent ∨
        ∃ p, node.parent = some p ∧ number ≤ p ∧ p < number + plan.levelCount ∧ p < node.number)
  | .metric _ => by simp [nodes]
  | .bucket plan children => by
    intro node hnode
    rw [nodes, List.mem_cons] at hnode
    rw [levelCount]
    rcases hnode with rfl | hnode
    · exact ⟨Nat.le_refl _, Or.inl rfl⟩
    · obtain ⟨hnumber, hparent⟩ := parent_of_mem_nodesOfAll _ _ _ children node hnode
      refine ⟨by omega, Or.inr ?_⟩
      rcases hparent with hparent | ⟨p, hparent, hbounds⟩
      · exact ⟨number, hparent, by omega⟩
      · exact ⟨p, hparent, by omega⟩

theorem parent_of_mem_nodesOfAll (number : Nat) (parent : Option Nat)
    (ancestors : List BucketPlan) :
    (plans : List AggregationPlan) → ∀ node ∈ nodesOfAll number parent ancestors plans,
      number ≤ node.number ∧ (node.parent = parent ∨
        ∃ p, node.parent = some p ∧ number ≤ p ∧ p < number + levelCounts plans ∧
          p < node.number)
  | [] => by simp [nodesOfAll]
  | plan :: plans => by
    intro node hnode
    rw [nodesOfAll, List.mem_append] at hnode
    rw [levelCounts]
    rcases hnode with hnode | hnode
    · obtain ⟨hnumber, hparent⟩ := parent_of_mem_nodes _ _ _ plan node hnode
      refine ⟨hnumber, hparent.imp_right ?_⟩
      rintro ⟨p, hparent, hbounds⟩
      exact ⟨p, hparent, by omega⟩
    · obtain ⟨hnumber, hparent⟩ := parent_of_mem_nodesOfAll _ _ _ plans node hnode
      refine ⟨by omega, hparent.imp_right ?_⟩
      rintro ⟨p, hparent, hbounds⟩
      exact ⟨p, hparent, by omega⟩

end

mutual

/-- A node stands at the top, or directly below another one. -/
theorem ancestors_of_mem_nodes (number : Nat) (parent : Option Nat)
    (ancestors : List BucketPlan) :
    (plan : AggregationPlan) → ∀ node ∈ nodes number parent ancestors plan,
      (node.parent = parent ∧ node.ancestors = ancestors) ∨
        ∃ above ∈ nodes number parent ancestors plan, node.parent = some above.number ∧
          node.ancestors = above.ancestors ++ [above.plan]
  | .metric _ => by simp [nodes]
  | .bucket plan children => by
    intro node hnode
    rw [nodes] at hnode ⊢
    rcases List.mem_cons.mp hnode with rfl | hnode
    · exact Or.inl ⟨rfl, rfl⟩
    · rcases ancestors_of_mem_nodesOfAll _ _ _ children node hnode with
        ⟨hparent, hancestors⟩ | ⟨above, habove, h⟩
      · exact Or.inr ⟨_, List.mem_cons_self, hparent, hancestors⟩
      · exact Or.inr ⟨above, List.mem_cons_of_mem _ habove, h⟩

theorem ancestors_of_mem_nodesOfAll (number : Nat) (parent : Option Nat)
    (ancestors : List BucketPlan) :
    (plans : List AggregationPlan) → ∀ node ∈ nodesOfAll number parent ancestors plans,
      (node.parent = parent ∧ node.ancestors = ancestors) ∨
        ∃ above ∈ nodesOfAll number parent ancestors plans,
          node.parent = some above.number ∧ node.ancestors = above.ancestors ++ [above.plan]
  | [] => by simp [nodesOfAll]
  | plan :: plans => by
    intro node hnode
    rw [nodesOfAll] at hnode ⊢
    rcases List.mem_append.mp hnode with hnode | hnode
    · refine (ancestors_of_mem_nodes _ _ _ plan node hnode).imp_right ?_
      rintro ⟨above, habove, h⟩
      exact ⟨above, List.mem_append_left _ habove, h⟩
    · refine (ancestors_of_mem_nodesOfAll _ _ _ plans node hnode).imp_right ?_
      rintro ⟨above, habove, h⟩
      exact ⟨above, List.mem_append_right _ habove, h⟩

end

/-- The number of a node is its place. -/
theorem number_of_getElem? {ancestors : List BucketPlan} {plans : List AggregationPlan} {i : Nat}
    {node : BucketNode} (h : (nodesOfAll 0 none ancestors plans)[i]? = some node) :
    node.number = i := by
  have hlt : i < levelCounts plans := by
    rw [← length_nodesOfAll 0 none ancestors plans]
    exact (List.getElem?_eq_some_iff.mp h).1
  have hnumber : ((nodesOfAll 0 none ancestors plans).map BucketNode.number)[i]? =
      some node.number := by
    rw [List.getElem?_map, h]
    rfl
  rw [map_number_nodesOfAll, List.getElem?_range' hlt, Option.some.injEq] at hnumber
  omega

theorem getElem?_number {ancestors : List BucketPlan} {plans : List AggregationPlan}
    {node : BucketNode} (h : node ∈ nodesOfAll 0 none ancestors plans) :
    (nodesOfAll 0 none ancestors plans)[node.number]? = some node := by
  obtain ⟨i, hi⟩ := List.getElem?_of_mem h
  rw [number_of_getElem? hi]
  exact hi

/-- No two nodes have one number. -/
theorem eq_of_number {ancestors : List BucketPlan} {plans : List AggregationPlan}
    {node other : BucketNode} (h : node ∈ nodesOfAll 0 none ancestors plans)
    (h' : other ∈ nodesOfAll 0 none ancestors plans) (hnumber : node.number = other.number) :
    node = other := by
  have hfound := getElem?_number h
  rw [hnumber, getElem?_number h', Option.some.injEq] at hfound
  exact hfound.symm

/-- Every number below the number of levels is that of a node. -/
theorem exists_node (ancestors : List BucketPlan) {plans : List AggregationPlan} {number : Nat}
    (h : number < levelCounts plans) :
    ∃ node ∈ nodesOfAll 0 none ancestors plans, node.number = number := by
  have hmem : number ∈ (nodesOfAll 0 none ancestors plans).map BucketNode.number := by
    rw [map_number_nodesOfAll, List.mem_range'_1]
    omega
  exact List.mem_map.mp hmem

end AggregationPlan

namespace Batch

/-! ## Levels of the statement -/

/-- No name is repeated, nor one of those seen before. -/
theorem firstRepeated?_eq_none {seen names : List String} :
    firstRepeated? seen names = none ↔ names.Nodup ∧ ∀ name ∈ names, name ∉ seen := by
  induction names generalizing seen with
  | nil => simp [firstRepeated?]
  | cons name names ih =>
    unfold firstRepeated?
    by_cases hseen : name ∈ seen
    · simp [hseen]
    · rw [if_neg (by simpa using hseen), ih]
      constructor
      · rintro ⟨hnodup, hnew⟩
        have hname : name ∉ names := fun hmem => hnew name hmem (by simp)
        refine ⟨List.nodup_cons.mpr ⟨hname, hnodup⟩, fun other hother => ?_⟩
        rcases List.mem_cons.mp hother with rfl | hother
        · exact hseen
        · exact fun hmem => hnew other hother (List.mem_cons_of_mem _ hmem)
      · rintro ⟨hnodup, hnew⟩
        obtain ⟨hname, hnodup⟩ := List.nodup_cons.mp hnodup
        refine ⟨hnodup, fun other hother hmem => ?_⟩
        rcases List.mem_cons.mp hmem with rfl | hmem
        · exact hname hother
        · exact hnew other (List.mem_cons_of_mem _ hother) hmem

theorem requireDistinct_eq_ok {level : String} {columns : List String} :
    requireDistinct level columns = .ok () ↔ columns.Nodup := by
  have hnone : firstRepeated? [] columns = none ↔ columns.Nodup := by
    rw [firstRepeated?_eq_none]
    simp
  rw [← hnone, requireDistinct]
  split <;> simp_all

/-- Levels that are those of some nodes, each with columns of different names. -/
structure LevelsAre (levels : List Level) (nodes : List BucketNode) : Prop where
  levels_eq : levels = nodes.map BucketNode.level
  distinct : ∀ node ∈ nodes, node.columns.Nodup

theorem LevelsAre.append {levels more : List Level} {nodes moreNodes : List BucketNode}
    (h : LevelsAre levels nodes) (h' : LevelsAre more moreNodes) :
    LevelsAre (levels ++ more) (nodes ++ moreNodes) := by
  refine ⟨by rw [List.map_append, h.levels_eq, h'.levels_eq], fun node hnode => ?_⟩
  rcases List.mem_append.mp hnode with hnode | hnode
  · exact h.distinct node hnode
  · exact h'.distinct node hnode

theorem LevelsAre.length {levels : List Level} {nodes : List BucketNode}
    (h : LevelsAre levels nodes) : levels.length = nodes.length := by
  rw [h.levels_eq, List.length_map]

/-- The level of a bucket aggregation. -/
theorem level_eq_ok {number : Nat} {parent : Option Nat} {ancestors : List BucketPlan}
    {plan : BucketPlan} {children : List AggregationPlan} {own : Level}
    (h : level number parent ancestors plan (AggregationPlan.metrics children) = .ok own) :
    LevelsAre [own] [⟨number, parent, ancestors, plan, children⟩] := by
  obtain ⟨_, hdistinct, h⟩ := Outcome.bind_eq_ok.mp h
  rw [requireDistinct_eq_ok] at hdistinct
  cases h
  refine ⟨rfl, fun node hnode => ?_⟩
  rw [List.mem_singleton.mp hnode]
  exact hdistinct

mutual

/-- The levels of a plan are its bucket nodes. -/
theorem levelsOf_eq_ok {number : Nat} {parent : Option Nat} {ancestors : List BucketPlan}
    {levels : List Level} : (plan : AggregationPlan) →
    levelsOf number parent ancestors plan = .ok levels →
    LevelsAre levels (plan.nodes number parent ancestors)
  | .metric _ => by
    intro h
    cases h
    exact ⟨rfl, by simp [AggregationPlan.nodes]⟩
  | .bucket plan children => by
    intro h
    obtain ⟨own, hown, h⟩ := Outcome.bind_eq_ok.mp h
    obtain ⟨below, hbelow, h⟩ := Outcome.bind_eq_ok.mp h
    cases h
    exact (level_eq_ok hown).append (levelsOfAll_eq_ok children hbelow)

/-- The levels of plans are their bucket nodes, one after another. -/
theorem levelsOfAll_eq_ok {number : Nat} {parent : Option Nat} {ancestors : List BucketPlan}
    {levels : List Level} : (plans : List AggregationPlan) →
    levelsOfAll number parent ancestors plans = .ok levels →
    LevelsAre levels (AggregationPlan.nodesOfAll number parent ancestors plans)
  | [] => by
    intro h
    cases h
    exact ⟨rfl, by simp [AggregationPlan.nodesOfAll]⟩
  | plan :: plans => by
    intro h
    obtain ⟨first, hfirst, h⟩ := Outcome.bind_eq_ok.mp h
    obtain ⟨rest, hrest, h⟩ := Outcome.bind_eq_ok.mp h
    cases h
    have hnodes := levelsOf_eq_ok plan hfirst
    rw [hnodes.length, AggregationPlan.length_nodes] at hrest
    exact hnodes.append (levelsOfAll_eq_ok plans hrest)

end

/-- The columns of top-level metrics have different names, and where there are metrics there is a
table for them. -/
theorem metricOutputs_eq_ok {metrics : List MetricPlan} {outputs : List Output}
    (h : metricOutputs metrics = .ok outputs) :
    ((columnsOf metrics).map MetricColumn.column).Nodup ∧ (outputs = [] → metrics = []) := by
  unfold metricOutputs at h
  split_ifs at h with hempty
  · rw [List.isEmpty_iff] at hempty
    subst hempty
    exact ⟨List.nodup_nil, fun _ => rfl⟩
  · obtain ⟨_, hdistinct, h⟩ := Outcome.bind_eq_ok.mp h
    cases h
    exact ⟨requireDistinct_eq_ok.mp hdistinct, fun h => by cases h⟩

end Batch

/-- A parent comes before its nodes. -/
theorem Plan.parent_lt {plan : Plan} {node : BucketNode}
    (hnode : node ∈ AggregationPlan.nodesOfAll 0 none [] plan.aggregations) {parent : Nat}
    (hparent : node.parent = some parent) : parent < node.number := by
  rcases (AggregationPlan.parent_of_mem_nodesOfAll 0 none [] plan.aggregations node hnode).2 with
    hnone | ⟨p, hp, _, _, hlt⟩
  · rw [hparent] at hnone
    cases hnone
  · rw [hparent, Option.some.injEq] at hp
    rw [hp]
    exact hlt

/-- What the layout of a statement says about aggregations. -/
structure Plan.LaidOut (plan : Plan) (layout : Layout) : Prop where
  buckets : layout.buckets =
    (AggregationPlan.nodesOfAll 0 none [] plan.aggregations).map BucketNode.table
  distinct : ∀ node ∈ AggregationPlan.nodesOfAll 0 none [] plan.aggregations, node.columns.Nodup
  metricsDistinct :
    ((Batch.columnsOf (AggregationPlan.metrics plan.aggregations)).map MetricColumn.column).Nodup
  metrics : AggregationPlan.metrics plan.aggregations ≠ [] → ∃ name, layout.metrics = some name

/-- The levels of a statement are those of the nodes. -/
theorem Plan.levels_of_batch {plan : Plan} {database : String} {batch : Batch}
    (h : plan.batch database = .ok batch) :
    Batch.LevelsAre batch.levels
      (AggregationPlan.nodesOfAll 0 none [] plan.aggregations) := by
  obtain ⟨⟨_, _⟩, _, h⟩ := Outcome.bind_eq_ok.mp h
  obtain ⟨levels, hlevels, h⟩ := Outcome.bind_eq_ok.mp h
  obtain ⟨metrics, _, h⟩ := Outcome.bind_eq_ok.mp h
  obtain ⟨⟨_, _⟩, _, h⟩ := Outcome.bind_eq_ok.mp h
  cases h
  exact Batch.levelsOfAll_eq_ok _ hlevels

theorem Plan.laidOut_of_batch {plan : Plan} {database : String} {batch : Batch}
    (h : plan.batch database = .ok batch) : plan.LaidOut batch.layout := by
  obtain ⟨⟨_, _⟩, _, h⟩ := Outcome.bind_eq_ok.mp h
  obtain ⟨levels, hlevels, h⟩ := Outcome.bind_eq_ok.mp h
  obtain ⟨metrics, hmetrics, h⟩ := Outcome.bind_eq_ok.mp h
  obtain ⟨⟨_, _⟩, _, h⟩ := Outcome.bind_eq_ok.mp h
  cases h
  have hnodes := Batch.levelsOfAll_eq_ok _ hlevels
  obtain ⟨hdistinct, hsome⟩ := Batch.metricOutputs_eq_ok hmetrics
  refine ⟨?_, hnodes.distinct, hdistinct, fun hne => ⟨Layout.metricsTable, ?_⟩⟩
  · show levels.map Batch.levelTable = _
    rw [hnodes.levels_eq, List.map_map]
    rfl
  · have hne : metrics.isEmpty = false := by
      rw [List.isEmpty_eq_false_iff]
      exact fun h => hne (hsome h)
    simp [hne]

end KustoSearch
