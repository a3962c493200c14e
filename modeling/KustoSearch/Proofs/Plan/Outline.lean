import KustoSearch.Proofs.Plan.Inert
import KustoSearch.Proofs.Plan.Meaning
import KustoSearch.Proofs.Plan.Tree

/-! # What divides a statement

The outline of a search holds no name and no value. It tells all semicolons and pipes of the
statement for the search that stand outside quotes, and the statement ends outside quotes:
`Search.quotes_hold`. So no name and no value of a search can end its quotes.
-/

namespace KustoSearch

open Kql (Fragment Fragments Inert)

/-! ## Outlines -/

/-- An aggregation without names and values. -/
inductive Skeleton where
  | bucket (limit : Option Nat) (minDocCount : Nat) (children : List Skeleton)
  | metric

namespace Skeleton

/-- Whether it is a metric. -/
def isMetric : Skeleton → Bool
  | .bucket .. => false
  | .metric => true

mutual

/-- The number of bucket levels. -/
def levels : Skeleton → Nat
  | .bucket _ _ children => levelsOfAll children + 1
  | .metric => 0

/-- The number of bucket levels together. -/
def levelsOfAll : List Skeleton → Nat
  | [] => 0
  | skeleton :: skeletons => levels skeleton + levelsOfAll skeletons

end

/-- The stages of a bucket level: those for rows without a key, for groups and for their order are
always there. -/
def ownStages (nested : Bool) (limit : Option Nat) (minDocCount : Nat) : Nat :=
  3 + (if nested then 1 else 0) + (if 1 < minDocCount then 1 else 0) +
    (if limit.isSome then if nested then 3 else 1 else 0)

mutual

/-- The stages of all bucket levels. -/
def stages (nested : Bool) : Skeleton → Nat
  | .bucket limit minDocCount children =>
    ownStages nested limit minDocCount + stagesOfAll true children
  | .metric => 0

/-- The stages of all bucket levels together. -/
def stagesOfAll (nested : Bool) : List Skeleton → Nat
  | [] => 0
  | skeleton :: skeletons => stages nested skeleton + stagesOfAll nested skeletons

end

end Skeleton

/-- A selection of hits without names: of its columns only the numbers. -/
structure HitOutline where
  skip : Nat
  size : Nat
  sortKeys : Nat
  kept : Nat
  dropped : Nat
  trackTotal : Bool

namespace HitOutline

/-- The stages that select hits. -/
def stages (hits : HitOutline) : Nat :=
  (if hits.sortKeys = 0 then 0 else 1) + (if hits.skip = 0 then 0 else 3) + 1 +
    ((if hits.kept = 0 then 0 else 1) + (if hits.dropped = 0 then 0 else 1))

/-- The pipes of the outputs for hits and for their number; an output has one before its name. -/
def pipes (hits : HitOutline) (others : Bool) : Nat :=
  if hits.size = 0 then if hits.trackTotal || !others then 2 else 0
  else (if hits.trackTotal then 2 else 0) + (hits.stages + 1)

end HitOutline

/-- What a search asks for, without names and values. -/
structure Outline where
  aggregations : List Skeleton
  hits : HitOutline

/-- The pipes of a statement: one for the condition on rows, one for each stage of a bucket level
and one before the name of each level's output, and those of the other outputs. -/
def Outline.pipes (outline : Outline) : Nat :=
  1 + Skeleton.stagesOfAll false outline.aggregations +
    (Skeleton.levelsOfAll outline.aggregations +
      (if outline.aggregations.any Skeleton.isMetric then 2 else 0) +
      outline.hits.pipes (!outline.aggregations.isEmpty))

/-! ## The outline of a search -/

/-- The number of columns that are kept by name. -/
def SourceSelection.kept : SourceSelection → Nat
  | .only includes _ => includes.length
  | .all => 0
  | .none => 0

/-- The number of columns that are dropped by name. -/
def SourceSelection.dropped : SourceSelection → Nat
  | .only _ excludes => excludes.length
  | .all => 0
  | .none => 0

/-- The outline of a selection of hits. -/
def HitSelection.outline (hits : HitSelection) : HitOutline where
  skip := hits.skip
  size := hits.size
  sortKeys := hits.sort.length
  kept := hits.source.kept
  dropped := hits.source.dropped
  trackTotal := hits.trackTotal

/-- The skeleton of a kind with sub-aggregations. -/
def AggregationKind.skeleton (children : List Skeleton) : AggregationKind → Skeleton
  | .dateHistogram _ _ minDocCount => .bucket none minDocCount children
  | .histogram _ _ minDocCount => .bucket none minDocCount children
  | .terms _ size _ minDocCount => .bucket (some size) minDocCount children
  | .metric .. => .metric
  | .unimplemented _ => .metric

namespace Aggregation

mutual

/-- The skeleton of an aggregation. -/
def skeleton : Aggregation → Skeleton
  | .node _ kind children => kind.skeleton (skeletons children)

/-- The skeletons of aggregations in order. -/
def skeletons : List Aggregation → List Skeleton
  | [] => []
  | aggregation :: aggregations => skeleton aggregation :: skeletons aggregations

end

end Aggregation

/-- The outline of a search. -/
def Search.outline (search : Search) : Outline :=
  ⟨Aggregation.skeletons search.aggregations, search.hits.outline⟩

namespace AggregationPlan

mutual

/-- The skeleton of a plan. -/
def skeleton : AggregationPlan → Skeleton
  | .bucket plan children => .bucket plan.limit plan.minDocCount (skeletons children)
  | .metric _ => .metric

/-- The skeletons of plans in order. -/
def skeletons : List AggregationPlan → List Skeleton
  | [] => []
  | plan :: plans => skeleton plan :: skeletons plans

end

mutual

theorem levels_skeleton : (plan : AggregationPlan) → plan.skeleton.levels = plan.levelCount
  | .bucket plan children => by
    rw [skeleton, Skeleton.levels, levelCount, levelsOfAll_skeletons]
  | .metric _ => rfl

theorem levelsOfAll_skeletons : (plans : List AggregationPlan) →
    Skeleton.levelsOfAll (skeletons plans) = levelCounts plans
  | [] => rfl
  | plan :: plans => by
    rw [skeletons, Skeleton.levelsOfAll, levelCounts, levels_skeleton, levelsOfAll_skeletons]

end

theorem isEmpty_skeletons (plans : List AggregationPlan) :
    (skeletons plans).isEmpty = plans.isEmpty := by
  cases plans <;> rfl

theorem any_isMetric_skeletons (plans : List AggregationPlan) :
    (skeletons plans).any Skeleton.isMetric = !(metrics plans).isEmpty := by
  induction plans with
  | nil => rfl
  | cons plan plans ih =>
    rw [skeletons, List.any_cons, ih]
    cases plan <;> rfl

/-- Plans are levels of buckets or metrics. -/
theorem eq_nil_of_no_level {plans : List AggregationPlan} (hlevels : levelCounts plans = 0)
    (hmetrics : metrics plans = []) : plans = [] := by
  cases plans with
  | nil => rfl
  | cons plan plans =>
    cases plan with
    | bucket plan children =>
      rw [levelCounts, levelCount] at hlevels
      omega
    | metric plan => cases hmetrics

end AggregationPlan

namespace Aggregation

/-- The plan of an aggregation has the limit and the least count that were asked for. -/
theorem skeleton_planOf {name : String} {kind : AggregationKind} {children : List AggregationPlan}
    {p : AggregationPlan} (h : planOf name kind children = .ok p) :
    p.skeleton = kind.skeleton (AggregationPlan.skeletons children) := by
  cases kind with
  | dateHistogram field interval minDocCount =>
    cases h
    rfl
  | histogram field interval minDocCount =>
    cases h
    rfl
  | terms field size order minDocCount =>
    obtain ⟨b, hb, h⟩ := Outcome.bind_eq_ok.mp h
    obtain ⟨_, _, hb⟩ := Outcome.bind_eq_ok.mp hb
    cases h
    -- a least count of zero has no plan
    split_ifs at hb
    cases hb
    rfl
  | metric field function missing =>
    unfold planOf at h
    split_ifs at h
    obtain ⟨m, _, h⟩ := Outcome.bind_eq_ok.mp h
    cases h
    rfl
  | unimplemented node => cases h

mutual

theorem skeleton_plan {p : AggregationPlan} : (a : Aggregation) → plan a = .ok p →
    p.skeleton = a.skeleton
  | .node name kind children => by
    intro h
    obtain ⟨below, hbelow, h⟩ := Outcome.bind_eq_ok.mp h
    rw [skeleton_planOf h, skeleton, skeletons_plans children hbelow]

/-- Planning keeps the skeletons. -/
theorem skeletons_plans {ps : List AggregationPlan} : (as : List Aggregation) →
    plans as = .ok ps → AggregationPlan.skeletons ps = skeletons as
  | [] => by
    intro h
    cases h
    rfl
  | a :: as => by
    intro h
    obtain ⟨p, hp, h⟩ := Outcome.bind_eq_ok.mp h
    obtain ⟨rest, hrest, h⟩ := Outcome.bind_eq_ok.mp h
    cases h
    rw [AggregationPlan.skeletons, skeletons, skeleton_plan a hp, skeletons_plans as hrest]

end

end Aggregation

/-! ## Levels -/

/-- The binding of a level ends with its semicolon. -/
theorem Level.fragment_text {level : Level} (h : ∀ stage ∈ level.stages, Inert stage.text) :
    Fragment level.text [] [] 1 level.stages.length := by
  have hlet : Inert "let " := by decide
  have hequals : Inert " = " := by decide
  have hend : Fragment ";" [] [] 1 0 := by decide
  have hhead := (hlet.append (inert_levelVariable level.number)).append hequals
  have hline := (Fragment.append hhead (fragment_pipeline .rows h)).append hend
  simpa [Level.text] using hline

/-- An output has one pipe more than stages, before its name. -/
theorem Output.fragment_text {o : Output} (hstages : ∀ stage ∈ o.stages, Inert stage.text)
    (hname : Inert o.name) : Fragment o.text [] [] 0 (o.stages.length + 1) := by
  have has : Fragment " | as " [] [] 0 1 := by decide
  exact ((fragment_pipeline o.source hstages).append has).inert hname

namespace BucketNode

/-- No stage of a level chooses columns. -/
theorem patterns_of_mem_stages {node : BucketNode} {stage : Stage} (h : stage ∈ node.stages) :
    stage.patterns = [] := by
  simp only [stages, withinStages, countStages, Batch.orderStages, List.mem_append] at h
  rcases h with ((h | h) | h) | h
  · rcases List.mem_pair.mp h with rfl | rfl <;> rfl
  · split at h
    · rw [List.mem_singleton.mp h]
      rfl
    · cases h
  · split_ifs at h
    · rw [List.mem_singleton.mp h]
      rfl
    · cases h
  · rcases List.mem_cons.mp h with rfl | h
    · rfl
    · split at h
      · cases h
      · split_ifs at h
        · rw [List.mem_singleton.mp h]
          rfl
        · simp only [List.mem_cons, List.not_mem_nil, or_false] at h
          rcases h with rfl | rfl | rfl <;> rfl

theorem inert_of_mem_stages {node : BucketNode} {stage : Stage} (h : stage ∈ node.stages) :
    Inert stage.text := Stage.inert_of_patterns (patterns_of_mem_stages h)

theorem length_stages {node : BucketNode}
    (h : node.parent.isSome = !node.ancestors.isEmpty) : node.stages.length =
      Skeleton.ownStages node.parent.isSome node.plan.limit node.plan.minDocCount := by
  have hwithin : node.withinStages.length = if node.parent.isSome then 1 else 0 := by
    unfold withinStages
    cases node.parent <;> rfl
  have hcount : node.countStages.length = if 1 < node.plan.minDocCount then 1 else 0 := by
    unfold countStages
    split_ifs <;> rfl
  have htop : node.ancestorColumns.isEmpty = !node.parent.isSome := by
    rw [h, Bool.not_not, ancestorColumns, List.isEmpty_map]
  have horder : (Batch.orderStages node.plan node.ancestorColumns).length =
      1 + if node.plan.limit.isSome then if node.parent.isSome then 3 else 1 else 0 := by
    unfold Batch.orderStages
    rw [htop]
    cases node.plan.limit with
    | none => rfl
    | some n => cases node.parent <;> rfl
  rw [stages, List.length_append, List.length_append, List.length_append, hwithin, hcount, horder,
    Skeleton.ownStages, List.length_cons, List.length_singleton]
  omega

/-- The binding of a node's level. -/
theorem fragment_level {node : BucketNode} (h : node.parent.isSome = !node.ancestors.isEmpty) :
    Fragment node.level.text [] [] 1
      (Skeleton.ownStages node.parent.isSome node.plan.limit node.plan.minDocCount) := by
  rw [← length_stages h]
  exact Level.fragment_text fun _ => inert_of_mem_stages

end BucketNode

namespace AggregationPlan

mutual

theorem fragments_nodes (number : Nat) {parent : Option Nat} {ancestors : List BucketPlan}
    (h : parent.isSome = !ancestors.isEmpty) : (plan : AggregationPlan) →
    Fragments ((nodes number parent ancestors plan).map fun node => node.level.text)
      plan.levelCount (plan.skeleton.stages parent.isSome)
  | .bucket plan children => by
    -- the levels below have a parent and an ancestor, this one
    have hbelow : (some number).isSome = !(ancestors ++ [plan]).isEmpty := by simp
    rw [nodes, List.map_cons, levelCount, skeleton, Skeleton.stages, Nat.add_comm (levelCounts _)]
    exact .cons (BucketNode.fragment_level h) (fragments_nodesOfAll (number + 1) hbelow children)
  | .metric _ => .nil

/-- The bindings of the levels, one semicolon each. -/
theorem fragments_nodesOfAll (number : Nat) {parent : Option Nat} {ancestors : List BucketPlan}
    (h : parent.isSome = !ancestors.isEmpty) : (plans : List AggregationPlan) →
    Fragments ((nodesOfAll number parent ancestors plans).map fun node => node.level.text)
      (levelCounts plans) (Skeleton.stagesOfAll parent.isSome (skeletons plans))
  | [] => .nil
  | plan :: plans => by
    rw [nodesOfAll, List.map_append, levelCounts, skeletons, Skeleton.stagesOfAll]
    exact (fragments_nodes number h plan).append (fragments_nodesOfAll _ h plans)

end

end AggregationPlan

/-! ## Outputs -/

namespace Batch

theorem fragment_levelOutput (level : Level) : Fragment (levelOutput level).text [] [] 0 1 := by
  have hname : Inert (levelOutput level).name :=
    Inert.append (by decide) (Kql.inert_naturalText level.number)
  exact Output.fragment_text (fun stage hstage => nomatch hstage) hname

theorem fragments_levelOutputs (levels : List Level) :
    Fragments ((levels.map levelOutput).map Output.text) 0 levels.length := by
  induction levels with
  | nil => exact .nil
  | cons level levels ih =>
    rw [List.length_cons, Nat.add_comm]
    exact .cons (fragment_levelOutput level) ih

theorem fragment_totalOutput : Fragment totalOutput.text [] [] 0 2 := by
  refine Output.fragment_text (fun stage hstage => ?_) (by decide)
  rw [List.mem_singleton.mp hstage]
  exact Stage.inert_of_patterns rfl

theorem fragments_metricOutputs {metrics : List MetricPlan} {outputs : List Output}
    (h : metricOutputs metrics = .ok outputs) :
    Fragments (outputs.map Output.text) 0 (if metrics.isEmpty then 0 else 2) := by
  unfold metricOutputs at h
  split_ifs at h ⊢
  · cases h
    exact .nil
  · obtain ⟨_, _, h⟩ := Outcome.bind_eq_ok.mp h
    cases h
    have hname : Inert Layout.metricsTable := by decide
    refine .cons (Output.fragment_text (fun stage hstage => ?_) hname) .nil
    rw [List.mem_singleton.mp hstage]
    exact Stage.inert_of_patterns rfl

/-- The columns that are chosen by name or by pattern, as many as there are names. -/
theorem columnPatterns_eq_ok {names : List String} {patterns : List ColumnPattern}
    (h : names.mapM columnPattern = .ok patterns) :
    (∀ p ∈ patterns, Inert p.text) ∧ patterns.length = names.length := by
  have hall := Outcome.mapM_eq_ok.mp h
  refine ⟨?_, hall.length_eq.symm⟩
  clear h
  induction hall with
  | nil => exact fun p hp => nomatch hp
  | cons hname _ ih => exact List.forall_mem_cons.mpr ⟨ColumnPattern.inert_text hname, ih⟩

/-- What is there where some list is not empty. -/
theorem length_unless_isEmpty {α β : Type} (as : List α) (b : β) :
    (if as.isEmpty then [] else [b]).length = if as.length = 0 then 0 else 1 := by
  cases as <;> rfl

/-- A stage for some columns is inert where their patterns are. -/
theorem inert_of_optional (make : List ColumnPattern → Stage)
    (hmake : ∀ patterns, (make patterns).patterns = patterns) {patterns : List ColumnPattern}
    (h : ∀ p ∈ patterns, Inert p.text) :
    ∀ stage ∈ if patterns.isEmpty then [] else [make patterns], Inert stage.text := by
  intro stage hstage
  split_ifs at hstage
  · cases hstage
  · rw [List.mem_singleton.mp hstage]
    refine Stage.inert_text ?_
    rwa [hmake]

/-- The stages that choose columns: one for those to keep and one for those to drop. -/
theorem stages_of_source {source : SourceSelection} {stages : List Stage}
    (h : sourceStages source = .ok stages) : (∀ stage ∈ stages, Inert stage.text) ∧
      stages.length = (if source.kept = 0 then 0 else 1) + if source.dropped = 0 then 0 else 1 := by
  cases source with
  | all =>
    cases h
    exact ⟨fun _ hstage => absurd hstage List.not_mem_nil, rfl⟩
  | none =>
    cases h
    exact ⟨fun _ hstage => absurd hstage List.not_mem_nil, rfl⟩
  | only includes excludes =>
    obtain ⟨keep, hkeep, h⟩ := Outcome.bind_eq_ok.mp h
    obtain ⟨drop, hdrop, h⟩ := Outcome.bind_eq_ok.mp h
    cases h
    obtain ⟨hkeep, hkept⟩ := columnPatterns_eq_ok hkeep
    obtain ⟨hdrop, hdropped⟩ := columnPatterns_eq_ok hdrop
    constructor
    · intro stage hstage
      rcases List.mem_append.mp hstage with hstage | hstage
      · exact inert_of_optional .keepColumns (fun _ => rfl) hkeep stage hstage
      · exact inert_of_optional .dropColumns (fun _ => rfl) hdrop stage hstage
    · rw [List.length_append, length_unless_isEmpty, length_unless_isEmpty, hkept, hdropped]
      rfl

/-- The stages that select hits, as many as their outline says. -/
theorem stages_of_hits {hits : HitSelection} {stages : List Stage}
    (h : hitStages hits = .ok stages) :
    (∀ stage ∈ stages, Inert stage.text) ∧ stages.length = hits.outline.stages := by
  obtain ⟨source, hsource, h⟩ := Outcome.bind_eq_ok.mp h
  cases h
  obtain ⟨hinert, hlength⟩ := stages_of_source hsource
  constructor
  · -- only the stages of the source choose columns
    intro stage hstage
    simp only [List.mem_append] at hstage
    rcases hstage with ((hstage | hstage) | hstage) | hstage
    · split_ifs at hstage
      · cases hstage
      · rw [List.mem_singleton.mp hstage]
        exact Stage.inert_of_patterns rfl
    · split_ifs at hstage
      · cases hstage
      · simp only [List.mem_cons, List.not_mem_nil, or_false] at hstage
        rcases hstage with rfl | rfl | rfl <;> exact Stage.inert_of_patterns rfl
    · rw [List.mem_singleton.mp hstage]
      exact Stage.inert_of_patterns rfl
    · exact hinert stage hstage
  · have hskip : (if hits.skip = 0 then []
        else [Stage.number, .numberAbove hits.skip, .drop .rowNumber]).length =
        if hits.skip = 0 then 0 else 3 := by
      split_ifs <;> rfl
    rw [List.length_append, List.length_append, List.length_append, length_unless_isEmpty,
      List.length_map, hskip, hlength]
    rfl

theorem fragments_hitOutputs {hits : HitSelection} {others : Bool} {outputs : List Output}
    {layout : Layout} (h : hitOutputs hits others = .ok (outputs, layout)) :
    Fragments (outputs.map Output.text) 0 (hits.outline.pipes others) := by
  have hname : Inert Layout.hitsTable := by decide
  have hsize : hits.outline.size = hits.size := rfl
  have htrack : hits.outline.trackTotal = hits.trackTotal := rfl
  unfold hitOutputs at h
  rw [HitOutline.pipes, hsize, htrack]
  split_ifs at h ⊢ with hnone hcounted htotal
  · cases h
    exact .cons fragment_totalOutput .nil
  · cases h
    exact .nil
  · obtain ⟨stages, hstages, h⟩ := Outcome.bind_eq_ok.mp h
    obtain ⟨hinert, hlength⟩ := stages_of_hits hstages
    cases h
    rw [← hlength]
    exact .cons fragment_totalOutput (.cons (Output.fragment_text hinert hname) .nil)
  · obtain ⟨stages, hstages, h⟩ := Outcome.bind_eq_ok.mp h
    obtain ⟨hinert, hlength⟩ := stages_of_hits hstages
    cases h
    rw [← hlength, Nat.zero_add]
    exact .cons (Output.fragment_text hinert hname) .nil

/-- Without other outputs there is one for hits or for their number. -/
theorem hitOutputs_ne_nil {hits : HitSelection} {outputs : List Output} {layout : Layout}
    (h : hitOutputs hits false = .ok (outputs, layout)) : outputs ≠ [] := by
  unfold hitOutputs at h
  split_ifs at h with hnone hcounted htotal
  · cases h
    exact List.cons_ne_nil _ _
  · -- no hits and no number, which is where there is another output
    exact absurd (by simp) hcounted
  · obtain ⟨stages, _, h⟩ := Outcome.bind_eq_ok.mp h
    cases h
    exact List.cons_ne_nil _ _
  · obtain ⟨stages, _, h⟩ := Outcome.bind_eq_ok.mp h
    cases h
    exact List.cons_ne_nil _ _

/-- The binding of the selected rows. -/
theorem fragment_rowsText {batch : Batch} (h : Inert batch.filter.text) :
    Fragment batch.rowsText [] [] 1 1 := by
  have hopening : Fragment "let _data = database(" [] [')'] 0 0 := by decide
  have hclosing : Fragment ")." [')'] [] 0 0 := by decide
  have hwhere : Fragment " | where " [] [] 0 1 := by decide
  have hend : Fragment ";" [] [] 1 0 := by decide
  have htable := ((hopening.inert (Kql.inert_textLiteral batch.database)).append hclosing).inert
    (Kql.inert_identifier batch.table)
  exact ((htable.append hwhere).inert h).append hend

/-- A statement from its parts: each binding ends with its semicolon, and there is one between
outputs. -/
theorem fragment_text {batch : Batch} {levels pipes outputPipes : Nat}
    (hfilter : Inert batch.filter.text)
    (hlevels : Fragments (batch.levels.map Level.text) levels pipes)
    (houtputs : Fragments (batch.outputs.map Output.text) 0 outputPipes) :
    Fragment batch.text [] [] (1 + levels + (batch.outputs.length - 1))
      (1 + pipes + outputPipes) := by
  have hline : Inert "\n" := by decide
  have hnext : Fragment ";\n" [] [] 1 0 := by decide
  have hbindings := (Fragments.cons (fragment_rowsText hfilter) hlevels).join hline
  have hresults := houtputs.join hnext
  have htext := (hbindings.append hline).append hresults
  simpa [Batch.text] using htext

end Batch

/-! ## The whole statement -/

/-- The bindings of the levels of a statement. -/
theorem Plan.fragments_levels {plan : Plan} {database : String} {batch : Batch}
    (h : plan.batch database = .ok batch) :
    Fragments (batch.levels.map Level.text) (AggregationPlan.levelCounts plan.aggregations)
      (Skeleton.stagesOfAll false (AggregationPlan.skeletons plan.aggregations)) := by
  rw [(plan.levels_of_batch h).levels_eq, List.map_map]
  exact AggregationPlan.fragments_nodesOfAll 0 rfl plan.aggregations

/-- There are outputs for aggregations where there are aggregations. -/
theorem Plan.isEmpty_outputs {plan : Plan} {levels : List Level} {metrics : List Output}
    (hlevels : levels.length = AggregationPlan.levelCounts plan.aggregations)
    (hmetrics : Batch.metricOutputs (AggregationPlan.metrics plan.aggregations) = .ok metrics) :
    (levels.map Batch.levelOutput ++ metrics).isEmpty = plan.aggregations.isEmpty := by
  rw [Bool.eq_iff_iff, List.isEmpty_iff, List.isEmpty_iff, List.append_eq_nil_iff,
    List.map_eq_nil_iff]
  constructor
  · -- no level and no top-level metric, so no plan at all
    rintro ⟨rfl, rfl⟩
    exact AggregationPlan.eq_nil_of_no_level hlevels.symm
      ((Batch.metricOutputs_eq_ok hmetrics).2 rfl)
  · intro hnil
    rw [hnil] at hlevels hmetrics
    cases hmetrics
    exact ⟨List.length_eq_zero_iff.mp hlevels, rfl⟩

/-- The outputs of a statement: the levels, top-level metrics, hits and their number. -/
theorem Plan.fragments_outputs {plan : Plan} {database : String} {batch : Batch}
    (h : plan.batch database = .ok batch) :
    batch.outputs ≠ [] ∧ Fragments (batch.outputs.map Output.text) 0
      (AggregationPlan.levelCounts plan.aggregations +
        (if (AggregationPlan.metrics plan.aggregations).isEmpty then 0 else 2) +
        plan.hits.outline.pipes (!plan.aggregations.isEmpty)) := by
  have hcount : batch.levels.length = AggregationPlan.levelCounts plan.aggregations := by
    rw [(plan.levels_of_batch h).length, AggregationPlan.length_nodesOfAll]
  obtain ⟨⟨_, _⟩, _, h⟩ := Outcome.bind_eq_ok.mp h
  obtain ⟨levels, _, h⟩ := Outcome.bind_eq_ok.mp h
  obtain ⟨metrics, hmetrics, h⟩ := Outcome.bind_eq_ok.mp h
  obtain ⟨⟨hits, layout⟩, hhits, h⟩ := Outcome.bind_eq_ok.mp h
  cases h
  rw [isEmpty_outputs hcount hmetrics] at hhits
  constructor
  · show levels.map Batch.levelOutput ++ metrics ++ hits ≠ []
    rw [ne_eq, List.append_eq_nil_iff, ← List.isEmpty_iff, isEmpty_outputs hcount hmetrics]
    rintro ⟨hempty, hnone⟩
    -- without aggregations the hits or their number are asked for
    rw [hempty] at hhits
    exact Batch.hitOutputs_ne_nil hhits hnone
  · have hown := Batch.fragments_levelOutputs levels
    rw [hcount] at hown
    show Fragments ((levels.map Batch.levelOutput ++ metrics ++ hits).map Output.text) _ _
    rw [List.map_append, List.map_append]
    exact (hown.append (Batch.fragments_metricOutputs hmetrics)).append
      (Batch.fragments_hitOutputs hhits)

theorem Plan.filter_of_batch {plan : Plan} {database : String} {batch : Batch}
    (h : plan.batch database = .ok batch) : batch.filter = plan.filter := by
  obtain ⟨⟨_, _⟩, _, h⟩ := Outcome.bind_eq_ok.mp h
  obtain ⟨levels, _, h⟩ := Outcome.bind_eq_ok.mp h
  obtain ⟨metrics, _, h⟩ := Outcome.bind_eq_ok.mp h
  obtain ⟨⟨hits, layout⟩, _, h⟩ := Outcome.bind_eq_ok.mp h
  cases h
  rfl

/-- The outline of a search is that of its plan. -/
theorem Search.pipes_outline {search : Search} {plan : Plan} (h : search.plan = .ok plan) :
    search.outline.pipes =
      1 + Skeleton.stagesOfAll false (AggregationPlan.skeletons plan.aggregations) +
        (AggregationPlan.levelCounts plan.aggregations +
          (if (AggregationPlan.metrics plan.aggregations).isEmpty then 0 else 2) +
          plan.hits.outline.pipes (!plan.aggregations.isEmpty)) := by
  have hskeletons := Aggregation.skeletons_plans _ (plans_of_plan h)
  obtain ⟨filter, _, h⟩ := Outcome.bind_eq_ok.mp h
  obtain ⟨aggregations, _, h⟩ := Outcome.bind_eq_ok.mp h
  cases h
  dsimp only at hskeletons
  dsimp only [outline, Outline.pipes]
  rw [← hskeletons, AggregationPlan.levelsOfAll_skeletons, AggregationPlan.isEmpty_skeletons,
    AggregationPlan.any_isMetric_skeletons]
  cases (AggregationPlan.metrics aggregations).isEmpty <;> rfl

/-- The condition on rows stays within its quotes. -/
theorem Search.inert_filter {search : Search} {plan : Plan} (h : search.plan = .ok plan) :
    Inert plan.filter.text := by
  obtain ⟨filter, hfilter, h⟩ := Outcome.bind_eq_ok.mp h
  obtain ⟨aggregations, _, h⟩ := Outcome.bind_eq_ok.mp h
  cases h
  exact Kql.Predicate.inert_text (search.query.says_predicate hfilter).readable

/-- The text of a statement has the semicolons and pipes of the search's outline. -/
theorem Search.fragment_text {search : Search} {plan : Plan} {database : String} {batch : Batch}
    (hplan : search.plan = .ok plan) (hbatch : plan.batch database = .ok batch) :
    Fragment batch.text [] []
      (1 + Skeleton.levelsOfAll search.outline.aggregations + (batch.outputs.length - 1))
      search.outline.pipes := by
  have hlevels : Skeleton.levelsOfAll search.outline.aggregations =
      AggregationPlan.levelCounts plan.aggregations := by
    rw [outline, ← Aggregation.skeletons_plans _ (plans_of_plan hplan),
      AggregationPlan.levelsOfAll_skeletons]
  have hfilter : Inert batch.filter.text := by
    rw [plan.filter_of_batch hbatch]
    exact inert_filter hplan
  rw [hlevels, pipes_outline hplan]
  exact Batch.fragment_text hfilter (plan.fragments_levels hbatch)
    (plan.fragments_outputs hbatch).2

/-- Whatever names and values are in a search, its statement ends outside quotes. Outside them it
has a semicolon for each binding and one between outputs, as many pipes as the outline of the
search says, no slash and so no comment, and it closes the brackets that it opens. -/
theorem Search.quotes_hold {search : Search} {plan : Plan} {database : String} {batch : Batch}
    (hplan : search.plan = .ok plan) (hbatch : plan.batch database = .ok batch) :
    Kql.Quotation.outside.after batch.text.toList = .outside ∧
    (Kql.Quotation.outside.bare batch.text.toList).count ';' =
      1 + Skeleton.levelsOfAll search.outline.aggregations + batch.outputs.length - 1 ∧
    (Kql.Quotation.outside.bare batch.text.toList).count '|' = search.outline.pipes ∧
    '/' ∉ Kql.Quotation.outside.bare batch.text.toList ∧
    Kql.Balanced (Kql.Quotation.outside.bare batch.text.toList) := by
  have htext := fragment_text hplan hbatch
  have hne : batch.outputs.length ≠ 0 :=
    List.length_eq_zero_iff.not.mpr (plan.fragments_outputs hbatch).1
  refine ⟨htext.closed, ?_, htext.pipes, htext.noSlash, htext.brackets⟩
  -- there is an output, so that one less than the outputs is not cut off at zero
  rw [htext.semicolons]
  omega

/-- A search whose names and values hold quotes, backslashes and semicolons. -/
def quotedSearch : Search where
  index := "lo'gs"
  query := .term "a'b" (.string "x\" | take 1; //") false
  aggregations := [.node "host'" (.terms "h\\" 10 .countDesc 2)
    [.node "user];" (.terms "u'" 5 .keyAsc 1) [], .node "m" (.metric "n" .avg none) []]]
  hits := ⟨0, 3, [⟨"t'", true⟩], .none, true⟩

theorem Search.quotes_hold_quoted :
    ∃ plan batch, quotedSearch.plan = .ok plan ∧ plan.batch "d\"b" = .ok batch ∧
      Kql.Quotation.outside.after batch.text.toList = .outside ∧
      (Kql.Quotation.outside.bare batch.text.toList).count ';' = 6 ∧
      (Kql.Quotation.outside.bare batch.text.toList).count '|' = 20 := by
  have hplan : ∃ plan, quotedSearch.plan = .ok plan := ⟨_, rfl⟩
  obtain ⟨plan, hplan⟩ := hplan
  have hbatch : ∃ batch, plan.batch "d\"b" = .ok batch ∧ batch.outputs.length = 4 := by
    cases hplan
    exact ⟨_, rfl, rfl⟩
  obtain ⟨batch, hbatch, houtputs⟩ := hbatch
  obtain ⟨hafter, hsemicolons, hpipes, _⟩ := quotes_hold hplan hbatch
  rw [houtputs] at hsemicolons
  exact ⟨plan, batch, hplan, hbatch, hafter, hsemicolons, hpipes⟩

end KustoSearch
