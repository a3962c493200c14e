import KustoSearch.Proofs.Json.Members
import KustoSearch.Proofs.Plan.Tree
import KustoSearch.Request.Reader

/-! # The shape of the aggregations

What a request says about the form of its results: names, nesting and kinds. Reading and planning
keep it, and the plans of a statement are well named: `Search.answers_of_batch`.
-/

namespace KustoSearch

/-- The form of a result. -/
inductive Shape where
  /-- Buckets, each with results of its own. -/
  | buckets (children : List (String × Shape))
  | stats
  | percentiles (percents : List Binary64)
  | single
  /-- No result at all. -/
  | unanswered

/-- The form of a metric's result. -/
def MetricFunction.shape : MetricFunction → Shape
  | .stats => .stats
  | .percentiles percents => .percentiles percents
  | .avg => .single
  | .sum => .single
  | .min => .single
  | .max => .single
  | .cardinality => .single
  | .valueCount => .single

/-! ## What is declared -/

namespace Request

/-- The form of the result of a declared type, with sub-aggregations in its buckets. -/
def Declared.shape (children : List (String × Shape)) : Declared → Shape
  | .metric _ function _ _ => function.shape
  | .percentiles _ percents => .percentiles (percents.getD defaultPercents)
  | .terms _ _ _ _ missing => if missing.isSome then .unanswered else .buckets children
  | .histogram .. => .buckets children
  | .dateHistogram .. => .buckets children
  | .unimplemented _ => .unanswered

mutual

/-- The form of the result of an aggregation, which declares one type. -/
def AggregationSpec.shape : AggregationSpec → Shape
  | .node declared children =>
    match declared with
    | [single] => single.shape (shapes children)
    | _ => .unanswered

/-- The names of aggregations in order, each with the form of its result. -/
def shapes : List (String × AggregationSpec) → List (String × Shape)
  | [] => []
  | (name, spec) :: specs => (name, spec.shape) :: shapes specs

end

end Request

/-! ## What is asked for and what is planned -/

/-- The form of the result of a kind, with sub-aggregations in its buckets. -/
def AggregationKind.shape (children : List (String × Shape)) : AggregationKind → Shape
  | .dateHistogram .. => .buckets children
  | .histogram .. => .buckets children
  | .terms .. => .buckets children
  | .metric _ function _ => function.shape
  | .unimplemented _ => .unanswered

namespace Aggregation

/-- The name of the aggregation. -/
def name : Aggregation → String
  | .node name _ _ => name

mutual

/-- The form of the result of an aggregation. -/
def shape : Aggregation → Shape
  | .node _ kind children => kind.shape (shapes children)

/-- The names of aggregations in order, each with the form of its result. -/
def shapes : List Aggregation → List (String × Shape)
  | [] => []
  | aggregation :: aggregations =>
    (aggregation.name, shape aggregation) :: shapes aggregations

end

end Aggregation

namespace AggregationPlan

mutual

/-- The form of the result of a plan. -/
def shape : AggregationPlan → Shape
  | .bucket _ children => .buckets (shapes children)
  | .metric plan => plan.function.shape

/-- The names of plans in order, each with the form of its result. -/
def shapes : List AggregationPlan → List (String × Shape)
  | [] => []
  | plan :: plans => (plan.name, shape plan) :: shapes plans

end

theorem map_fst_shapes (plans : List AggregationPlan) :
    (shapes plans).map Prod.fst = plans.map name := by
  induction plans with
  | nil => rfl
  | cons plan plans ih => rw [shapes, List.map_cons, List.map_cons, ih]

theorem mem_shapes {plan : AggregationPlan} {plans : List AggregationPlan} (h : plan ∈ plans) :
    (plan.name, plan.shape) ∈ shapes plans := by
  induction plans with
  | nil => cases h
  | cons first plans ih =>
    rw [shapes]
    rcases List.mem_cons.mp h with rfl | h
    · exact List.mem_cons_self
    · exact List.mem_cons_of_mem _ (ih h)

end AggregationPlan

/-! ## Reading and planning -/

namespace Request

theorem shape_aggregationKind {declared : Declared} {path : String} {kind : AggregationKind}
    (h : aggregationKind declared path = .ok kind) (children : List (String × Shape)) :
    kind.shape children = declared.shape children := by
  cases declared with
  | metric name function field missing =>
    obtain ⟨_, _, h⟩ := Outcome.bind_eq_ok.mp h
    cases h
    rfl
  | percentiles field percents =>
    obtain ⟨_, _, h⟩ := Outcome.bind_eq_ok.mp h
    dsimp only at h
    split_ifs at h
    split at h
    · cases h
    · cases h
      rfl
  | terms field size order minDocCount missing =>
    simp only [aggregationKind, termsKind] at h
    rw [Declared.shape]
    split_ifs at h ⊢ with hmissing hsize
    · cases h
      rfl
    · obtain ⟨_, _, h⟩ := Outcome.bind_eq_ok.mp h
      obtain ⟨_, _, h⟩ := Outcome.bind_eq_ok.mp h
      cases h
      rfl
  | histogram field interval minDocCount =>
    obtain ⟨_, _, h⟩ := Outcome.bind_eq_ok.mp h
    split at h
    · split_ifs at h
      cases h
      rfl
    · cases h
  | dateHistogram field interval fixedInterval calendarInterval minDocCount =>
    obtain ⟨_, _, h⟩ := Outcome.bind_eq_ok.mp h
    split at h
    · cases h
    · split at h
      · cases h
        rfl
      · cases h
  | unimplemented node =>
    cases h
    rfl

theorem declaredType_eq_ok {name path : String} {declared : List Declared} {single : Declared}
    (h : declaredType name path declared = .ok single) : declared = [single] := by
  unfold declaredType at h
  split at h
  · cases h
  · cases h
    rfl
  · cases h

mutual

/-- Reading an aggregation keeps its name and the form of its result. -/
theorem shape_aggregation {parent name : String} {a : Aggregation} :
    (spec : AggregationSpec) → aggregation parent name spec = .ok a →
    a.name = name ∧ a.shape = spec.shape
  | .node declared children => by
    intro h
    rw [aggregation] at h
    split_ifs at h
    obtain ⟨single, hsingle, h⟩ := Outcome.bind_eq_ok.mp h
    obtain ⟨kind, hkind, h⟩ := Outcome.bind_eq_ok.mp h
    split_ifs at h
    obtain ⟨below, hbelow, h⟩ := Outcome.bind_eq_ok.mp h
    cases h
    refine ⟨rfl, ?_⟩
    rw [declaredType_eq_ok hsingle, Aggregation.shape, AggregationSpec.shape,
      shapes_aggregations children hbelow, shape_aggregationKind hkind]

/-- Reading aggregations keeps their names, their order and the forms of their results. -/
theorem shapes_aggregations {parent : String} {as : List Aggregation} :
    (specs : List (String × AggregationSpec)) → aggregations parent specs = .ok as →
    Aggregation.shapes as = shapes specs
  | [] => by
    intro h
    cases h
    rfl
  | (name, spec) :: specs => by
    intro h
    obtain ⟨a, ha, h⟩ := Outcome.bind_eq_ok.mp h
    obtain ⟨rest, hrest, h⟩ := Outcome.bind_eq_ok.mp h
    cases h
    obtain ⟨hname, hshape⟩ := shape_aggregation spec ha
    rw [Aggregation.shapes, shapes, hname, hshape, shapes_aggregations specs hrest]

end

end Request

namespace Aggregation

mutual

/-- Planning an aggregation keeps its name and the form of its result. -/
theorem shape_plan {p : AggregationPlan} : (a : Aggregation) → plan a = .ok p →
    p.name = a.name ∧ p.shape = a.shape
  | .node name kind children => by
    intro h
    obtain ⟨below, hbelow, h⟩ := Outcome.bind_eq_ok.mp h
    rcases planOf_eq_ok h with ⟨hbucket, b, hname, rfl⟩ | ⟨field, function, missing, rfl, _, rfl⟩
    · refine ⟨hname, ?_⟩
      rw [AggregationPlan.shape, shape, shapes_plans children hbelow]
      cases kind with
      | dateHistogram => rfl
      | histogram => rfl
      | terms => rfl
      | metric => cases hbucket
      | unimplemented => cases hbucket
    · exact ⟨rfl, rfl⟩

/-- Planning aggregations keeps their names, their order and the forms of their results. -/
theorem shapes_plans {ps : List AggregationPlan} : (as : List Aggregation) →
    plans as = .ok ps → AggregationPlan.shapes ps = shapes as
  | [] => by
    intro h
    cases h
    rfl
  | a :: as => by
    intro h
    obtain ⟨p, hp, h⟩ := Outcome.bind_eq_ok.mp h
    obtain ⟨rest, hrest, h⟩ := Outcome.bind_eq_ok.mp h
    cases h
    obtain ⟨hname, hshape⟩ := shape_plan a hp
    rw [AggregationPlan.shapes, shapes, hname, hshape, shapes_plans as hrest]

end

end Aggregation

/-! ## Different names -/

/-- Whether the sub-aggregations of each aggregation have different names. -/
inductive Shape.NamesDistinct : Shape → Prop
  | buckets {children : List (String × Shape)} (names : (children.map Prod.fst).Nodup)
      (below : ∀ c ∈ children, NamesDistinct c.2) : NamesDistinct (.buckets children)
  | stats : NamesDistinct .stats
  | percentiles (percents : List Binary64) : NamesDistinct (.percentiles percents)
  | single : NamesDistinct .single
  | unanswered : NamesDistinct .unanswered

theorem MetricFunction.namesDistinct (function : MetricFunction) :
    function.shape.NamesDistinct := by
  cases function with
  | stats => exact .stats
  | percentiles percents => exact .percentiles percents
  | _ => exact .single

namespace Request

theorem map_fst_shapes (specs : List (String × AggregationSpec)) :
    (shapes specs).map Prod.fst = specs.map Prod.fst := by
  induction specs with
  | nil => rfl
  | cons spec specs ih => rw [shapes, List.map_cons, List.map_cons, ih]

theorem exists_of_mem_shapes {specs : List (String × AggregationSpec)} {c : String × Shape}
    (h : c ∈ shapes specs) : ∃ spec ∈ specs, c = (spec.1, spec.2.shape) := by
  induction specs with
  | nil => cases h
  | cons spec specs ih =>
    rw [shapes] at h
    rcases List.mem_cons.mp h with rfl | h
    · exact ⟨spec, by simp, rfl⟩
    · obtain ⟨other, hmem, hother⟩ := ih h
      exact ⟨other, List.mem_cons_of_mem _ hmem, hother⟩

/-- The forms of aggregations whose names differ, at their level and below. -/
def DistinctShapes (children : List (String × Shape)) : Prop :=
  (children.map Prod.fst).Nodup ∧ ∀ c ∈ children, c.2.NamesDistinct

theorem Declared.namesDistinct (declared : Declared) {children : List (String × Shape)}
    (h : DistinctShapes children) : (declared.shape children).NamesDistinct := by
  cases declared with
  | metric name function field missing => exact function.namesDistinct
  | percentiles field percents => exact .percentiles _
  | terms field size order minDocCount missing =>
    rw [Declared.shape]
    split_ifs
    · exact .unanswered
    · exact .buckets h.1 h.2
  | histogram field interval minDocCount => exact .buckets h.1 h.2
  | dateHistogram field interval fixedInterval calendarInterval minDocCount =>
    exact .buckets h.1 h.2
  | unimplemented node => exact .unanswered

/-- Percentiles have a type of their own, and no metric of another type computes them. -/
def Declared.IsPlain : Declared → Prop
  | .metric _ function _ _ => ∀ percents, function ≠ .percentiles percents
  | _ => True

/-- Whether what has been read, if anything, is plain. -/
def ReadPlain (read : Option Declared) : Prop := ∀ d, read = some d → d.IsPlain

theorem ReadPlain.bind {α : Type} {x : Option α} {f : α → Option Declared}
    (h : ∀ a, ReadPlain (f a)) : ReadPlain (x.bind f) := by
  intro d hd
  obtain ⟨a, _, hd⟩ := Option.bind_eq_some_iff.mp hd
  exact h a d hd

theorem ReadPlain.some {d : Declared} (h : d.IsPlain) : ReadPlain (Option.some d) := by
  intro e he
  cases he
  exact h

theorem ReadPlain.none : ReadPlain Option.none := fun _ h => by cases h

theorem readPlain_metricParams? {function : MetricFunction}
    (hfunction : ∀ percents, function ≠ .percentiles percents) (name : String) (json : Json) :
    ReadPlain (metricParams? name function json) := by
  refine .bind fun slots => ?_
  split
  · exact .bind fun _ => .bind fun _ => .some hfunction
  · exact .none

theorem readPlain_percentilesParams? (json : Json) : ReadPlain (percentilesParams? json) := by
  refine .bind fun slots => ?_
  split
  · exact .bind fun _ => .bind fun _ => .some trivial
  · exact .none

theorem readPlain_termsParams? (json : Json) : ReadPlain (termsParams? json) := by
  refine .bind fun slots => ?_
  split
  · exact .bind fun _ => .bind fun _ => .bind fun _ => .bind fun _ => .bind fun _ => .some trivial
  · exact .none

theorem readPlain_histogramParams? (json : Json) : ReadPlain (histogramParams? json) := by
  refine .bind fun slots => ?_
  split
  · exact .bind fun _ => .bind fun _ => .bind fun _ => .some trivial
  · exact .none

theorem readPlain_dateHistogramParams? (json : Json) :
    ReadPlain (dateHistogramParams? json) := by
  refine .bind fun slots => ?_
  split
  · exact .bind fun _ => .bind fun _ => .bind fun _ => .bind fun _ => .bind fun _ =>
      .bind fun _ => .bind fun _ => .some trivial
  · exact .none

theorem readPlain_declarations {entry : String × (Json → Option Declared)}
    (h : entry ∈ declarations) (json : Json) : ReadPlain (entry.2 json) := by
  simp only [declarations, List.mem_cons, List.not_mem_nil, or_false] at h
  rcases h with rfl | rfl | rfl | rfl | rfl | rfl | rfl | rfl | rfl | rfl | rfl | h
  -- the metrics come first, then percentiles and the kinds of buckets
  iterate 7 exact readPlain_metricParams? (fun _ heq => by cases heq) _ json
  · exact readPlain_percentilesParams? json
  · exact readPlain_termsParams? json
  · exact readPlain_histogramParams? json
  · exact readPlain_dateHistogramParams? json
  · rcases h with rfl | rfl | rfl | rfl | rfl | rfl <;> exact .some trivial

/-- The types that an aggregation declares are plain. -/
theorem isPlain_of_declared? {slots : List (Option Json)} {declared : List Declared}
    (h : declared? slots = some declared) : ∀ d ∈ declared, d.IsPlain := by
  obtain ⟨read, hread, rfl⟩ := Option.map_eq_some_iff.mp h
  intro d hd
  obtain ⟨slot, hslot, rfl⟩ := List.mem_filterMap.mp hd
  obtain ⟨entry, hentry, hslot⟩ := exists_of_mem_mapM hread hslot
  rcases Json.optional?_eq_some hslot with hnone | ⟨value, hvalue⟩
  · cases hnone
  · exact readPlain_declarations (List.of_mem_zip hentry).1 value d hvalue

/-- What reading says of an aggregation at every depth: the types that it declares are plain, and
its sub-aggregations have different names. -/
inductive AggregationSpec.Regular : AggregationSpec → Prop
  | node {declared : List Declared} {children : List (String × AggregationSpec)}
      (plain : ∀ d ∈ declared, d.IsPlain) (names : (children.map Prod.fst).Nodup)
      (below : ∀ c ∈ children, Regular c.2) : Regular (.node declared children)

/-- Regular aggregations with different names. -/
structure RegularTable (specs : List (String × AggregationSpec)) : Prop where
  names : (specs.map Prod.fst).Nodup
  regular : ∀ spec ∈ specs, spec.2.Regular

theorem regularTable_of_table? {read : Json → Option AggregationSpec} {json : Json}
    {specs : List (String × AggregationSpec)} (h : Json.table? read json = some specs)
    (hread : ∀ json spec, read json = some spec → spec.Regular) : RegularTable specs := by
  refine ⟨Json.nodup_of_table? h, fun spec hspec => ?_⟩
  obtain ⟨value, hvalue⟩ := Json.exists_of_mem_table? h hspec
  exact hread value spec.2 hvalue

/-- Aggregations that are left out are none. -/
theorem regularTable_of_optional? {read : Json → Option (List (String × AggregationSpec))}
    {field : Option Json} {specs : Option (List (String × AggregationSpec))}
    (h : Json.optional? read field = some specs)
    (hread : ∀ json specs, read json = some specs → RegularTable specs) :
    RegularTable (specs.getD []) := by
  cases specs with
  | none => exact ⟨List.nodup_nil, by simp⟩
  | some specs =>
    rcases Json.optional?_eq_some h with hnone | ⟨json, hjson⟩
    · cases hnone
    · exact hread json specs hjson

/-- Aggregations are read from tables, at every depth. -/
theorem regular_aggregationWithin? {depth : Nat} {json : Json} {spec : AggregationSpec}
    (h : aggregationWithin? depth json = some spec) : spec.Regular := by
  induction depth generalizing json spec with
  | zero => cases h
  | succ depth ih =>
    obtain ⟨slots, _, h⟩ := Option.bind_eq_some_iff.mp h
    obtain ⟨declared, hdeclared, h⟩ := Option.bind_eq_some_iff.mp h
    obtain ⟨children, hchildren, h⟩ := Option.bind_eq_some_iff.mp h
    cases h
    have hbelow := regularTable_of_optional? hchildren fun _ _ htable =>
      regularTable_of_table? htable fun _ _ => ih
    exact .node (isPlain_of_declared? hdeclared) hbelow.names hbelow.regular

/-- The aggregations of a request are regular. -/
theorem regularTable_of_read? {json : Json} {document : Document}
    (h : Document.read? json = some document) : RegularTable document.aggregations := by
  obtain ⟨slots, _, h⟩ := Option.bind_eq_some_iff.mp h
  split at h
  · obtain ⟨_, _, h⟩ := Option.bind_eq_some_iff.mp h
    obtain ⟨_, _, h⟩ := Option.bind_eq_some_iff.mp h
    obtain ⟨_, _, h⟩ := Option.bind_eq_some_iff.mp h
    obtain ⟨_, _, h⟩ := Option.bind_eq_some_iff.mp h
    obtain ⟨specs, hspecs, h⟩ := Option.bind_eq_some_iff.mp h
    obtain ⟨_, _, h⟩ := Option.bind_eq_some_iff.mp h
    obtain ⟨_, _, h⟩ := Option.bind_eq_some_iff.mp h
    cases h
    exact regularTable_of_optional? hspecs fun _ _ htable =>
      regularTable_of_table? htable fun _ _ => regular_aggregationWithin?
  · cases h

theorem distinctShapes {specs : List (String × AggregationSpec)}
    (names : (specs.map Prod.fst).Nodup) (below : ∀ spec ∈ specs, spec.2.shape.NamesDistinct) :
    DistinctShapes (shapes specs) := by
  refine ⟨by rwa [map_fst_shapes], fun c hc => ?_⟩
  obtain ⟨spec, hspec, rfl⟩ := exists_of_mem_shapes hc
  exact below spec hspec

theorem AggregationSpec.Regular.namesDistinct {spec : AggregationSpec} (h : spec.Regular) :
    spec.shape.NamesDistinct := by
  induction h with
  | @node declared children _ names _ ih =>
    have hbelow := distinctShapes names ih
    rcases declared with _ | ⟨first, _ | ⟨second, more⟩⟩
    · exact .unanswered
    · exact first.namesDistinct hbelow
    · exact .unanswered

/-- The aggregations of a request have different names, and so have those below them. -/
theorem distinctShapes_of_read? {json : Json} {document : Document}
    (h : Document.read? json = some document) : DistinctShapes (shapes document.aggregations) := by
  obtain ⟨names, regular⟩ := regularTable_of_read? h
  exact distinctShapes names fun spec hspec => (regular spec hspec).namesDistinct

end Request

/-! ## Plans that are well named -/

/-- Whether the names of a plan leave no doubt about its results: the aggregations below each
bucket have different names, none has the name of the count of documents, and the columns of each
metric have different names. -/
inductive AggregationPlan.WellNamed : AggregationPlan → Prop
  | metric {plan : MetricPlan} (field : String)
      (columns : plan.columns = Aggregation.metricColumns plan.name field plan.function)
      (distinct : (plan.columns.map MetricColumn.column).Nodup)
      (own : plan.name ≠ Aggregation.docCountColumn) : WellNamed (.metric plan)
  | bucket {plan : BucketPlan} {children : List AggregationPlan}
      (own : plan.name ≠ Aggregation.docCountColumn)
      (names : (children.map AggregationPlan.name).Nodup)
      (below : ∀ c ∈ children, WellNamed c) : WellNamed (.bucket plan children)

theorem AggregationPlan.WellNamed.name_ne {plan : AggregationPlan} (h : plan.WellNamed) :
    plan.name ≠ Aggregation.docCountColumn := by
  cases h with
  | metric field columns distinct own => exact own
  | bucket own names below => exact own

namespace Aggregation

/-- No metric has the name of the count of documents. -/
theorem metricName_ne {name field : String} {function : MetricFunction} {missing : Option Json}
    {children : List AggregationPlan} {p : AggregationPlan}
    (h : planOf name (.metric field function missing) children = .ok p) :
    name ≠ docCountColumn := by
  unfold planOf at h
  split_ifs at h
  obtain ⟨m, hm, _⟩ := Outcome.bind_eq_ok.mp h
  unfold metricPlan at hm
  split_ifs at hm with _ hname
  exact hname

theorem columnsOf_metrics_cons (p : AggregationPlan) (ps : List AggregationPlan) :
    Batch.columnsOf (AggregationPlan.metrics (p :: ps)) =
      Batch.columnsOf (AggregationPlan.metrics [p]) ++
        Batch.columnsOf (AggregationPlan.metrics ps) := by
  rw [← List.singleton_append, AggregationPlan.metrics, List.filterMap_append, Batch.columnsOf,
    List.flatMap_append]
  rfl

mutual

/-- A plan is well named where its nodes and its metric have columns of different names. -/
theorem wellNamed_of_plan {number : Nat} {parent : Option Nat} {ancestors : List BucketPlan}
    {p : AggregationPlan} : (a : Aggregation) → plan a = .ok p → p.shape.NamesDistinct →
    (∀ node ∈ p.nodes number parent ancestors, node.columns.Nodup) →
    ((Batch.columnsOf (AggregationPlan.metrics [p])).map MetricColumn.column).Nodup →
    p.WellNamed
  | .node name kind children => by
    intro h hshape hnodes hcolumns
    obtain ⟨below, hbelow, h⟩ := Outcome.bind_eq_ok.mp h
    rcases planOf_eq_ok h with ⟨hbucket, b, hname, rfl⟩ | ⟨field, function, missing, rfl, _, rfl⟩
    · -- the node itself comes first, then those below it
      rw [AggregationPlan.nodes] at hnodes
      rw [AggregationPlan.shape] at hshape
      have hown := hnodes _ List.mem_cons_self
      cases hshape with
      | buckets names shapes =>
        rw [AggregationPlan.map_fst_shapes] at names
        rw [BucketNode.columns, List.nodup_append] at hown
        refine .bucket ?_ names ?_
        · -- the key column would be there beside the count of documents
          intro hcount
          have hdistinct := (List.nodup_append.mp hown.1).2.2
          refine hdistinct b.name ?_ _ List.mem_cons_self hcount
          simp [BucketNode.keyColumns]
        · refine wellNamed_of_plans children hbelow (fun c hc => ?_)
            (fun node hnode => hnodes node (List.mem_cons_of_mem _ hnode)) hown.2.1
          exact shapes _ (AggregationPlan.mem_shapes hc)
    · refine .metric field rfl ?_ (metricName_ne h)
      simpa [AggregationPlan.metrics, Batch.columnsOf] using hcolumns

/-- Plans are well named where their nodes and their metrics have columns of different names. -/
theorem wellNamed_of_plans {number : Nat} {parent : Option Nat} {ancestors : List BucketPlan}
    {ps : List AggregationPlan} : (as : List Aggregation) → plans as = .ok ps →
    (∀ p ∈ ps, p.shape.NamesDistinct) →
    (∀ node ∈ AggregationPlan.nodesOfAll number parent ancestors ps, node.columns.Nodup) →
    ((Batch.columnsOf (AggregationPlan.metrics ps)).map MetricColumn.column).Nodup →
    ∀ p ∈ ps, p.WellNamed
  | [] => by
    intro h _ _ _ p hp
    cases h
    cases hp
  | a :: as => by
    intro h hshapes hnodes hcolumns q hq
    obtain ⟨p, hp, h⟩ := Outcome.bind_eq_ok.mp h
    obtain ⟨rest, hrest, h⟩ := Outcome.bind_eq_ok.mp h
    cases h
    rw [AggregationPlan.nodesOfAll] at hnodes
    rw [columnsOf_metrics_cons, List.map_append, List.nodup_append] at hcolumns
    rcases List.mem_cons.mp hq with rfl | hq
    · exact wellNamed_of_plan a hp (hshapes _ List.mem_cons_self)
        (fun node hnode => hnodes node (List.mem_append_left _ hnode)) hcolumns.1
    · exact wellNamed_of_plans as hrest (fun p hp => hshapes p (List.mem_cons_of_mem _ hp))
        (fun node hnode => hnodes node (List.mem_append_right _ hnode)) hcolumns.2.1 q hq

end

end Aggregation

/-! ## The request behind a plan -/

/-- What reading a request says about the plans of its statement. -/
structure Plan.Answers (plan : Plan) (document : Request.Document) : Prop where
  shapes : AggregationPlan.shapes plan.aggregations = Request.shapes document.aggregations
  distinct : (plan.aggregations.map AggregationPlan.name).Nodup
  wellNamed : ∀ p ∈ plan.aggregations, p.WellNamed

/-- The parts of a search that has been read. -/
theorem Search.parts_of_read {index : String} {body : Json} {search : Search}
    (h : Search.read index body = .ok search) :
    ∃ document, Request.Document.read? body = some document ∧
      (search.query = .matchAll ∨ ∃ clause, Request.query clause = .ok search.query) ∧
      Request.aggregations "aggs" document.aggregations = .ok search.aggregations ∧
      Request.hits document = .ok search.hits := by
  unfold Search.read at h
  split_ifs at h
  split at h
  · cases h
  · rename_i document hdocument
    refine ⟨document, hdocument, ?_⟩
    split at h
    · obtain ⟨query, hquery, h⟩ := Outcome.bind_eq_ok.mp h
      obtain ⟨aggregations, haggregations, h⟩ := Outcome.bind_eq_ok.mp h
      obtain ⟨hits, hhits, h⟩ := Outcome.bind_eq_ok.mp h
      cases h
      exact ⟨Or.inr ⟨_, hquery⟩, haggregations, hhits⟩
    · obtain ⟨query, hquery, h⟩ := Outcome.bind_eq_ok.mp h
      obtain ⟨aggregations, haggregations, h⟩ := Outcome.bind_eq_ok.mp h
      obtain ⟨hits, hhits, h⟩ := Outcome.bind_eq_ok.mp h
      cases hquery
      cases h
      exact ⟨Or.inl rfl, haggregations, hhits⟩

/-- The plan of an accepted request answers it. -/
theorem Search.answers_of_batch {index database : String} {body : Json} {search : Search}
    {plan : Plan} {batch : Batch} (hread : Search.read index body = .ok search)
    (hplan : search.plan = .ok plan) (hbatch : plan.batch database = .ok batch) :
    ∃ document, Request.Document.read? body = some document ∧ plan.Answers document := by
  obtain ⟨document, hdocument, _, haggregations, _⟩ := parts_of_read hread
  have hplans := plans_of_plan hplan
  have hshapes : AggregationPlan.shapes plan.aggregations =
      Request.shapes document.aggregations := by
    rw [Aggregation.shapes_plans _ hplans, Request.shapes_aggregations _ haggregations]
  have hdistinct := Request.distinctShapes_of_read? hdocument
  rw [← hshapes] at hdistinct
  have hlaid := plan.laidOut_of_batch hbatch
  refine ⟨document, hdocument, hshapes, ?_, ?_⟩
  · rw [← AggregationPlan.map_fst_shapes]
    exact hdistinct.1
  · refine Aggregation.wellNamed_of_plans _ hplans (fun p hp => ?_) hlaid.distinct
      hlaid.metricsDistinct
    exact hdistinct.2 _ (AggregationPlan.mem_shapes hp)

end KustoSearch
