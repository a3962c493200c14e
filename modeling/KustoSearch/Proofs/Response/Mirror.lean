import KustoSearch.Proofs.Plan.Shape
import KustoSearch.Proofs.Response.Agreement
import KustoSearch.Proofs.Response.Invariant

/-! # Results in the form of the request

The results of a response have the names, the order, the nesting and the kinds that the request
declares, in delivered buckets and in those that fill gaps alike. Main result:
`Search.response_mirrors_request`.
-/

namespace KustoSearch

mutual

/-- Whether a result has a form: buckets carry the results of all sub-aggregations, and percentiles
have one value for each percent, in order. -/
def HasShape : Shape → AggregationResult → Prop
  | .buckets children, .buckets items => ∀ item ∈ items, HasShapes children item.2
  | .stats, .stats .. => True
  | .percentiles percents, .percentiles values =>
    values.map Prod.fst = percents.map Decimal.descriptiveText
  | .single, .single .. => True
  | _, _ => False

/-- Whether results have some names in order, each with a form. -/
def HasShapes : List (String × Shape) → List (String × AggregationResult) → Prop
  | [], [] => True
  | (name, shape) :: shapes, (given, result) :: results =>
    given = name ∧ HasShape shape result ∧ HasShapes shapes results
  | _, _ => False

end

theorem map_fst_of_hasShapes {shapes : List (String × Shape)}
    {results : List (String × AggregationResult)} (h : HasShapes shapes results) :
    results.map Prod.fst = shapes.map Prod.fst := by
  induction shapes generalizing results with
  | nil =>
    cases results with
    | nil => rfl
    | cons result results => exact absurd h (by simp [HasShapes])
  | cons shape shapes ih =>
    cases results with
    | nil => exact absurd h (by simp [HasShapes])
    | cons result results =>
      obtain ⟨hname, _, hrest⟩ := h
      rw [List.map_cons, List.map_cons, ih hrest, hname]

namespace Mapper

/-! ## Metrics -/

/-- The cells of columns have the roles of the columns. -/
theorem roles_of_cells {table : Table} {row : Row} {columns : List MetricColumn}
    {cells : List (MetricRole × Cell.Metric)}
    (h : List.Forall₂ (fun c cell => metricCell table row c = .ok cell) columns cells) :
    cells.map Prod.fst = columns.map MetricColumn.role := by
  induction h with
  | nil => rfl
  | cons hcell _ ih =>
    obtain ⟨i, _, hcell⟩ := Outcome.bind_eq_ok.mp hcell
    obtain ⟨value, _, hcell⟩ := Outcome.bind_eq_ok.mp hcell
    split at hcell
    · obtain ⟨m, _, hcell⟩ := Outcome.bind_eq_ok.mp hcell
      cases hcell
      rw [List.map_cons, List.map_cons, ih]
    · cases hcell

/-- The member for the cell of a percentile. -/
def percentileMember (c : MetricRole × Cell.Metric) : Option (String × Json) :=
  match c.1 with
  | .percentile p => some (Decimal.descriptiveText p, c.2.value)
  | _ => none

theorem map_fst_percentiles {percents : List Binary64}
    {cells : List (MetricRole × Cell.Metric)}
    (hroles : cells.map Prod.fst = percents.map MetricRole.percentile) :
    (cells.filterMap percentileMember).map Prod.fst = percents.map Decimal.descriptiveText := by
  induction percents generalizing cells with
  | nil =>
    rw [List.map_nil, List.map_eq_nil_iff] at hroles
    rw [hroles]
    rfl
  | cons p percents ih =>
    cases cells with
    | nil => cases hroles
    | cons c cells =>
      rw [List.map_cons, List.map_cons, List.cons.injEq] at hroles
      have hmember : percentileMember c = some (Decimal.descriptiveText p, c.2.value) := by
        rw [percentileMember, hroles.1]
      rw [List.filterMap_cons_some hmember, List.map_cons, List.map_cons, ih hroles.2]

/-- The result of a metric whose columns have different names. -/
theorem hasShape_metricFromCells {plan : MetricPlan} {field : String}
    {cells : List (MetricRole × Cell.Metric)}
    (hcolumns : plan.columns = Aggregation.metricColumns plan.name field plan.function)
    (hdistinct : (plan.columns.map MetricColumn.column).Nodup)
    (hroles : cells.map Prod.fst = plan.columns.map MetricColumn.role) :
    HasShape plan.function.shape (metricFromCells plan.function cells) := by
  cases hfunction : plan.function with
  | stats =>
    unfold metricFromCells
    dsimp only
    split_ifs <;> simp [MetricFunction.shape, HasShape]
  | percentiles percents =>
    rw [hfunction] at hcolumns
    rw [hcolumns] at hdistinct hroles
    simp only [Aggregation.metricColumns, List.map_map] at hdistinct hroles
    have hnames := map_fst_percentiles hroles
    -- the names of the columns end in the names of the values
    have htexts : (percents.map Decimal.descriptiveText).Nodup := by
      refine List.Nodup.of_map (plan.name ++ "." ++ ·) ?_
      rw [List.map_map]
      exact hdistinct
    rw [← hnames] at htexts
    show (membersOf (cells.filterMap percentileMember)).map Prod.fst = _
    rw [membersOf_eq_self htexts, hnames]
  | avg => simp [MetricFunction.shape, metricFromCells, HasShape]
  | sum => simp [MetricFunction.shape, metricFromCells, HasShape]
  | min => simp [MetricFunction.shape, metricFromCells, HasShape]
  | max => simp [MetricFunction.shape, metricFromCells, HasShape]
  | cardinality => simp [MetricFunction.shape, metricFromCells, HasShape]
  | valueCount => simp [MetricFunction.shape, metricFromCells, HasShape]

/-! ## Buckets -/

/-- The property that the results of well-named plans have. -/
def Mirrors (plan : AggregationPlan) (given : AggregationResult) : Prop :=
  plan.WellNamed → HasShape plan.shape given

/-- Results of plans with different names are members as they are. -/
theorem hasShapes_membersOf {plans : List AggregationPlan}
    {results : List (String × AggregationResult)} (hgiven : GivenBy Mirrors plans results)
    (hnames : (plans.map AggregationPlan.name).Nodup) (hplans : ∀ p ∈ plans, p.WellNamed) :
    HasShapes (AggregationPlan.shapes plans) (membersOf results) := by
  have hshapes : HasShapes (AggregationPlan.shapes plans) results := by
    clear hnames
    induction hgiven with
    | nil => trivial
    | cons hfirst _ ih =>
      obtain ⟨hname, hmirrors⟩ := hfirst
      rw [AggregationPlan.shapes]
      refine ⟨hname, hmirrors (hplans _ List.mem_cons_self), ?_⟩
      exact ih fun p hp => hplans p (List.mem_cons_of_mem _ hp)
  rw [membersOf_eq_self]
  · exact hshapes
  · rw [map_fst_of_hasShapes hshapes, AggregationPlan.map_fst_shapes]
    exact hnames

/-- Every result mirrors its plan. -/
theorem mirrors_invariant (result : Result) :
    ResultInvariant result (fun _ => True) Mirrors where
  metric := by
    intro plan table row given hgiven hnamed
    obtain ⟨cells, hcells, hgiven⟩ := Outcome.bind_eq_ok.mp hgiven
    cases hgiven
    have hroles := roles_of_cells (Outcome.mapM_eq_ok.mp hcells)
    cases hnamed with
    | metric field columns distinct own => exact hasShape_metricFromCells columns distinct hroles
  emptyMetric := by
    intro plan hnamed
    cases hnamed with
    | metric field columns distinct own =>
      refine hasShape_metricFromCells columns distinct ?_
      rw [List.map_map]
      rfl
  head := fun _ _ => trivial
  gap := fun _ _ _ => trivial
  buckets := by
    intro plan children items hitems hnamed
    cases hnamed with
    | bucket own names below =>
      rw [AggregationPlan.shape]
      intro item hitem
      obtain ⟨_, results, hgiven, heq⟩ := hitems item hitem
      rw [heq]
      exact hasShapes_membersOf hgiven names below

end Mapper

/-- The response to an accepted request mirrors its tree of aggregations: there are results exactly
where the request declares aggregations, and they have the names, the order, the nesting and the
kinds that it declares. -/
theorem Search.response_mirrors_request {index database : String} {body : Json} {search : Search}
    {plan : Plan} {batch : Batch} {result : Result} {took : Nat} {ids : Nat → String}
    {response : Response} (hread : Search.read index body = .ok search)
    (hplan : search.plan = .ok plan) (hbatch : plan.batch database = .ok batch)
    (hresponse : plan.response batch.layout result took ids = .ok response) :
    ∃ document, Request.Document.read? body = some document ∧
      (response.aggregations = none ↔ document.aggregations = []) ∧
      ∀ results, response.aggregations = some results →
        HasShapes (Request.shapes document.aggregations) results := by
  obtain ⟨document, hdocument, hanswers⟩ := Search.answers_of_batch hread hplan hbatch
  have hempty : plan.aggregations = [] ↔ document.aggregations = [] := by
    have hlengths := congrArg (fun shapes => (shapes.map Prod.fst).length) hanswers.shapes
    simp only [AggregationPlan.map_fst_shapes, Request.map_fst_shapes, List.length_map] at hlengths
    rw [← List.length_eq_zero_iff, hlengths, List.length_eq_zero_iff]
  refine ⟨document, hdocument, ?_⟩
  rcases (Mapper.mirrors_invariant result).response hresponse with
    ⟨hnone, haggregations⟩ | ⟨hsome, given, hgiven, haggregations⟩
  · rw [haggregations]
    refine ⟨⟨fun _ => hempty.mp hnone, fun _ => rfl⟩, fun results h => ?_⟩
    cases h
  · rw [haggregations]
    refine ⟨?_, fun results h => ?_⟩
    · constructor
      · intro h
        cases h
      · intro h
        exact absurd (hempty.mpr h) hsome
    · cases h
      rw [← hanswers.shapes]
      exact Mapper.hasShapes_membersOf hgiven hanswers.distinct hanswers.wellNamed

/-- Each host has its users below it, under the name that the request gives them. -/
theorem Search.response_mirrors_request_hosts :
    ∃ batch, Search.read "logs" hostsBody = .ok hostsSearch ∧ hostsSearch.plan = .ok hostsPlan ∧
      hostsPlan.batch "db" = .ok batch ∧
      hostsPlan.response batch.layout (hostsResult "a") 0 (fun _ => "") = .ok hostsResponse ∧
      ∃ document, Request.Document.read? hostsBody = some document ∧
        (hostsResponse.aggregations = none ↔ document.aggregations = []) ∧
        ∀ results, hostsResponse.aggregations = some results →
          HasShapes (Request.shapes document.aggregations) results := by
  obtain ⟨batch, hbatch, hlayout⟩ := exists_batch_hosts
  have hresponse : hostsPlan.response batch.layout (hostsResult "a") 0 (fun _ => "") =
      .ok hostsResponse := by
    rw [hlayout]
    rfl
  exact ⟨batch, read_hosts, rfl, hbatch, hresponse,
    response_mirrors_request read_hosts rfl hbatch hresponse⟩

end KustoSearch
