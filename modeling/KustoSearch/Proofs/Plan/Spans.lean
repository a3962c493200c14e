import KustoSearch.Proofs.Plan.Mentions

/-! # The timespans of a statement

The engine holds timespans of up to 63 bits of its ticks. Date math is refused where it shifts by
more than that, so that the timespans of a condition fit. The interval of a date histogram is
written as it is, however long it is. Main result: a statement has a timespan that does not fit if
and only if the search has a date histogram with such an interval (`Search.statement_spans`).
-/

namespace KustoSearch

/-- The longest timespan that the engine holds, in whole milliseconds: it counts ticks, of which
there are ten thousand in a millisecond, in 63 bits. -/
def Kql.spanCapacity : Nat := (2 ^ 63 - 1) / 10000

open Kql (DateUnit Literal Moment Predicate Span spanCapacity spansIn)

/-! ## Date math -/

/-- Whether all timespans of a point in time fit. -/
def Kql.Moment.Fits (m : Moment) : Prop := ∀ n ∈ m.spans, n ≤ spanCapacity

namespace DateMath

theorem natAbs_millis (count : Nat) (unit : Kql.SpanUnit) :
    (⟨count, unit⟩ : Span).millis.natAbs = count * unit.millis := by
  rw [Span.millis, Int.natAbs_mul, Int.natAbs_natCast, Int.natAbs_natCast]

/-- A number of units that is let through makes a span that fits. -/
theorem span?_fits {count : Nat} {unit : DateUnit} {span : Span} (h : span? count unit = some span)
    (hcount : count ≤ maxCount unit) : span.millis.natAbs ≤ spanCapacity := by
  have hspan (n : Nat) (u : Kql.SpanUnit) (hn : n * u.millis ≤ spanCapacity) :
      (⟨n, u⟩ : Span).millis.natAbs ≤ spanCapacity := (natAbs_millis n u).trans_le hn
  unfold maxCount at hcount
  unfold Kql.SpanUnit.millis spanCapacity at hspan
  cases unit with
  | year => cases h
  | month => cases h
  | week =>
    cases h
    have hweeks := hspan (count * 7) .day (by dsimp only at hcount ⊢; omega)
    rwa [Nat.cast_mul] at hweeks
  | day =>
    cases h
    exact hspan count .day (by dsimp only at hcount ⊢; omega)
  | hour =>
    cases h
    exact hspan count .hour (by dsimp only at hcount ⊢; omega)
  | minute =>
    cases h
    exact hspan count .minute (by dsimp only at hcount ⊢; omega)
  | second =>
    cases h
    exact hspan count .second (by dsimp only at hcount ⊢; omega)

/-- Rounding goes down to a week at most. -/
theorem roundDown_fits (unit : DateUnit) {base : Moment} (h : base.Fits) :
    (roundDown unit base).Fits := by
  have hbin (count : Nat) (unit : Kql.SpanUnit) (hspan : count * unit.millis ≤ spanCapacity) :
      (Moment.bin base ⟨count, unit⟩).Fits := by
    intro n hn
    rcases List.mem_append.mp hn with hn | hn
    · exact h n hn
    · rw [List.mem_singleton.mp hn, natAbs_millis]
      exact hspan
  cases unit with
  | year => exact h
  | month => exact h
  | day => exact h
  | week => exact hbin 7 .day (by decide)
  | hour => exact hbin 1 .hour (by decide)
  | minute => exact hbin 1 .minute (by decide)
  | second => exact hbin 1 .second (by decide)

theorem Step.apply_fits (roundUp : Bool) (step : Step) {base : Moment} (h : base.Fits) :
    (step.apply roundUp base).Fits := by
  cases step with
  | shift count unit => exact h
  | round unit =>
    have hdown := roundDown_fits unit h
    cases roundUp with
    | false => exact hdown
    | true =>
      -- the last millisecond before the next unit
      intro n hn
      rcases List.mem_append.mp hn with hn | hn
      · exact hdown n hn
      · rw [List.mem_singleton.mp hn]
        decide

theorem foldl_apply_fits (roundUp : Bool) (steps : List Step) {base : Moment} (h : base.Fits) :
    (steps.foldl (Step.apply roundUp) base).Fits := by
  induction steps generalizing base with
  | nil => exact h
  | cons step steps ih => exact ih (step.apply_fits roundUp h)

/-- What is read shifts by no more than a limit for each unit. -/
theorem natAbs_le_of_read {s : String} {d : DateMath} (h : read s = .ok (some d)) {count : Int}
    {unit : DateUnit} (hstep : .shift count unit ∈ d.steps) : count.natAbs ≤ maxCount unit := by
  unfold read at h
  dsimp only at h
  split at h
  · cases h
  · cases h
  · split at h
    · cases h
    · split at h
      · cases h
      · next hlarge =>
        cases h
        have hnone := List.findSome?_eq_none_iff.mp hlarge _ hstep
        by_contra hmore
        simp [Nat.not_le.mp hmore] at hnone

/-- Date math that is read has timespans that fit. -/
theorem moment_fits {s : String} {d : DateMath} (h : read s = .ok (some d)) (roundUp : Bool) :
    (d.moment roundUp).Fits := by
  have hfold : (d.steps.foldl (Step.apply roundUp) d.anchor.moment).Fits := by
    refine foldl_apply_fits roundUp d.steps ?_
    cases d.anchor <;> exact List.forall_mem_nil _
  unfold moment
  cases hshort : d.short? with
  | none => exact hfold
  | some m =>
    -- the short form is a single shift from now
    unfold short? at hshort
    split at hshort
    · next count unit _ hsteps =>
      have hcount := natAbs_le_of_read h (hsteps ▸ List.mem_singleton_self _)
      have hspan {span : Span} (hspan? : span? count.natAbs unit = some span) :
          ∀ n ∈ [span.millis.natAbs], n ≤ spanCapacity :=
        List.forall_mem_singleton.mpr (span?_fits hspan? hcount)
      split_ifs at hshort
      · obtain ⟨span, hspan?, rfl⟩ := Option.map_eq_some_iff.mp hshort
        exact hspan hspan?
      · obtain ⟨span, hspan?, rfl⟩ := Option.map_eq_some_iff.mp hshort
        exact hspan hspan?
    · cases hshort

end DateMath

/-! ## Conditions -/

/-- Whether all timespans of a condition fit. -/
def Kql.Predicate.Fits (p : Predicate) : Prop := ∀ n ∈ p.spans, n ≤ spanCapacity

namespace Query

theorem fits_of_spans {p : Predicate} (h : p.spans = []) : p.Fits := by
  intro n hn
  rw [h] at hn
  cases hn

theorem fits_join (connective : Kql.Connective) {parts : List Predicate}
    (h : ∀ part ∈ parts, part.Fits) : (Predicate.join connective parts).Fits := by
  intro n hn
  rw [Predicate.spans, Predicate.spansOfAll_eq] at hn
  obtain ⟨part, hpart, hn⟩ := List.mem_flatMap.mp hn
  exact h part hpart n hn

theorem fits_atLeast (count : Nat) {parts : List Predicate} (h : ∀ part ∈ parts, part.Fits) :
    (Predicate.atLeast count parts).Fits := by
  intro n hn
  rw [Predicate.spans, Predicate.spansOfAll_eq] at hn
  obtain ⟨part, hpart, hn⟩ := List.mem_flatMap.mp hn
  exact h part hpart n hn

theorem fits_negation {part : Predicate} (h : part.Fits) : (Predicate.negation part).Fits := by
  intro n hn
  rw [Predicate.spans] at hn
  exact h n hn

/-- A scalar is no point in time. -/
theorem spans_of_scalar? {value : Json} {literal : Literal} {kind : ScalarKind}
    (h : scalar? value = some (literal, kind)) : literal.spans = [] := by
  cases value with
  | string s =>
    cases h
    rfl
  | number n =>
    cases h
    rfl
  | bool b =>
    cases h
    rfl
  | _ => cases h

theorem fits_term {field : String} {value : Json} {ignoreCase : Bool} {p : Predicate}
    (h : termPredicate field value ignoreCase = .ok p) : p.Fits := by
  unfold termPredicate at h
  split at h
  · cases h
  · next literal kind hscalar =>
    cases h
    exact fits_of_spans (spans_of_scalar? hscalar)

theorem fits_terms {field : String} {values : List Json} {p : Predicate}
    (h : termsPredicate field values = .ok p) : p.Fits := by
  unfold termsPredicate at h
  split_ifs at h
  · cases h
    exact fits_of_spans rfl
  · obtain ⟨literals, hliterals, h⟩ := Outcome.bind_eq_ok.mp h
    cases h
    apply fits_of_spans
    rw [Predicate.spans, List.flatMap_eq_nil_iff]
    exact Kql.forall_mem_of_forall₂ (termLiterals_eq hliterals).flip fun _ _ hscalar =>
      spans_of_scalar? hscalar.choose_spec

theorem fits_text {field : String} {query : Json} {operator : MatchOperator} {phrase : Bool}
    {p : Predicate} (h : fullTextPredicate field query operator phrase = .ok p) : p.Fits := by
  cases query with
  | string s =>
    unfold fullTextPredicate at h
    dsimp only at h
    split_ifs at h
    · cases h
      exact fits_of_spans rfl
    · cases h
      exact fits_of_spans rfl
    · cases h
      exact fits_of_spans rfl
    · cases h
      refine fits_join _ (List.forall_mem_map.mpr fun word _ => fits_of_spans rfl)
  | number n =>
    cases h
    exact fits_of_spans rfl
  | bool b =>
    cases h
    exact fits_of_spans rfl
  | _ => cases h

theorem fits_word {targets : List Kql.Target} {word : String} {p : Predicate}
    (h : wordPredicate targets word = .ok p) : p.Fits := by
  unfold wordPredicate at h
  dsimp only at h
  split_ifs at h
  cases h
  exact fits_join _ (List.forall_mem_map.mpr fun target _ => fits_of_spans rfl)

theorem fits_words {query : String} {fields : List String} {operator : MatchOperator}
    {p : Predicate} (h : wordsPredicate query fields operator = .ok p) : p.Fits := by
  unfold wordsPredicate at h
  dsimp only at h
  by_cases hall : ((Text.trimmed query).isEmpty || Text.trimmed query = "*") = true
  · rw [if_pos hall] at h
    cases h
    exact fits_of_spans rfl
  · rw [if_neg hall] at h
    by_cases hsyntax : hasQuerySyntax (Text.trimmed query) = true
    · rw [if_pos hsyntax] at h
      cases h
    · rw [if_neg hsyntax] at h
      obtain ⟨parts, hparts, h⟩ := Outcome.bind_eq_ok.mp h
      cases h
      have hwords := (Outcome.mapM_eq_ok.mp hparts).flip
      exact fits_join _ (Kql.forall_mem_of_forall₂ hwords fun _ _ hword => fits_word hword)

theorem fits_boundLiteral {field : String} {value : Json} {format : Option String}
    {roundUp : Bool} {literal : Literal}
    (h : boundLiteral field value format roundUp = .ok literal) :
    ∀ n ∈ literal.spans, n ≤ spanCapacity := by
  cases value with
  | number n =>
    unfold boundLiteral at h
    dsimp only at h
    split at h
    · cases h
      exact List.forall_mem_nil _
    · cases h
      exact List.forall_mem_nil _
  | string s =>
    unfold boundLiteral textBound at h
    dsimp only at h
    split at h
    · -- a count of time
      cases h
      exact List.forall_mem_nil _
    · split at h
      · cases h
      · next d hread =>
        cases h
        exact DateMath.moment_fits hread roundUp
      · split at h
        · -- a number
          cases h
          exact List.forall_mem_nil _
        · split at h
          · -- a date
            cases h
            exact List.forall_mem_nil _
          · cases h
  | _ => cases h

/-- The bounds of a range are the only points in time. -/
theorem fits_range {field : String} {lower upper : Option Bound} {format : Option String}
    {p : Predicate} (h : rangePredicate field lower upper format = .ok p) : p.Fits := by
  cases lower with
  | none =>
    cases upper with
    | none => cases h
    | some u =>
      obtain ⟨l, hl, rfl⟩ := exists_boundTest h
      exact fits_boundLiteral hl
  | some b =>
    cases upper with
    | none =>
      obtain ⟨l, hl, rfl⟩ := exists_boundTest h
      exact fits_boundLiteral hl
    | some u =>
      obtain ⟨below, hbelow, h⟩ := Outcome.bind_eq_ok.mp h
      obtain ⟨above, habove, h⟩ := Outcome.bind_eq_ok.mp h
      cases h
      obtain ⟨l, hl, rfl⟩ := exists_boundTest hbelow
      obtain ⟨m, hm, rfl⟩ := exists_boundTest habove
      intro n hn
      rcases List.mem_append.mp hn with hn | hn
      · exact fits_boundLiteral hl n hn
      · exact fits_boundLiteral hm n hn

theorem fits_shouldParts (required : Nat) {parts : List Predicate}
    (h : ∀ part ∈ parts, part.Fits) : ∀ part ∈ shouldParts required parts, part.Fits := by
  unfold shouldParts
  split_ifs
  · exact List.forall_mem_singleton.mpr (fits_of_spans rfl)
  · exact List.forall_mem_singleton.mpr (fits_join .any h)
  · exact List.forall_mem_nil _
  · exact List.forall_mem_singleton.mpr (fits_atLeast required h)

theorem fits_bool {must filter should mustNot : List Predicate} {minimum : Option MinimumMatch}
    {p : Predicate} (hmust : ∀ part ∈ must, part.Fits) (hfilter : ∀ part ∈ filter, part.Fits)
    (hshould : ∀ part ∈ should, part.Fits) (hmustNot : ∀ part ∈ mustNot, part.Fits)
    (h : boolPredicate must filter should mustNot minimum = .ok p) : p.Fits := by
  obtain ⟨optional, hparts, rfl⟩ := exists_optionalParts h
  have hoptional : ∀ part ∈ optional, part.Fits := by
    unfold optionalParts at hparts
    split_ifs at hparts
    · cases hparts
      exact List.forall_mem_nil _
    · obtain ⟨required, _, rfl⟩ := Outcome.map_eq_ok.mp hparts
      exact fits_shouldParts required hshould
  have hall : ∀ part ∈ besides must filter optional mustNot, part.Fits := by
    unfold besides
    rw [List.forall_mem_append, List.forall_mem_append, List.forall_mem_append,
      List.forall_mem_map]
    exact ⟨⟨⟨hmust, hfilter⟩, hoptional⟩, fun part hpart => fits_negation (hmustNot part hpart)⟩
  split_ifs
  · exact fits_of_spans rfl
  · exact fits_join .all hall

mutual

/-- The timespans of a condition fit, whatever query it is of. -/
theorem fits_predicate {p : Predicate} : (query : Query) → query.predicate = .ok p → p.Fits
  | .matchAll => by
    intro h
    cases h
    exact fits_of_spans rfl
  | .matchNone => by
    intro h
    cases h
    exact fits_of_spans rfl
  | .bool must filter should mustNot minimum => by
    intro h
    obtain ⟨musts, hmust, h⟩ := Outcome.bind_eq_ok.mp h
    obtain ⟨filters, hfilter, h⟩ := Outcome.bind_eq_ok.mp h
    obtain ⟨shoulds, hshould, h⟩ := Outcome.bind_eq_ok.mp h
    obtain ⟨mustNots, hmustNot, h⟩ := Outcome.bind_eq_ok.mp h
    exact fits_bool (fits_predicates must hmust) (fits_predicates filter hfilter)
      (fits_predicates should hshould) (fits_predicates mustNot hmustNot) h
  | .range _ _ _ _ => fits_range
  | .fullText _ _ _ _ => fits_text
  | .term _ _ _ => fits_term
  | .terms _ _ => fits_terms
  | .present _ => by
    intro h
    cases h
    exact fits_of_spans rfl
  | .startsWith _ _ => by
    intro h
    cases h
    exact fits_of_spans rfl
  | .wildcard _ _ _ => by
    intro h
    cases h
    exact fits_of_spans rfl
  | .words query fields operator => by
    intro h
    rw [predicate] at h
    exact fits_words h
  | .unimplemented _ => by
    intro h
    cases h

theorem fits_predicates {ps : List Predicate} :
    (queries : List Query) → predicates queries = .ok ps → ∀ p ∈ ps, p.Fits
  | [] => by
    intro h
    cases h
    exact List.forall_mem_nil _
  | query :: queries => by
    intro h
    obtain ⟨p, hp, h⟩ := Outcome.bind_eq_ok.mp h
    obtain ⟨rest, hrest, h⟩ := Outcome.bind_eq_ok.mp h
    cases h
    exact List.forall_mem_cons.mpr ⟨fits_predicate query hp, fits_predicates queries hrest⟩

end

end Query

/-! ## Keys -/

/-- The widths of the fixed intervals of a kind of aggregation, in milliseconds. -/
def AggregationKind.widths : AggregationKind → List Nat
  | .dateHistogram _ interval _ => interval.spans
  | .histogram .. => []
  | .terms .. => []
  | .metric .. => []
  | .unimplemented _ => []

namespace Aggregation

mutual

/-- The widths of the date histograms with fixed intervals in a tree, in milliseconds. -/
def widths : Aggregation → List Nat
  | .node _ kind children => kind.widths ++ widthsOfAll children

/-- The widths of the date histograms with fixed intervals in trees, in milliseconds. -/
def widthsOfAll : List Aggregation → List Nat
  | [] => []
  | aggregation :: aggregations => widths aggregation ++ widthsOfAll aggregations

end

end Aggregation

namespace AggregationPlan

/-- A node is grouped by the keys of its ancestors, which are nodes as well. -/
theorem exists_of_mem_ancestors {plans : List AggregationPlan} {node : BucketNode}
    (h : node ∈ nodesOfAll 0 none [] plans) {b : BucketPlan} (hb : b ∈ node.ancestors) :
    ∃ above ∈ nodesOfAll 0 none [] plans, above.plan = b := by
  induction hlength : node.ancestors.length generalizing node with
  | zero =>
    rw [List.length_eq_zero_iff.mp hlength] at hb
    cases hb
  | succ n ih =>
    rcases ancestors_of_mem_nodesOfAll 0 none [] plans node h with
      ⟨_, hnone⟩ | ⟨above, habove, _, hancestors⟩
    · rw [hnone] at hb
      cases hb
    · rw [hancestors] at hb hlength
      rw [List.length_append, List.length_singleton, Nat.add_right_cancel_iff] at hlength
      rcases List.mem_append.mp hb with hb | hb
      · exact ih habove hb hlength
      · exact ⟨above, habove, (List.mem_singleton.mp hb).symm⟩

end AggregationPlan

namespace Aggregation

/-- The key of a bucket has the width of its interval. -/
theorem spans_planOf {name : String} {kind : AggregationKind} {children : List AggregationPlan}
    {p : AggregationPlan} (h : planOf name kind children = .ok p) :
    (∃ b, p = .bucket b children ∧ b.key.spans = kind.widths) ∨
      ∃ m, p = .metric m ∧ children = [] ∧ kind.widths = [] := by
  rcases planOf_eq_ok h with ⟨_, _, _, hbucket⟩ | ⟨_, _, _, rfl, hnone, hmetric⟩
  · left
    cases kind with
    | dateHistogram field interval minDocCount =>
      cases h
      exact ⟨_, rfl, rfl⟩
    | histogram field interval minDocCount =>
      cases h
      exact ⟨_, rfl, rfl⟩
    | terms field size order minDocCount =>
      obtain ⟨b, hb, h⟩ := Outcome.bind_eq_ok.mp h
      obtain ⟨_, _, hb⟩ := Outcome.bind_eq_ok.mp hb
      split_ifs at hb
      cases hb
      cases h
      exact ⟨_, rfl, rfl⟩
    | metric field function missing =>
      -- a metric has no bucket plan
      unfold planOf at h
      split_ifs at h
      obtain ⟨m, _, h⟩ := Outcome.bind_eq_ok.mp h
      cases h
      cases hbucket
    | unimplemented node => cases h
  · right
    exact ⟨_, hmetric, hnone, rfl⟩

mutual

/-- The fixed intervals of the nodes of a plan are those of the aggregation. -/
theorem spans_nodes {p : AggregationPlan} (number : Nat) (parent : Option Nat)
    (ancestors : List BucketPlan) : (aggregation : Aggregation) → plan aggregation = .ok p →
    ((p.nodes number parent ancestors).flatMap fun node => node.plan.key.spans) =
      aggregation.widths
  | .node name kind children => by
    intro h
    obtain ⟨below, hbelow, h⟩ := Outcome.bind_eq_ok.mp h
    rcases spans_planOf h with ⟨b, rfl, hkey⟩ | ⟨m, rfl, rfl, hnone⟩
    · rw [AggregationPlan.nodes, List.flatMap_cons, widths, spans_nodesOfAll _ _ _ children hbelow,
        hkey]
    · have hbelowNone := spans_nodesOfAll number parent ancestors children hbelow
      rw [AggregationPlan.nodesOfAll, List.flatMap_nil] at hbelowNone
      rw [AggregationPlan.nodes, List.flatMap_nil, widths, hnone, ← hbelowNone]
      rfl

theorem spans_nodesOfAll {ps : List AggregationPlan} (number : Nat) (parent : Option Nat)
    (ancestors : List BucketPlan) : (aggregations : List Aggregation) →
    plans aggregations = .ok ps →
    ((AggregationPlan.nodesOfAll number parent ancestors ps).flatMap fun node =>
      node.plan.key.spans) = widthsOfAll aggregations
  | [] => by
    intro h
    cases h
    rfl
  | aggregation :: aggregations => by
    intro h
    obtain ⟨p, hp, h⟩ := Outcome.bind_eq_ok.mp h
    obtain ⟨rest, hrest, h⟩ := Outcome.bind_eq_ok.mp h
    cases h
    rw [AggregationPlan.nodesOfAll, List.flatMap_append, widthsOfAll,
      spans_nodes _ _ _ aggregation hp, spans_nodesOfAll _ _ _ aggregations hrest]

end

end Aggregation

/-- Of the stages of a level only the one that makes groups has timespans, those of its keys. -/
theorem BucketNode.spans_level (node : BucketNode) :
    node.level.spans = node.keys.flatMap fun named => named.2.spans := by
  have hwithin : node.withinStages.flatMap Stage.spans = [] := by
    unfold withinStages
    cases node.parent <;> rfl
  have hcount : node.countStages.flatMap Stage.spans = [] := by
    unfold countStages
    split_ifs <;> rfl
  have horder : (Batch.orderStages node.plan node.ancestorColumns).flatMap Stage.spans = [] := by
    unfold Batch.orderStages
    cases node.plan.limit with
    | none => rfl
    | some n => cases node.ancestorColumns <;> rfl
  show node.stages.flatMap Stage.spans = _
  rw [stages, List.flatMap_append, List.flatMap_append, List.flatMap_append, hwithin, hcount,
    horder, List.append_nil, List.append_nil, List.append_nil]
  exact List.append_nil _

namespace Search

variable {search : Search} {plan : Plan} {database : String} {batch : Batch}

/-- The timespans of the levels are the widths of the date histograms. -/
theorem mem_spans_levels (hplan : search.plan = .ok plan)
    (hbatch : plan.batch database = .ok batch) (n : Nat) :
    n ∈ batch.levels.flatMap Level.spans ↔ n ∈ Aggregation.widthsOfAll search.aggregations := by
  rw [(plan.levels_of_batch hbatch).levels_eq,
    ← Aggregation.spans_nodesOfAll 0 none [] _ (plans_of_plan hplan)]
  simp only [List.mem_flatMap, List.mem_map]
  constructor
  · rintro ⟨_, ⟨node, hnode, rfl⟩, hn⟩
    rw [node.spans_level] at hn
    obtain ⟨_, hkey, hn⟩ := List.mem_flatMap.mp hn
    obtain ⟨b, hb, rfl⟩ := List.mem_map.mp hkey
    rcases List.mem_append.mp hb with hb | hb
    · obtain ⟨above, habove, rfl⟩ := AggregationPlan.exists_of_mem_ancestors hnode hb
      exact ⟨above, habove, hn⟩
    · rw [List.mem_singleton.mp hb] at hn
      exact ⟨node, hnode, hn⟩
  · rintro ⟨node, hnode, hn⟩
    refine ⟨node.level, ⟨node, hnode, rfl⟩, ?_⟩
    rw [node.spans_level]
    -- the own key comes last
    exact List.mem_flatMap.mpr
      ⟨_, List.mem_map_of_mem (List.mem_append_right _ (List.mem_singleton_self _)), hn⟩

theorem fits_filter (h : search.plan = .ok plan) : plan.filter.Fits := by
  obtain ⟨filter, hfilter, h⟩ := Outcome.bind_eq_ok.mp h
  obtain ⟨aggregations, _, h⟩ := Outcome.bind_eq_ok.mp h
  cases h
  exact Query.fits_predicate search.query hfilter

/-- Outside the quotes of a statement every timespan fits that is not the width of a date histogram
of the search. All timespans of the statement fit if and only if all these widths do. -/
theorem statement_spans (hplan : search.plan = .ok plan)
    (hbatch : plan.batch database = .ok batch) :
    (∀ n ∈ spansIn batch.text,
        n ≤ spanCapacity ∨ n ∈ Aggregation.widthsOfAll search.aggregations) ∧
      ((∀ n ∈ spansIn batch.text, n ≤ spanCapacity) ↔
        ∀ n ∈ Aggregation.widthsOfAll search.aggregations, n ≤ spanCapacity) := by
  have hlevels := mem_spans_levels hplan hbatch
  have hfilter : batch.filter.Fits := plan.filter_of_batch hbatch ▸ fits_filter hplan
  rw [spansIn_text hplan hbatch]
  have hsplit : ∀ n ∈ batch.filter.spans ++ batch.levels.flatMap Level.spans,
      n ≤ spanCapacity ∨ n ∈ Aggregation.widthsOfAll search.aggregations := by
    intro n hn
    rcases List.mem_append.mp hn with hn | hn
    · exact Or.inl (hfilter n hn)
    · exact Or.inr ((hlevels n).mp hn)
  refine ⟨hsplit, fun hall n hn => ?_, fun hwidths n hn => ?_⟩
  · exact hall n (List.mem_append_right _ ((hlevels n).mpr hn))
  · exact (hsplit n hn).elim id (hwidths n)

/-- A search that goes back by as many days as it may, with buckets of one day more. -/
def wideSearch : Search where
  index := "logs"
  query := .range "at" (some ⟨.string "now-10675199d", true⟩) none none
  aggregations := [.node "days" (.dateHistogram "at" (.fixed (10675200 * 86400000)) 1) []]
  hits := ⟨0, 0, [], .all, false⟩

theorem statement_spans_wide :
    ∃ plan batch, wideSearch.plan = .ok plan ∧ plan.batch "telemetry" = .ok batch ∧
      ¬∀ n ∈ spansIn batch.text, n ≤ spanCapacity := by
  have hok : (wideSearch.plan >>= fun plan => plan.batch "telemetry").isOk = true := by
    decide +kernel
  cases hboth : wideSearch.plan >>= fun plan => plan.batch "telemetry" with
  | error failure =>
    rw [hboth] at hok
    cases hok
  | ok batch =>
    obtain ⟨plan, hplan, hbatch⟩ := Outcome.bind_eq_ok.mp hboth
    refine ⟨plan, batch, hplan, hbatch, fun hall => ?_⟩
    have hwidth := (statement_spans hplan hbatch).2.mp hall (10675200 * 86400000) (by decide)
    exact absurd hwidth (by decide)

end Search

end KustoSearch
