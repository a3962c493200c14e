import KustoSearch.Proofs.Decimal.Value
import KustoSearch.Proofs.Interval
import KustoSearch.Proofs.Plan.Refusal
import KustoSearch.Proofs.Plan.Shape

/-! # Searches that are well formed

Planning keeps some failures for searches that no request asks for: a range without bounds, a
value that is no scalar, a metric with sub-aggregations. What reading guarantees of every node of
a search is `SearchNode.WellFormed`, and a well-formed node never comes to such a failure. Main
result: a search that has been read is well formed at every depth, so that none of these failures
is what a caller is told (`Search.wellFormed_of_read`).
-/

namespace KustoSearch

/-! ## Well-formed nodes -/

/-- Texts, numbers and truth values. -/
inductive Json.IsScalar : Json → Prop
  | string (s : String) : IsScalar (.string s)
  | number (n : Number) : IsScalar (.number n)
  | bool (b : Bool) : IsScalar (.bool b)

/-- Texts and numbers. -/
inductive Json.IsBoundValue : Json → Prop
  | string (s : String) : IsBoundValue (.string s)
  | number (n : Number) : IsBoundValue (.number n)

/-- Whether a text has a character that is not blank. -/
def Text.NotBlank (s : String) : Prop := ∃ c ∈ s.toList, Text.isBlank c = false

/-- What is guaranteed of a query apart from its clauses. -/
def Query.WellFormed : Query → Prop
  | .range _ lower upper _ =>
    (lower ≠ none ∨ upper ≠ none) ∧ (∀ b ∈ lower, b.value.IsBoundValue) ∧
      ∀ b ∈ upper, b.value.IsBoundValue
  | .fullText _ query _ _ => query.IsScalar
  | .term _ value _ => value.IsScalar
  | .terms _ values => ∀ value ∈ values, value.IsScalar
  | .present field => Text.NotBlank field
  | _ => True

/-- What is guaranteed of the parameters of an aggregation. -/
def AggregationKind.WellFormed : AggregationKind → Prop
  | .dateHistogram field interval _ =>
    Text.NotBlank field ∧ ∀ millis, interval = .fixed millis → 0 < millis.toInt
  | .histogram field interval _ => Text.NotBlank field ∧ 0 < interval.value
  | .terms field size _ _ => Text.NotBlank field ∧ 1 ≤ size
  | .metric field function _ =>
    Text.NotBlank field ∧ ∀ percents, function = .percentiles percents →
      percents ≠ [] ∧ ∀ p ∈ percents, 0 ≤ p.value ∧ p.value ≤ 100
  | .unimplemented _ => True

namespace Aggregation

/-- The kind of the aggregation. -/
def kind : Aggregation → AggregationKind
  | .node _ kind _ => kind

/-- The sub-aggregations of the aggregation. -/
def children : Aggregation → List Aggregation
  | .node _ _ children => children

/-- What is guaranteed of an aggregation apart from its sub-aggregations. -/
structure WellFormed (a : Aggregation) : Prop where
  named : a.name ≠ ""
  plainName : ∀ c ∈ ['[', ']', '>'], c ∉ a.name.toList
  kind : a.kind.WellFormed
  metricAlone : a.kind.isMetric = true → a.children = []
  distinct : (a.children.map name).Nodup

end Aggregation

/-- What is guaranteed of a node apart from its parts. -/
def SearchNode.WellFormed : SearchNode → Prop
  | .query q => q.WellFormed
  | .aggregation a => a.WellFormed

/-- What is guaranteed of a search. -/
structure Search.WellFormed (search : Search) : Prop where
  window : search.hits.skip + search.hits.size ≤ 10000
  distinct : (search.aggregations.map Aggregation.name).Nodup
  nodes : ∀ node ∈ search.nodes, node.WellFormed

/-! ## Clauses -/

namespace Request

theorem isScalar_of_requireScalar {clause field : String} {value : Json}
    (h : requireScalar clause field value = .ok ()) : value.IsScalar := by
  unfold requireScalar at h
  split_ifs at h with hscalar
  cases value with
  | string s => exact .string s
  | number n => exact .number n
  | bool b => exact .bool b
  | _ => cases hscalar

theorem isScalar_of_forM {clause field : String} {values : List Json}
    (h : values.forM (requireScalar clause field) = .ok ()) : ∀ value ∈ values, value.IsScalar := by
  induction values with
  | nil => simp
  | cons first values ih =>
    obtain ⟨_, hfirst, h⟩ := Outcome.bind_eq_ok.mp h
    intro value hvalue
    rcases List.mem_cons.mp hvalue with rfl | hvalue
    · exact isScalar_of_requireScalar hfirst
    · exact ih h value hvalue

theorem isBoundValue_of_bound {field inclusiveName exclusiveName : String}
    {inclusive exclusive : Option Json} {result : Option Bound}
    (h : bound field inclusiveName inclusive exclusiveName exclusive = .ok result) :
    ∀ b ∈ result, b.value.IsBoundValue := by
  have hchecked : ∀ b : Bound, isBoundValue b.value = true → b.value.IsBoundValue := by
    rintro ⟨value, inclusive⟩ hvalue
    cases value with
    | string s => exact .string s
    | number n => exact .number n
    | _ => cases hvalue
  unfold bound at h
  split at h
  · cases h
  · dsimp only at h
    split_ifs at h with hvalue
    cases h
    rintro b ⟨⟩
    exact hchecked _ hvalue
  · dsimp only at h
    split_ifs at h with hvalue
    cases h
    rintro b ⟨⟩
    exact hchecked _ hvalue
  · cases h
    rintro b ⟨⟩

theorem notBlank_of_isBlankString {s : String} (h : Text.isBlankString s = false) :
    Text.NotBlank s := by
  simpa [Text.isBlankString, Text.allBlank, Text.NotBlank] using h

/-- A query that holds no other queries is its only node. -/
def Leaf (q : Query) : Prop := q.nodes = [.query q] ∧ q.WellFormed

theorem Leaf.wellFormed {q : Query} (h : Leaf q) : ∀ node ∈ q.nodes, node.WellFormed := by
  intro node hnode
  rw [h.1, List.mem_singleton] at hnode
  rw [hnode]
  exact h.2

theorem leaf_fullText {phrase : Bool} {fields : List (String × FullTextParams)} {q : Query}
    (h : fullText phrase fields = .ok q) : Leaf q := by
  obtain ⟨⟨field, params⟩, _, h⟩ := Outcome.bind_eq_ok.mp h
  obtain ⟨operator, _, h⟩ := Outcome.bind_eq_ok.mp h
  obtain ⟨_, hscalar, h⟩ := Outcome.bind_eq_ok.mp h
  cases h
  exact ⟨rfl, isScalar_of_requireScalar hscalar⟩

theorem leaf_term {fields : List (String × TermParams)} {q : Query}
    (h : term fields = .ok q) : Leaf q := by
  obtain ⟨⟨field, params⟩, _, h⟩ := Outcome.bind_eq_ok.mp h
  obtain ⟨_, hscalar, h⟩ := Outcome.bind_eq_ok.mp h
  cases h
  exact ⟨rfl, isScalar_of_requireScalar hscalar⟩

theorem leaf_terms {fields : List (String × Json)} {q : Query}
    (h : terms fields = .ok q) : Leaf q := by
  obtain ⟨⟨field, values⟩, _, h⟩ := Outcome.bind_eq_ok.mp h
  cases values with
  | array values =>
    obtain ⟨_, hscalars, h⟩ := Outcome.bind_eq_ok.mp h
    cases h
    exact ⟨rfl, isScalar_of_forM hscalars⟩
  | object members =>
    cases h
    exact ⟨rfl, trivial⟩
  | _ => cases h

theorem leaf_range {fields : List (String × RangeParams)} {q : Query}
    (h : range fields = .ok q) : Leaf q := by
  obtain ⟨⟨field, params⟩, _, h⟩ := Outcome.bind_eq_ok.mp h
  obtain ⟨lower, hlower, h⟩ := Outcome.bind_eq_ok.mp h
  obtain ⟨upper, hupper, h⟩ := Outcome.bind_eq_ok.mp h
  split_ifs at h with hnone
  cases h
  refine ⟨rfl, ?_, isBoundValue_of_bound hlower, isBoundValue_of_bound hupper⟩
  simpa [-not_and, Classical.not_and_iff_not_or_not] using hnone

theorem leaf_present {field : String} {q : Query} (h : present field = .ok q) : Leaf q := by
  unfold present at h
  split_ifs at h with hblank
  cases h
  exact ⟨rfl, notBlank_of_isBlankString (by simpa using hblank)⟩

theorem leaf_words {params : WordsParams} {q : Query} (h : words params = .ok q) : Leaf q := by
  obtain ⟨operator, _, h⟩ := Outcome.bind_eq_ok.mp h
  cases h
  exact ⟨rfl, trivial⟩

theorem leaf_wildcard {fields : List (String × WildcardParams)} {q : Query}
    (h : wildcard fields = .ok q) : Leaf q := by
  obtain ⟨⟨field, params⟩, _, h⟩ := Outcome.bind_eq_ok.mp h
  cases h
  exact ⟨rfl, trivial⟩

theorem leaf_startsWith {fields : List (String × String)} {q : Query}
    (h : startsWith fields = .ok q) : Leaf q := by
  obtain ⟨⟨field, value⟩, _, h⟩ := Outcome.bind_eq_ok.mp h
  cases h
  exact ⟨rfl, trivial⟩

mutual

/-- Every node of a query that has been read is well formed. -/
theorem wellFormed_query {q : Query} : (clause : Clause) → query clause = .ok q →
    ∀ node ∈ q.nodes, node.WellFormed
  | .bool must filter should mustNot minimum => by
    intro h
    rw [query] at h
    obtain ⟨musts, hmust, h⟩ := Outcome.bind_eq_ok.mp h
    obtain ⟨filters, hfilter, h⟩ := Outcome.bind_eq_ok.mp h
    obtain ⟨shoulds, hshould, h⟩ := Outcome.bind_eq_ok.mp h
    obtain ⟨mustNots, hmustNot, h⟩ := Outcome.bind_eq_ok.mp h
    cases h
    intro node hnode
    simp only [Query.nodes, List.mem_append, List.mem_singleton] at hnode
    rcases hnode with hnode | hnode | hnode | hnode | rfl
    · exact wellFormed_queries must hmust node hnode
    · exact wellFormed_queries filter hfilter node hnode
    · exact wellFormed_queries should hshould node hnode
    · exact wellFormed_queries mustNot hmustNot node hnode
    · trivial
  | .matchAll => fun h => by
    cases h
    exact Leaf.wellFormed ⟨rfl, trivial⟩
  | .matchNone => fun h => by
    cases h
    exact Leaf.wellFormed ⟨rfl, trivial⟩
  | .unimplemented _ => fun h => by
    cases h
    exact Leaf.wellFormed ⟨rfl, trivial⟩
  | .fullText .. => fun h => (leaf_fullText h).wellFormed
  | .term _ => fun h => (leaf_term h).wellFormed
  | .terms _ => fun h => (leaf_terms h).wellFormed
  | .range _ => fun h => (leaf_range h).wellFormed
  | .present _ => fun h => (leaf_present h).wellFormed
  | .words _ => fun h => (leaf_words h).wellFormed
  | .wildcard _ => fun h => (leaf_wildcard h).wellFormed
  | .startsWith _ => fun h => (leaf_startsWith h).wellFormed

/-- Every node of queries that have been read is well formed. -/
theorem wellFormed_queries {qs : List Query} : (clauses : List Clause) →
    queries clauses = .ok qs → ∀ node ∈ Query.nodesOfAll qs, node.WellFormed
  | [] => by
    intro h
    cases h
    intro node hnode
    cases hnode
  | clause :: clauses => by
    intro h
    rw [queries] at h
    obtain ⟨q, hq, h⟩ := Outcome.bind_eq_ok.mp h
    obtain ⟨rest, hrest, h⟩ := Outcome.bind_eq_ok.mp h
    cases h
    intro node hnode
    rcases List.mem_append.mp hnode with hnode | hnode
    · exact wellFormed_query clause hq node hnode
    · exact wellFormed_queries clauses hrest node hnode

end

/-! ## Aggregations -/

theorem notBlank_of_requiredField {field : Option String} {path type named : String}
    (h : requiredField field path type = .ok named) : Text.NotBlank named := by
  unfold requiredField at h
  split at h
  · split_ifs at h with hblank
    cases h
    exact notBlank_of_isBlankString (by simpa using hblank)
  · cases h

theorem isPercent_iff (p : Binary64) :
    isPercent p = true ↔ 0 ≤ p.value ∧ p.value ≤ 100 := by
  rw [isPercent, Bool.and_eq_true, Binary64.isAtLeastZero_iff, Binary64.magnitudeAtMost_iff]
  refine and_congr_right fun hnonneg => ?_
  have hvalue : p.value = p.magnitude := by
    have hmagnitude := p.magnitude_nonneg
    unfold Binary64.value at hnonneg ⊢
    split_ifs at hnonneg ⊢
    · linarith
    · rfl
  rw [hvalue]
  norm_num

theorem wellFormed_percentiles {field : Option String} {percents : Option (List Binary64)}
    {path : String} {kind : AggregationKind} (h : percentiles field percents path = .ok kind) :
    kind.WellFormed := by
  obtain ⟨named, hfield, h⟩ := Outcome.bind_eq_ok.mp h
  dsimp only at h
  split_ifs at h with hempty
  split at h
  · cases h
  · rename_i hall
    cases h
    refine ⟨notBlank_of_requiredField hfield, ?_⟩
    rintro ps ⟨⟩
    refine ⟨by simpa using hempty, fun p hp => (isPercent_iff p).mp ?_⟩
    simpa using List.find?_eq_none.mp hall p hp

theorem wellFormed_termsKind {field : Option String} {size : Option Nat} {order : Option Json}
    {minDocCount : Option Nat} {missing : Option Json} {path : String} {kind : AggregationKind}
    (h : termsKind field size order minDocCount missing path = .ok kind) : kind.WellFormed := by
  unfold termsKind at h
  dsimp only at h
  split_ifs at h with _ hsize
  · cases h
    trivial
  · obtain ⟨named, hfield, h⟩ := Outcome.bind_eq_ok.mp h
    obtain ⟨_, _, h⟩ := Outcome.bind_eq_ok.mp h
    cases h
    exact ⟨notBlank_of_requiredField hfield, Nat.pos_of_ne_zero hsize⟩

theorem wellFormed_histogramKind {field : Option String} {interval : Option Binary64}
    {minDocCount : Option Nat} {path : String} {kind : AggregationKind}
    (h : histogramKind field interval minDocCount path = .ok kind) : kind.WellFormed := by
  obtain ⟨named, hfield, h⟩ := Outcome.bind_eq_ok.mp h
  split at h
  · split_ifs at h with hpositive
    cases h
    exact ⟨notBlank_of_requiredField hfield, (Binary64.isPositive_iff _).mp hpositive⟩
  · cases h

theorem wellFormed_dateHistogramKind {field interval fixedInterval calendarInterval : Option String}
    {minDocCount : Option Nat} {path : String} {kind : AggregationKind}
    (h : dateHistogramKind field interval fixedInterval calendarInterval minDocCount path =
      .ok kind) : kind.WellFormed := by
  obtain ⟨named, hfield, h⟩ := Outcome.bind_eq_ok.mp h
  split at h
  · cases h
  · split at h
    · rename_i width hwidth
      cases h
      refine ⟨notBlank_of_requiredField hfield, ?_⟩
      rintro millis rfl
      exact Interval.proper_of_parse? hwidth
    · cases h

theorem wellFormed_aggregationKind {declared : Declared} {path : String} {kind : AggregationKind}
    (hplain : declared.IsPlain) (h : aggregationKind declared path = .ok kind) :
    kind.WellFormed := by
  cases declared with
  | metric name function field missing =>
    obtain ⟨named, hfield, h⟩ := Outcome.bind_eq_ok.mp h
    cases h
    exact ⟨notBlank_of_requiredField hfield, fun percents hpercents =>
      absurd hpercents (hplain percents)⟩
  | percentiles field percents => exact wellFormed_percentiles h
  | terms field size order minDocCount missing => exact wellFormed_termsKind h
  | histogram field interval minDocCount => exact wellFormed_histogramKind h
  | dateHistogram field interval fixedInterval calendarInterval minDocCount =>
    exact wellFormed_dateHistogramKind h
  | unimplemented node =>
    cases h
    trivial

theorem isAggregationName_iff (name : String) :
    isAggregationName name = true ↔ name ≠ "" ∧ ∀ c ∈ ['[', ']', '>'], c ∉ name.toList := by
  rw [isAggregationName, Bool.and_eq_true]
  refine and_congr (by simp) ?_
  simp only [Text.containsAny, Bool.not_eq_true', List.any_eq_false, List.contains_iff_mem]
  exact ⟨fun h c hc hname => h c hname hc, fun h c hname hc => h c hc hname⟩

/-- Reading keeps the names of aggregations. -/
theorem map_name_aggregations {parent : String} {specs : List (String × AggregationSpec)}
    {as : List Aggregation} (h : aggregations parent specs = .ok as) :
    as.map Aggregation.name = specs.map Prod.fst := by
  induction specs generalizing as with
  | nil =>
    cases h
    rfl
  | cons spec specs ih =>
    obtain ⟨a, ha, h⟩ := Outcome.bind_eq_ok.mp h
    obtain ⟨rest, hrest, h⟩ := Outcome.bind_eq_ok.mp h
    cases h
    rw [List.map_cons, List.map_cons, ih hrest, (shape_aggregation spec.2 ha).1]

mutual

/-- Every node of an aggregation that has been read is well formed. -/
theorem wellFormed_aggregation {parent name : String} {a : Aggregation} :
    (spec : AggregationSpec) → spec.Regular → aggregation parent name spec = .ok a →
    ∀ node ∈ a.nodes, node.WellFormed
  | .node declared children => by
    intro hregular h
    obtain ⟨plain, names, below⟩ := hregular
    rw [aggregation] at h
    split_ifs at h with hname
    obtain ⟨single, hsingle, h⟩ := Outcome.bind_eq_ok.mp h
    obtain ⟨kind, hkind, h⟩ := Outcome.bind_eq_ok.mp h
    split_ifs at h with hmetric
    obtain ⟨as, has, h⟩ := Outcome.bind_eq_ok.mp h
    cases h
    intro node hnode
    rcases List.mem_append.mp hnode with hnode | hnode
    · exact wellFormed_aggregations children ⟨names, below⟩ has node hnode
    · rw [List.mem_singleton.mp hnode]
      have hproper := (isAggregationName_iff name).mp (by simpa using hname)
      have hdeclared : single ∈ declared := by simp [declaredType_eq_ok hsingle]
      refine ⟨hproper.1, hproper.2, wellFormed_aggregationKind (plain single hdeclared) hkind,
        fun hisMetric => ?_, ?_⟩
      · have hkindMetric : kind.isMetric = true := hisMetric
        have hnone : children = [] := by simpa [hkindMetric] using hmetric
        subst hnone
        cases has
        rfl
      · rw [Aggregation.children, map_name_aggregations has]
        exact names

/-- Every node of aggregations that have been read is well formed. -/
theorem wellFormed_aggregations {parent : String} {as : List Aggregation} :
    (specs : List (String × AggregationSpec)) → RegularTable specs →
    aggregations parent specs = .ok as → ∀ node ∈ Aggregation.nodesOfAll as, node.WellFormed
  | [] => by
    intro _ h
    cases h
    intro node hnode
    cases hnode
  | (name, spec) :: specs => by
    intro hregular h
    obtain ⟨a, ha, h⟩ := Outcome.bind_eq_ok.mp h
    obtain ⟨rest, hrest, h⟩ := Outcome.bind_eq_ok.mp h
    cases h
    obtain ⟨names, regular⟩ := hregular
    intro node hnode
    rcases List.mem_append.mp hnode with hnode | hnode
    · exact wellFormed_aggregation spec (regular _ List.mem_cons_self) ha node hnode
    · exact wellFormed_aggregations specs
        ⟨names.of_cons, fun spec hspec => regular spec (List.mem_cons_of_mem _ hspec)⟩
        hrest node hnode

end

/-! ## Hits -/

theorem window_of_hits {document : Document} {selection : HitSelection}
    (h : hits document = .ok selection) : selection.skip + selection.size ≤ 10000 := by
  unfold hits at h
  dsimp only at h
  split_ifs at h with hwindow
  obtain ⟨sort, _, h⟩ := Outcome.bind_eq_ok.mp h
  cases h
  simp only [maxResultWindow, saturatingSum, Nat.pow_eq] at hwindow ⊢
  omega

end Request

/-! ## Failures of well-formed nodes -/

/-- The failures that planning keeps for searches that are not well formed. -/
inductive Failure.IsDefensive : Failure → Prop
  | term : IsDefensive
      (.unsupported "TermClause" "term value must be a string, number or boolean")
  | terms : IsDefensive (.unsupported "TermsClause" "terms values must be scalars")
  | fullText (phrase : Bool) : IsDefensive
      (.unsupported (if phrase then "MatchPhraseClause" else "MatchClause")
        "match value must be a string, number or boolean")
  | bound (field : String) : IsDefensive
      (.unsupported "RangeClause" ("bound on [" ++ field ++ "] must be a string or number"))
  | noBounds (field : String) : IsDefensive
      (.malformedField field ("[range] query on [" ++ field ++ "] has no bounds"))
  | metricWithChildren (name : String) : IsDefensive (Aggregation.metricWithChildren name)

namespace Failure.IsDefensive

/-- How the reason of such a failure begins. -/
theorem reason_take {nodeKind reason : String} (h : IsDefensive (.unsupported nodeKind reason)) :
    reason.toList.take 7 ∈
      ["term va".toList, "terms v".toList, "match v".toList, "bound o".toList,
        "metric ".toList] := by
  cases h <;> simp

theorem detail_head {detail : String} {field : Option String}
    (h : IsDefensive (.malformedQuery detail field)) : detail.toList.head? = some '[' := by
  cases h with
  | noBounds field => simp

end Failure.IsDefensive

namespace Query

variable {failure : Failure}

theorem scalar?_of_isScalar {value : Json} (h : value.IsScalar) :
    ∃ literal kind, scalar? value = some (literal, kind) := by
  cases h with
  | string s => exact ⟨_, _, rfl⟩
  | number n => exact ⟨_, _, rfl⟩
  | bool b => exact ⟨_, _, rfl⟩

theorem termPredicate_ne_error {field : String} {value : Json} {ignoreCase : Bool}
    (hvalue : value.IsScalar) : termPredicate field value ignoreCase ≠ .error failure := by
  obtain ⟨literal, kind, hliteral⟩ := scalar?_of_isScalar hvalue
  rw [termPredicate, hliteral]
  rintro ⟨⟩

theorem fullTextPredicate_ne_error {field : String} {query : Json} {operator : MatchOperator}
    {phrase : Bool} (hquery : query.IsScalar) :
    fullTextPredicate field query operator phrase ≠ .error failure := by
  cases hquery with
  | string s =>
    cases phrase with
    | true => rintro ⟨⟩
    | false => rintro ⟨⟩
  | number n => rintro ⟨⟩
  | bool b => rintro ⟨⟩

theorem not_isDefensive_termLiterals {field : String} {values : List Json}
    (hvalues : ∀ value ∈ values, value.IsScalar) {kind : Option ScalarKind}
    (h : termLiterals field kind values = .error failure) : ¬failure.IsDefensive := by
  induction values generalizing kind with
  | nil => cases h
  | cons value values ih =>
    obtain ⟨literal, k, hliteral⟩ := scalar?_of_isScalar (hvalues value List.mem_cons_self)
    rw [termLiterals, hliteral] at h
    dsimp only at h
    split_ifs at h with hkind
    · rcases Outcome.bind_eq_error.mp h with h | ⟨_, _, h⟩
      · exact ih (fun value hvalue => hvalues value (List.mem_cons_of_mem _ hvalue)) h
      · cases h
    · cases h
      intro hdefensive
      simpa using hdefensive.reason_take

theorem not_isDefensive_termsPredicate {field : String} {values : List Json}
    (hvalues : ∀ value ∈ values, value.IsScalar)
    (h : termsPredicate field values = .error failure) : ¬failure.IsDefensive := by
  unfold termsPredicate at h
  split_ifs at h
  rcases Outcome.bind_eq_error.mp h with h | ⟨_, _, h⟩
  · exact not_isDefensive_termLiterals hvalues h
  · cases h

theorem head_problem (problem : DateMath.Problem) : problem.message.toList.head? ≠ some '[' := by
  -- the wording is written out because unfolding it by its equations is slow
  cases problem with
  | anchor text =>
    change ("invalid date math anchor [" ++ text ++ "]").toList.head? ≠ some '['
    simp
  | expression text =>
    change ("invalid date math expression [" ++ text ++ "]").toList.head? ≠ some '['
    simp
  | shift count unit text =>
    change ("date math shift [" ++ Text.integerText count ++ unit.name ++ "] in [" ++ text ++
      "] is out of range").toList.head? ≠ some '['
    simp

theorem not_isDefensive_textBound {field s : String} {format : Option String} {roundUp : Bool}
    (h : textBound field s format roundUp = .error failure) : ¬failure.IsDefensive := by
  unfold textBound at h
  dsimp only at h
  split at h
  · cases h
  · split at h
    · rename_i problem _
      cases h
      exact fun hdefensive => head_problem problem hdefensive.detail_head
    · cases h
    · split at h
      · cases h
      · split at h
        · cases h
        · cases h
          intro hdefensive
          simpa using hdefensive.reason_take

theorem not_isDefensive_boundLiteral {field : String} {value : Json} {format : Option String}
    {roundUp : Bool} (hvalue : value.IsBoundValue)
    (h : boundLiteral field value format roundUp = .error failure) : ¬failure.IsDefensive := by
  cases hvalue with
  | string s => exact not_isDefensive_textBound h
  | number n =>
    unfold boundLiteral at h
    dsimp only at h
    split at h <;> cases h

theorem not_isDefensive_lowerTest {field : String} {format : Option String} {b : Bound}
    (hvalue : b.value.IsBoundValue) (h : lowerTest field format b = .error failure) :
    ¬failure.IsDefensive := by
  rcases Outcome.bind_eq_error.mp h with h | ⟨_, _, h⟩
  · exact not_isDefensive_boundLiteral hvalue h
  · cases h

theorem not_isDefensive_upperTest {field : String} {format : Option String} {b : Bound}
    (hvalue : b.value.IsBoundValue) (h : upperTest field format b = .error failure) :
    ¬failure.IsDefensive := by
  rcases Outcome.bind_eq_error.mp h with h | ⟨_, _, h⟩
  · exact not_isDefensive_boundLiteral hvalue h
  · cases h

theorem not_isDefensive_rangePredicate {field : String} {lower upper : Option Bound}
    {format : Option String} (hsome : lower ≠ none ∨ upper ≠ none)
    (hlower : ∀ b ∈ lower, b.value.IsBoundValue) (hupper : ∀ b ∈ upper, b.value.IsBoundValue)
    (h : rangePredicate field lower upper format = .error failure) : ¬failure.IsDefensive := by
  rcases lower with _ | l <;> rcases upper with _ | u
  · simp at hsome
  · exact not_isDefensive_upperTest (hupper u rfl) h
  · exact not_isDefensive_lowerTest (hlower l rfl) h
  · rcases Outcome.bind_eq_error.mp h with h | ⟨_, _, h⟩
    · exact not_isDefensive_lowerTest (hlower l rfl) h
    · rcases Outcome.bind_eq_error.mp h with h | ⟨_, _, h⟩
      · exact not_isDefensive_upperTest (hupper u rfl) h
      · cases h

theorem not_isDefensive_wordsPredicate {query : String} {fields : List String}
    {operator : MatchOperator} (h : wordsPredicate query fields operator = .error failure) :
    ¬failure.IsDefensive := by
  unfold wordsPredicate at h
  dsimp only at h
  generalize (if fields.isEmpty then [Kql.Target.anyColumn] else fields.map .column) = targets at h
  split_ifs at h
  · cases h
    intro hdefensive
    simpa using hdefensive.reason_take
  · rcases Outcome.bind_eq_error.mp h with h | ⟨_, _, h⟩
    · obtain ⟨word, _, h⟩ := Outcome.exists_mem_of_mapM_eq_error h
      unfold wordPredicate at h
      dsimp only at h
      split_ifs at h
      cases h
      intro hdefensive
      simpa using hdefensive.reason_take
    · cases h

theorem not_isDefensive_boolPredicate {must filter should mustNot : List Kql.Predicate}
    {minimum : Option MinimumMatch}
    (h : boolPredicate must filter should mustNot minimum = .error failure) :
    ¬failure.IsDefensive := by
  unfold boolPredicate at h
  dsimp only at h
  split_ifs at h
  · cases h
  · rcases Outcome.bind_eq_error.mp h with h | ⟨_, _, h⟩
    · unfold requiredCount at h
      split at h
      · cases h
      · cases h
      · split at h
        · cases h
        · cases h
          intro hdefensive
          simpa using hdefensive.reason_take
    · cases h

/-- The rule of a well-formed query does not come to a failure for others. -/
theorem not_isDefensive_of_ruleGives {q : Query} (hwell : q.WellFormed)
    (h : q.RuleGives (.error failure)) : ¬failure.IsDefensive := by
  cases q with
  | bool must filter should mustNot minimum =>
    obtain ⟨_, _, _, _, _, _, _, _, h⟩ := h
    exact not_isDefensive_boolPredicate h
  | range field lower upper format =>
    obtain ⟨hsome, hlower, hupper⟩ := hwell
    exact not_isDefensive_rangePredicate hsome hlower hupper h
  | fullText field query operator phrase => exact absurd h (fullTextPredicate_ne_error hwell)
  | term field value ignoreCase => exact absurd h (termPredicate_ne_error hwell)
  | terms field values => exact not_isDefensive_termsPredicate hwell h
  | words query fields operator => exact not_isDefensive_wordsPredicate h
  | unimplemented unknown =>
    cases h
    intro hdefensive
    simpa using hdefensive.reason_take
  | _ => cases h

end Query

namespace Aggregation

variable {failure : Failure}

theorem not_isDefensive_termsPlan {name field : String} {size minDocCount : Nat}
    {order : TermsOrder} (h : termsPlan name field size order minDocCount = .error failure) :
    ¬failure.IsDefensive := by
  rcases Outcome.bind_eq_error.mp h with h | ⟨_, _, h⟩
  · cases order with
    | byMetric path descending =>
      cases h
      intro hdefensive
      simpa using hdefensive.reason_take
    | _ => cases h
  · split_ifs at h
    cases h
    intro hdefensive
    simpa using hdefensive.reason_take

theorem not_isDefensive_metricPlan {name field : String} {function : MetricFunction}
    {missing : Option Json} (h : metricPlan name field function missing = .error failure) :
    ¬failure.IsDefensive := by
  unfold metricPlan at h
  split_ifs at h
  · cases h
    intro hdefensive
    simpa using hdefensive.reason_take
  · cases h
    intro hdefensive
    simpa using hdefensive.reason_take

/-- The rule of a well-formed aggregation does not come to a failure for others. -/
theorem not_isDefensive_of_ruleGives {a : Aggregation} (hwell : a.WellFormed)
    (h : a.RuleGives (.error failure)) : ¬failure.IsDefensive := by
  obtain ⟨name, kind, children⟩ := a
  obtain ⟨plans, hplans, h⟩ := h
  cases kind with
  | dateHistogram field interval minDocCount => cases h
  | histogram field interval minDocCount => cases h
  | terms field size order minDocCount =>
    rcases Outcome.bind_eq_error.mp h with h | ⟨_, _, h⟩
    · exact not_isDefensive_termsPlan h
    · cases h
  | metric field function missing =>
    have hchildren : children = [] := hwell.metricAlone rfl
    subst hchildren
    rw [List.forall₂_nil_left_iff.mp hplans] at h
    rcases Outcome.bind_eq_error.mp h with h | ⟨_, _, h⟩
    · exact not_isDefensive_metricPlan h
    · cases h
  | unimplemented unknown =>
    cases h
    intro hdefensive
    simpa using hdefensive.reason_take

end Aggregation

theorem FirstFailure.not_isDefensive {failure : Failure} {nodes : List SearchNode}
    (h : FirstFailure failure nodes) (hwell : ∀ node ∈ nodes, node.WellFormed) :
    ¬failure.IsDefensive := by
  induction h with
  | @here node nodes hfails =>
    have hnode := hwell node List.mem_cons_self
    cases node with
    | query q => exact Query.not_isDefensive_of_ruleGives hnode hfails
    | aggregation a => exact Aggregation.not_isDefensive_of_ruleGives hnode hfails
  | later _ _ ih => exact ih fun node hnode => hwell node (List.mem_cons_of_mem _ hnode)

/-! ## Searches that have been read -/

/-- What has been read is well formed at every depth. -/
theorem Search.read_wellFormed {index : String} {body : Json} {search : Search}
    (h : Search.read index body = .ok search) : search.WellFormed := by
  obtain ⟨document, hdocument, hquery, haggregations, hhits⟩ := parts_of_read h
  have hregular := Request.regularTable_of_read? hdocument
  refine ⟨Request.window_of_hits hhits, ?_, fun node hnode => ?_⟩
  · rw [Request.map_name_aggregations haggregations]
    exact hregular.names
  · rcases List.mem_append.mp hnode with hnode | hnode
    · rcases hquery with hall | ⟨clause, hclause⟩
      · have hleaf : Request.Leaf .matchAll := ⟨rfl, trivial⟩
        rw [hall] at hnode
        exact hleaf.wellFormed node hnode
      · exact Request.wellFormed_query clause hclause node hnode
    · exact Request.wellFormed_aggregations _ hregular haggregations node hnode

/-- What has been read is well formed at every depth, and planning it does not come to a failure
for other searches. -/
theorem Search.wellFormed_of_read {index : String} {body : Json} {search : Search}
    (h : Search.read index body = .ok search) :
    search.WellFormed ∧ ∀ failure, search.plan = .error failure → ¬failure.IsDefensive := by
  have hwell := read_wellFormed h
  refine ⟨hwell, fun failure hfailure => ?_⟩
  have hfirst := (search.settles_plan.eq_error_iff failure).mp hfailure
  exact hfirst.not_isDefensive hwell.nodes

/-- A request for busy hosts, by a list whose values are of two kinds. -/
def busyBody : Json := .object [
  ("query", .object [("bool", .object [
    ("must", .object [("range", .object [("cpu", .object [("gte", Json.ofNat 80)])])]),
    ("filter", .array [
      .object [("exists", .object [("field", .string "user")])],
      .object [("terms", .object [("host", .array [.string "a", .bool true])])]])])]),
  ("aggs", .object [("hosts", .object [
    ("terms", .object [("field", .string "host")]),
    ("aggs", .object [("peak", .object [("max", .object [("field", .string "cpu")])])])])])]

/-- The search that it asks for. -/
def busySearch : Search where
  index := "logs"
  query := .bool [.range "cpu" (some ⟨Json.ofNat 80, true⟩) none none]
    [.present "user", .terms "host" [.string "a", .bool true]] [] [] none
  aggregations := [.node "hosts" (.terms "host" 10 .countDesc 1)
    [.node "peak" (.metric "cpu" .max none) []]]
  hits := ⟨0, 10, [], .all, true⟩

/-- All is well formed and has no plan, which is no failure for other searches. -/
theorem Search.wellFormed_of_read_busy :
    Search.read "logs" busyBody = .ok busySearch ∧ busySearch.WellFormed ∧
      ∃ failure, busySearch.plan = .error failure ∧ ¬failure.IsDefensive := by
  have hread : Search.read "logs" busyBody = .ok busySearch := rfl
  obtain ⟨hwell, hfailures⟩ := wellFormed_of_read hread
  exact ⟨hread, hwell, _, rfl, hfailures _ rfl⟩

end KustoSearch
