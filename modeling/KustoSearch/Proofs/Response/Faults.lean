import KustoSearch.Proofs.Response.Account

/-! # Faults of a mapping

Every cell that a response is made of is there, apart from the number of hits: a response ends in a
read past the end of a row exactly where the row with that number ends before it. The other faults
are those of plans whose intervals no request can ask for. Main result: `Plan.response_faults`.
-/

namespace KustoSearch

open Mapper

/-- The levels of a response have no dates in intervals of no length. -/
theorem Mapper.not_datedAt_of_resultsOf {plan : Plan} {layout : Layout} {result : Result}
    {given : Option (List (String × AggregationResult))}
    (h : resultsOf plan layout result = .ok given) {node : BucketNode}
    (hnode : node ∈ AggregationPlan.nodesOfAll 0 none [] plan.aggregations) {field : String}
    (hzero : node.plan.key = .date field (.fixed 0)) : ¬ DatedAt layout result node.number := by
  rintro ⟨listed, rows, hlevel, row, hrow, hdate⟩
  unfold resultsOf at h
  split_ifs at h with hnone
  · simp [hnone, AggregationPlan.nodesOfAll] at hnode
  · obtain ⟨results, hall, _⟩ := Outcome.map_eq_ok.mp h
    have hmem : row ∈ rowsAt layout result node.number := by
      rw [rowsAt, hlevel.listed]
      exact hrow
    obtain ⟨other, hother, hnumber, listed', rows', hlevel', _, ⟨head, raw, hhead⟩, _⟩ :=
      madeBucket_of_allAggregations hall hmem
    -- the row was made a bucket of the node with the number of its level, which is this one
    obtain rfl := AggregationPlan.eq_of_number hother hnode hnumber
    obtain rfl := hlevel.rows_unique hlevel'
    exact bucketHead_ne_ok hzero hdate _ hhead

/-- A response ends in a read past the end of a row exactly where the hits can be read and the row
with their number ends before it. Every other fault is that of an interval of the plan, and there is
none where all intervals have a length. Dates in intervals of no length leave no response. -/
theorem Plan.response_faults (plan : Plan) (layout : Layout) (result : Result) (took : Nat)
    (ids : Nat → String) :
    (plan.response layout result took ids = .error (.fault .cellOutOfRange) ↔
      HitsReadable layout result ∧ TotalCutOff layout result) ∧
    (∀ fault, plan.response layout result took ids = .error (.fault fault) →
      fault = .cellOutOfRange ∨
        Faulty layout result (AggregationPlan.nodesOfAll 0 none [] plan.aggregations) fault) ∧
    ((∀ node ∈ AggregationPlan.nodesOfAll 0 none [] plan.aggregations, node.plan.key.HasLength) →
      ∀ fault, plan.response layout result took ids = .error (.fault fault) →
        fault = .cellOutOfRange) ∧
    (∀ node ∈ AggregationPlan.nodesOfAll 0 none [] plan.aggregations,
      (∃ field, node.plan.key = .date field (.fixed 0)) → DatedAt layout result node.number →
      ∀ response, plan.response layout result took ids ≠ .ok response) := by
  refine ⟨⟨fun h => ?_, fun ⟨hreadable, hcut⟩ => ?_⟩, fun fault h => ?_,
    fun hlengths fault h => ?_, fun node hnode ⟨field, hzero⟩ hdated response h => ?_⟩
  · rcases response_stops h with hstops | ⟨_, hcut⟩
    · cases hstops
    · exact hcut
  · obtain ⟨hits, hhits⟩ := exists_hitsOf_iff.mpr hreadable
    rw [response_eq]
    refine Outcome.bind_eq_error.mpr (Or.inr ⟨hits, hhits, ?_⟩)
    exact Outcome.bind_eq_error.mpr (Or.inl (totalOf_of_cutOff hits hcut))
  · rcases response_stops h with hstops | ⟨hfault, _⟩
    · exact Or.inr hstops
    · cases hfault
      exact Or.inl rfl
  · rcases response_stops h with hstops | ⟨hfault, _⟩
    · obtain ⟨failure, _, hfailure⟩ := hstops.refused hlengths
      cases hfailure
    · cases hfault
      rfl
  · rw [response_eq] at h
    obtain ⟨_, _, h⟩ := Outcome.bind_eq_ok.mp h
    obtain ⟨_, _, h⟩ := Outcome.bind_eq_ok.mp h
    obtain ⟨given, hgiven, _⟩ := Outcome.bind_eq_ok.mp h
    exact not_datedAt_of_resultsOf hgiven hnode hzero hdated

end KustoSearch
