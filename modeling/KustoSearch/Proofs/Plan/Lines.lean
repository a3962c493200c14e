import KustoSearch.Proofs.Plan.Mentions

/-! # The lines of a statement

A statement has one line for each binding and one for each result, unless a name in it has line
breaks of its own: brackets do not keep a line break from the text, quotes around a value do. Main
result: `Search.statement_lines`.
-/

namespace KustoSearch

open Kql (breaks lines terminated)

theorem Kql.length_terminated (parts : List String) : (terminated parts).length = parts.length := by
  induction parts with
  | nil => rfl
  | cons part parts ih =>
    cases parts with
    | nil => rfl
    | cons next parts => exact congrArg (· + 1) ih

theorem Kql.terminated_ne_nil {parts : List String} (h : parts ≠ []) : terminated parts ≠ [] := by
  rw [← List.length_pos_iff, Kql.length_terminated]
  exact List.length_pos_iff.mpr h

namespace Search

variable {search : Search} {plan : Plan} {database : String} {batch : Batch}

/-- The bindings are the one of the rows and one for each bucket aggregation. -/
theorem length_levels (hplan : search.plan = .ok plan) (hbatch : plan.batch database = .ok batch) :
    batch.levels.length = Skeleton.levelsOfAll search.outline.aggregations := by
  rw [(plan.levels_of_batch hbatch).length, AggregationPlan.length_nodesOfAll, outline,
    ← Aggregation.skeletons_plans _ (plans_of_plan hplan), AggregationPlan.levelsOfAll_skeletons]

/-- A clause has no line break when no name of the statement has one. -/
theorem breaks_clause (hplan : search.plan = .ok plan) (hbatch : plan.batch database = .ok batch)
    (hnames : ∀ name ∈ batch.names, breaks name = 0) :
    ∀ part ∈ batch.clauseTexts, breaks part = 0 := by
  have hsum := (clauses_mention hplan hbatch).breaks_eq
  have hzero : (batch.names.map breaks).sum = 0 := by
    rw [List.sum_eq_zero_iff_forall_eq_nat, List.forall_mem_map]
    exact hnames
  rw [hzero, List.sum_eq_zero_iff_forall_eq_nat, List.forall_mem_map] at hsum
  exact hsum

/-- The lines of a statement are counted by its clauses, one for the selected rows, one for each
bucket aggregation and one for each result, and by the line breaks in the names that it has in
brackets, each time that a name is written. No value adds a line. The statement keeps to one line
for each clause exactly if none of its names has a line break. -/
theorem statement_lines (hplan : search.plan = .ok plan)
    (hbatch : plan.batch database = .ok batch) :
    (lines batch.text).length =
        1 + Skeleton.levelsOfAll search.outline.aggregations + batch.outputs.length +
          (batch.names.map breaks).sum ∧
      (lines batch.text = terminated batch.clauseTexts ↔
        ∀ name ∈ batch.names, breaks name = 0) := by
  have hlength := length_lines_text hplan hbatch
  constructor
  · rw [hlength, batch.length_clauseTexts, length_levels hplan hbatch]
  · constructor
    · intro hlines
      -- as many lines as clauses leave none for the names
      rw [hlines, Kql.length_terminated] at hlength
      have hzero : (batch.names.map breaks).sum = 0 := by omega
      rw [List.sum_eq_zero_iff_forall_eq_nat, List.forall_mem_map] at hzero
      exact hzero
    · intro hnames
      have hclauses := breaks_clause hplan hbatch hnames
      have hsemicolon : ∀ part, breaks part = 0 → breaks (part ++ ";") = 0 := by
        intro part hpart
        rw [Kql.breaks_append, hpart]
        decide
      rw [Batch.text_eq_join (plan.fragments_outputs hbatch).1]
      show lines (Text.join ";\n" batch.clauseTexts) = _
      rw [← Kql.join_terminated]
      exact Kql.lines_join (Kql.terminated_ne_nil batch.clauseTexts_ne_nil)
        (Kql.forall_terminated hsemicolon hclauses)

/-- A search for a value with a line break in a field with one. -/
def brokenSearch : Search where
  index := "logs"
  query := .term "user\nname" (.string "Ann\nLee") false
  aggregations := []
  hits := ⟨0, 0, [], .all, true⟩

/-- The name of the field, not the value, makes three lines of two clauses. -/
theorem statement_lines_broken :
    ∃ plan batch, brokenSearch.plan = .ok plan ∧ plan.batch "telemetry" = .ok batch ∧
      batch.clauseTexts.length = 2 ∧ (lines batch.text).length = 3 ∧
      lines batch.text ≠ terminated batch.clauseTexts := by
  obtain ⟨plan, hplan⟩ : ∃ plan, brokenSearch.plan = .ok plan := ⟨_, rfl⟩
  obtain ⟨batch, hbatch, hclauses, hnames, houtputs⟩ : ∃ batch,
      plan.batch "telemetry" = .ok batch ∧ batch.clauseTexts.length = 2 ∧
        batch.names = ["logs", "user\nname"] ∧ batch.outputs.length = 1 := by
    cases hplan
    exact ⟨_, rfl, rfl, rfl, rfl⟩
  obtain ⟨hlength, hlines⟩ := statement_lines hplan hbatch
  rw [hnames, houtputs] at hlength
  refine ⟨plan, batch, hplan, hbatch, hclauses, hlength.trans (by decide), fun hkept => ?_⟩
  have hbroken := hlines.mp hkept "user\nname" (by rw [hnames]; decide)
  exact absurd hbroken (by decide)

end Search

end KustoSearch
