import KustoSearch.Proofs.Response.Trace

/-! # Rows that are shown

A trace may hold results that another result of the same name replaces. Which levels such results
are of is a matter of the tree of aggregations alone: `shownAs_of_followsAll`.
-/

namespace KustoSearch

namespace AggregationPlan

mutual

/-- The levels of a plan whose results are shown. Of two aggregations with one name the later is
shown. -/
def shownLevels (level : Nat) : AggregationPlan → List Nat
  | .metric _ => []
  | .bucket _ children => level :: shownLevelsOfAll (level + 1) children

/-- The levels of plans, one after another, whose results are shown. -/
def shownLevelsOfAll (level : Nat) : List AggregationPlan → List Nat
  | [] => []
  | plan :: plans =>
    (if plan.name ∈ plans.map name then [] else shownLevels level plan) ++
      shownLevelsOfAll (level + plan.levelCount) plans

end

end AggregationPlan

namespace Mapper

namespace Trace

mutual

/-- The rows of the buckets that are shown, each with its level. -/
def shownRows : Trace → List (Nat × Row)
  | .leaf _ => []
  | .buckets level _ items => (ownRows items).map (level, ·) ++ shownRowsBelow items

/-- The rows that are shown below some buckets. -/
def shownRowsBelow :
    List (Option Row × BucketHead × List (String × Trace)) → List (Nat × Row)
  | [] => []
  | (_, _, below) :: items => shownRowsOfAll below ++ shownRowsBelow items

/-- The rows of some traces that are shown; a trace whose name comes again is not. -/
def shownRowsOfAll : List (String × Trace) → List (Nat × Row)
  | [] => []
  | (name, trace) :: traces =>
    (if name ∈ traces.map Prod.fst then [] else trace.shownRows) ++ shownRowsOfAll traces

end

end Trace

/-! ## Levels that are shown -/

/-- Rows of levels between two bounds, and which of them are shown. -/
structure ShownAs (low high : Nat) (levels : List Nat) (all shown : List (Nat × Row)) : Prop where
  rowBounds : ∀ t ∈ all, low ≤ t.1 ∧ t.1 < high
  bounds : ∀ level ∈ levels, low ≤ level ∧ level < high
  rowsOf : ∀ level, ofLevel level shown = if level ∈ levels then ofLevel level all else []

theorem ofLevel_eq_nil {α : Type} {level : Nat} {tagged : List (Nat × α)}
    (h : ∀ t ∈ tagged, t.1 ≠ level) : ofLevel level tagged = [] := by
  rw [ofLevel, List.filterMap_eq_nil_iff]
  intro t ht
  rw [if_neg (h t ht)]

theorem mem_ofLevel {α : Type} {level : Nat} {a : α} {tagged : List (Nat × α)} :
    a ∈ ofLevel level tagged ↔ (level, a) ∈ tagged := by
  rw [ofLevel, List.mem_filterMap]
  constructor
  · rintro ⟨⟨l, b⟩, hmem, h⟩
    split_ifs at h with hl
    cases h
    rw [← hl]
    exact hmem
  · intro h
    exact ⟨(level, a), h, if_pos rfl⟩

theorem shownAs_nil (low high : Nat) (levels : List Nat)
    (h : ∀ level ∈ levels, low ≤ level ∧ level < high) : ShownAs low high levels [] [] :=
  ⟨by simp, h, by simp⟩

/-- Rows that are not shown at all. -/
theorem ShownAs.hide {low high : Nat} {levels : List Nat} {all shown : List (Nat × Row)}
    (h : ShownAs low high levels all shown) : ShownAs low high [] all [] :=
  ⟨h.rowBounds, by simp, by simp⟩

/-- Rows of the same levels. -/
theorem ShownAs.more {low high : Nat} {levels : List Nat}
    {all shown more moreShown : List (Nat × Row)}
    (h : ShownAs low high levels all shown) (h' : ShownAs low high levels more moreShown) :
    ShownAs low high levels (all ++ more) (shown ++ moreShown) := by
  refine ⟨fun t ht => ?_, h.bounds, fun level => ?_⟩
  · rcases List.mem_append.mp ht with ht | ht
    · exact h.rowBounds t ht
    · exact h'.rowBounds t ht
  · rw [ofLevel_append, ofLevel_append, h.rowsOf, h'.rowsOf]
    split_ifs <;> rfl

/-- Rows of the levels that come next. -/
theorem ShownAs.next {low middle high : Nat} {levels later : List Nat}
    {all shown more moreShown : List (Nat × Row)} (h : ShownAs low middle levels all shown)
    (h' : ShownAs middle high later more moreShown) (hlow : low ≤ middle) (hhigh : middle ≤ high) :
    ShownAs low high (levels ++ later) (all ++ more) (shown ++ moreShown) := by
  refine ⟨fun t ht => ?_, fun level hlevel => ?_, fun level => ?_⟩
  · rcases List.mem_append.mp ht with ht | ht
    · have hbounds := h.rowBounds t ht
      omega
    · have hbounds := h'.rowBounds t ht
      omega
  · rcases List.mem_append.mp hlevel with hlevel | hlevel
    · have hbounds := h.bounds level hlevel
      omega
    · have hbounds := h'.bounds level hlevel
      omega
  · rw [ofLevel_append, ofLevel_append, h.rowsOf, h'.rowsOf]
    by_cases hfirst : level < middle
    · have hlater : level ∉ later := fun hmem => by
        have hbounds := h'.bounds level hmem
        omega
      have hmore : ofLevel level more = [] := ofLevel_eq_nil fun t ht heq => by
        have hbounds := h'.rowBounds t ht
        omega
      simp [hlater, hmore]
    · have hlevels : level ∉ levels := fun hmem => by
        have hbounds := h.bounds level hmem
        omega
      have hall : ofLevel level all = [] := ofLevel_eq_nil fun t ht heq => by
        have hbounds := h.rowBounds t ht
        omega
      simp [hlevels, hall]

section Shown

variable {layout : Layout} {result : Result}

/-- Inserted buckets have no rows below them. -/
theorem shownRowsOfAll_emptyTraces (children : List AggregationPlan) :
    Trace.shownRowsOfAll (emptyTraces children) = [] := by
  induction children with
  | nil => rfl
  | cons child children ih =>
    cases child <;>
    · show (if _ then [] else Trace.shownRows (.leaf _)) ++
        Trace.shownRowsOfAll (emptyTraces children) = []
      rw [ih, Trace.shownRows, ite_self, List.append_nil]

/-- Traces have the names of their aggregations. -/
theorem names_of_followsAll {level : Nat} {path : List Json} {plans : List AggregationPlan}
    {traces : List (String × Trace)} (h : FollowsAll layout result level path plans traces) :
    traces.map Prod.fst = plans.map AggregationPlan.name := by
  induction plans generalizing level traces with
  | nil =>
    cases traces with
    | nil => rfl
    | cons trace traces => simp [FollowsAll] at h
  | cons plan plans ih =>
    cases traces with
    | nil => simp [FollowsAll] at h
    | cons trace traces =>
      obtain ⟨hname, _, hrest⟩ := h
      rw [List.map_cons, List.map_cons, ih hrest, hname]

/-- Rows below some buckets, where all the buckets have rows of the same levels below them. -/
theorem shownAs_below {low high : Nat} {levels : List Nat} {items : List TracedBucket}
    (hlevels : ∀ level ∈ levels, low ≤ level ∧ level < high)
    (h : ∀ item ∈ items, ShownAs low high levels (Trace.rowsOfAll item.2.2)
      (Trace.shownRowsOfAll item.2.2)) :
    ShownAs low high levels (Trace.rowsBelow items) (Trace.shownRowsBelow items) := by
  induction items with
  | nil => exact shownAs_nil low high levels hlevels
  | cons item items ih =>
    obtain ⟨row, head, below⟩ := item
    rw [Trace.rowsBelow, Trace.shownRowsBelow]
    exact (h (row, head, below) (by simp)).more (ih fun item hitem => h item (List.mem_cons_of_mem _ hitem))

mutual

theorem shownLevels_bounds (level : Nat) : (plan : AggregationPlan) →
    ∀ l ∈ plan.shownLevels level, level ≤ l ∧ l < level + plan.levelCount
  | .metric _ => by simp [AggregationPlan.shownLevels]
  | .bucket _ children => by
    intro l hl
    rw [AggregationPlan.shownLevels, List.mem_cons] at hl
    rw [AggregationPlan.levelCount]
    rcases hl with rfl | hl
    · omega
    · have hbounds := shownLevelsOfAll_bounds (level + 1) children l hl
      omega

theorem shownLevelsOfAll_bounds (level : Nat) : (plans : List AggregationPlan) →
    ∀ l ∈ AggregationPlan.shownLevelsOfAll level plans,
      level ≤ l ∧ l < level + AggregationPlan.levelCounts plans
  | [] => by simp [AggregationPlan.shownLevelsOfAll]
  | plan :: plans => by
    intro l hl
    rw [AggregationPlan.shownLevelsOfAll, List.mem_append] at hl
    rw [AggregationPlan.levelCounts]
    rcases hl with hl | hl
    · split_ifs at hl
      · simp at hl
      · have hbounds := shownLevels_bounds level plan l hl
        omega
    · have hbounds := shownLevelsOfAll_bounds (level + plan.levelCount) plans l hl
      omega

end

/-- The rows of one level that is shown. -/
theorem shownAs_own (level : Nat) (rows : List Row) :
    ShownAs level (level + 1) [level] (rows.map (level, ·)) (rows.map (level, ·)) := by
  refine ⟨?_, by simp, fun l => ?_⟩
  · intro t ht
    obtain ⟨row, _, rfl⟩ := List.mem_map.mp ht
    simp
  · by_cases hl : l = level
    · simp [hl]
    · have hnone : ofLevel l (rows.map (level, ·)) = [] := by
        refine ofLevel_eq_nil fun t ht => ?_
        obtain ⟨row, _, rfl⟩ := List.mem_map.mp ht
        exact Ne.symm hl
      rw [hnone, ite_self]

mutual

/-- A trace shows all its rows of the levels that are shown, and no others. -/
theorem shownAs_of_follows {level : Nat} {path : List Json} {trace : Trace} :
    (plan : AggregationPlan) → Follows layout result level path plan trace →
    ShownAs level (level + plan.levelCount) (plan.shownLevels level) trace.rows trace.shownRows
  | .metric plan => by
    intro h
    cases trace with
    | leaf given => exact shownAs_nil _ _ _ (by simp [AggregationPlan.shownLevels])
    | buckets level' path' items => simp [Follows] at h
  | .bucket plan children => by
    intro h
    cases trace with
    | leaf given => simp [Follows] at h
    | buckets level' path' items =>
      obtain ⟨rfl, rfl, table, rows, _, _, hitems⟩ := h
      have hbounds := shownLevelsOfAll_bounds (level' + 1) children
      have hbelow : ShownAs (level' + 1) (level' + 1 + AggregationPlan.levelCounts children)
          (AggregationPlan.shownLevelsOfAll (level' + 1) children) (Trace.rowsBelow items)
          (Trace.shownRowsBelow items) := by
        refine shownAs_below hbounds fun item hitem => ?_
        have h := hitems item hitem
        split at h
        · obtain ⟨_, _, raw, _, hfollows⟩ := h
          exact shownAs_of_followsAll children hfollows
        · obtain ⟨_, _, hempty⟩ := h
          rw [hempty, shownRowsOfAll_emptyTraces, (emptyTraces_eq children).2.1]
          exact shownAs_nil _ _ _ hbounds
      rw [Trace.rows, Trace.shownRows, AggregationPlan.shownLevels, AggregationPlan.levelCount,
        Nat.add_comm (AggregationPlan.levelCounts children) 1, ← Nat.add_assoc]
      exact (shownAs_own level' (Trace.ownRows items)).next hbelow (by omega) (by omega)

/-- Traces show all their rows of the levels that are shown, and no others. -/
theorem shownAs_of_followsAll {level : Nat} {path : List Json} {traces : List (String × Trace)} :
    (plans : List AggregationPlan) → FollowsAll layout result level path plans traces →
    ShownAs level (level + AggregationPlan.levelCounts plans)
      (AggregationPlan.shownLevelsOfAll level plans) (Trace.rowsOfAll traces)
      (Trace.shownRowsOfAll traces)
  | [] => by
    intro h
    cases traces with
    | nil => exact shownAs_nil _ _ _ (by simp [AggregationPlan.shownLevelsOfAll])
    | cons trace traces => simp [FollowsAll] at h
  | plan :: plans => by
    intro h
    cases traces with
    | nil => simp [FollowsAll] at h
    | cons named traces =>
      obtain ⟨name, trace⟩ := named
      obtain ⟨rfl, hfirst, hrest⟩ := h
      have htrace := shownAs_of_follows plan hfirst
      have htraces := shownAs_of_followsAll plans hrest
      rw [Trace.rowsOfAll, Trace.shownRowsOfAll, AggregationPlan.shownLevelsOfAll,
        AggregationPlan.levelCounts, names_of_followsAll hrest, ← Nat.add_assoc]
      split_ifs
      · exact htrace.hide.next htraces (by omega) (by omega)
      · exact htrace.next htraces (by omega) (by omega)

end

end Shown

end Mapper

end KustoSearch
