import KustoSearch.Response.Mapper
import Mathlib.Tactic.SplitIfs

/-! # Buckets between buckets

Filling the gaps of a level keeps the delivered buckets in their order, and adds empty buckets
between them only.
-/

namespace KustoSearch

namespace Gaps

/-- A level with empty buckets added to those that were delivered. -/
inductive Fills (empty : List (String × AggregationResult)) :
    (delivered shown : List Bucket) → Prop where
  | nil : Fills empty [] []
  | delivered (bucket : Bucket) {delivered shown : List Bucket}
      (rest : Fills empty delivered shown) : Fills empty (bucket :: delivered) (bucket :: shown)
  | inserted (key : Key) {delivered shown : List Bucket} (rest : Fills empty delivered shown) :
      Fills empty delivered ((⟨key.1, key.2, 0⟩, empty) :: shown)

variable {empty : List (String × AggregationResult)}

/-- Buckets to which none were added. -/
theorem fills_refl (empty : List (String × AggregationResult)) (buckets : List Bucket) :
    Fills empty buckets buckets := by
  induction buckets with
  | nil => exact .nil
  | cons bucket buckets ih => exact .delivered bucket ih

theorem Fills.append {as bs cs ds : List Bucket} (h : Fills empty as bs) (h' : Fills empty cs ds) :
    Fills empty (as ++ cs) (bs ++ ds) := by
  induction h with
  | nil => exact h'
  | delivered bucket _ ih => exact .delivered bucket ih
  | inserted key _ ih => exact .inserted key ih

theorem fills_addEmpty? {keys : List Key} {delivered : List Bucket} {filled after : Filled}
    (h : addEmpty? empty filled keys = some after)
    (hfills : Fills empty delivered filled.buckets.reverse) :
    Fills empty delivered after.buckets.reverse := by
  induction keys generalizing filled with
  | nil =>
    cases h
    exact hfills
  | cons key keys ih =>
    obtain ⟨key, text⟩ := key
    unfold addEmpty? at h
    split_ifs at h
    refine ih h ?_
    have hinserted := hfills.append (.inserted (key, text) .nil)
    rwa [List.append_nil, ← List.reverse_cons] at hinserted

theorem fills_add? {key : BucketKey} {bucket : Bucket} {delivered : List Bucket}
    {filled after : Filled} (h : add? key empty filled bucket = some after)
    (hfills : Fills empty delivered filled.buckets.reverse) :
    Fills empty (delivered ++ [bucket]) after.buckets.reverse := by
  have hlast : ∀ before : Filled, Fills empty delivered before.buckets.reverse →
      Fills empty (delivered ++ [bucket]) (bucket :: before.buckets).reverse := by
    intro before hbefore
    rw [List.reverse_cons]
    exact hbefore.append (.delivered bucket .nil)
  unfold add? at h
  split at h
  · cases h
    exact hlast filled hfills
  · obtain ⟨before, hbefore, h⟩ := Option.bind_eq_some_iff.mp h
    obtain ⟨keys, _, hkeys⟩ := Option.bind_eq_some_iff.mp hbefore
    cases h
    exact hlast before (fills_addEmpty? hkeys hfills)

/-- Filling the gaps adds empty buckets only. -/
theorem fills_of_fill? {key : BucketKey} {buckets shown : List Bucket}
    (h : fill? key empty buckets = some shown) : Fills empty buckets shown := by
  have hrun : ∀ (rest delivered : List Bucket) (filled after : Filled),
      rest.foldlM (add? key empty) filled = some after →
      Fills empty delivered filled.buckets.reverse →
      Fills empty (delivered ++ rest) after.buckets.reverse := by
    intro rest
    induction rest with
    | nil =>
      intro delivered filled after h hfills
      cases h
      rwa [List.append_nil]
    | cons bucket rest ih =>
      intro delivered filled after h hfills
      obtain ⟨next, hnext, h⟩ := Option.bind_eq_some_iff.mp h
      have hrest := ih (delivered ++ [bucket]) next after h (fills_add? hnext hfills)
      rwa [List.append_assoc, List.singleton_append] at hrest
  obtain ⟨after, hafter, rfl⟩ := Option.map_eq_some_iff.mp h
  exact hrun buckets [] ⟨[], 0⟩ after hafter .nil

end Gaps

namespace Mapper

/-- A level is finished as it was delivered, or with its gaps filled where empty buckets are
shown. -/
theorem finish_eq_ok {plan : BucketPlan} {children : List AggregationPlan} {buckets : List Bucket}
    {given : AggregationResult} :
    finish plan children buckets = .ok given ↔
      (plan.minDocCount ≠ 0 ∧ given = .buckets buckets) ∨
        (plan.minDocCount = 0 ∧ Gaps.overlong plan.key buckets = false ∧ ∃ shown,
          Gaps.fill? plan.key (emptyResults children) buckets = some shown ∧
            given = .buckets shown) := by
  unfold finish
  split_ifs with hshown hlong
  · simp [hshown, hlong]
  · cases Gaps.fill? plan.key (emptyResults children) buckets with
    | none => simp [hshown]
    | some shown => simp [hshown, hlong, eq_comm]
  · simp only [hshown, ne_eq, not_false_eq_true, true_and, false_and, or_false, Except.ok.injEq]
    exact eq_comm

/-- A level that shows its empty buckets cannot be finished where its steps are too long for a
duration, or where it would have too many buckets. -/
theorem finish_eq_error {plan : BucketPlan} {children : List AggregationPlan}
    {buckets : List Bucket} {stop : Stop} :
    finish plan children buckets = .error stop ↔ plan.minDocCount = 0 ∧
      (Gaps.overlong plan.key buckets = true ∧ stop = .fault .durationOutOfRange ∨
        Gaps.overlong plan.key buckets = false ∧
          Gaps.fill? plan.key (emptyResults children) buckets = none ∧
          stop = .failure (Gaps.tooMany plan)) := by
  unfold finish
  split_ifs with hshown hlong
  · simp [hshown, hlong, eq_comm]
  · cases Gaps.fill? plan.key (emptyResults children) buckets with
    | none => simp [hshown, hlong, eq_comm]
    | some shown => simp [hshown, hlong]
  · simp [hshown]

end Mapper

namespace Gaps

theorem overlong_nil (key : BucketKey) : overlong key [] = false := by
  unfold overlong
  split
  · simp
  · rfl

/-- Only steps of the least number of milliseconds are too long for a duration. -/
theorem exists_of_overlong {key : BucketKey} {buckets : List Bucket}
    (h : overlong key buckets = true) : ∃ field, key = .date field (.fixed Int64.minValue) := by
  unfold overlong at h
  split at h
  · rename_i field ms
    rw [Bool.and_eq_true, decide_eq_true_eq] at h
    exact ⟨field, by rw [h.1]⟩
  · cases h

end Gaps

end KustoSearch
