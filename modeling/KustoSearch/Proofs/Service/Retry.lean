import KustoSearch.Proofs.Service.Attempt
import KustoSearch.Service.Retry
import Mathlib.Algebra.BigOperators.Intervals
import Mathlib.Tactic.Ring

/-! # Runs of attempts

A run tries again exactly after the failures that may pass, until its retries are used up. How many
attempts it makes, what it comes to, how long it takes and what it measures is told by the attempts
alone: `RetryPolicy.run_retried`. Pauses are as long as they are said to be, however long that is.
-/

namespace KustoSearch

open Finset (range)

/-! ## Failures of attempts -/

namespace Attempt

/-- Whether an attempt failed for a reason that may pass. -/
def Passing (attempt : Attempt) : Prop :=
  ∃ detail, attempt.outcome = .error (.failure (.executionTransient detail))

theorem isTransient_iff {attempt : Attempt} : attempt.isTransient = true ↔ attempt.Passing := by
  unfold isTransient Passing
  split
  · next failure houtcome =>
    rw [houtcome]
    cases failure <;> simp [Failure.isTransient]
  · next hother =>
    refine iff_of_false (by simp) ?_
    rintro ⟨detail, houtcome⟩
    exact hother _ houtcome

/-- The failure that an attempt ended with. -/
def failure? (attempt : Attempt) : Option Failure :=
  match attempt.outcome with
  | .error (.failure failure) => some failure
  | _ => none

/-- The measurement of a failure that one of the components found. -/
def counted (component : Component) (attempt : Attempt) : List Metric :=
  (attempt.failure?.map (Metric.failed ·.kind component)).toList

/-- Every attempt counts its failure once, and nothing when it has none. -/
theorem exists_counted (settings : Settings) (leave : Option Nat) (index : String) (body : Json)
    (reply : Batch → Reply) (ids : Nat → String) :
    ∃ component, (run settings leave index body reply ids).metrics.filter Metric.isFailure =
      (run settings leave index body reply ids).counted component := by
  unfold run
  split_ifs
  · exact ⟨.controller, rfl⟩
  · split
    · next failure component _ => exact ⟨component, rfl⟩
    · next plan batch _ =>
      unfold dispatch
      dsimp only
      split
      · exact ⟨.executor, rfl⟩
      · generalize await settings.timeout (reply batch) = wait
        obtain ⟨duration, outcome⟩ := wait
        cases outcome with
        | error e => exact ⟨.executor, rfl⟩
        | ok result =>
          have hreceived := filter_received Metric.isFailure (fun _ => rfl) duration result
          have hcounted (failure : Failure) (component : Component) :
              ([Metric.planning 0] ++ .execution (nanos duration) ::
                (resultMetrics result ++ [count failure component])).filter Metric.isFailure =
              [count failure component] := by
            rw [← List.cons_append, ← List.append_assoc, List.filter_append, hreceived]
            rfl
          simp only [conclude]
          split_ifs
          · exact ⟨.executor, hcounted _ _⟩
          · rcases plan.response batch.layout result duration ids with (failure | fault) | response
            · exact ⟨.mapper, hcounted _ _⟩
            · exact ⟨.mapper, hreceived⟩
            · exact ⟨.mapper, hreceived⟩

/-- The attempts at a search. The caller and the engine may do something else each time. -/
def series (settings : Settings) (leave : Nat → Option Nat) (index : String) (body : Json)
    (reply : Nat → Batch → Reply) (ids : Nat → Nat → String) (k : Nat) : Attempt :=
  run settings (leave k) index body (reply k) (ids k)

end Attempt

/-! ## Runs -/

/-- The retries of a run. -/
def Run.retries (run : Run) : Nat := run.attempts - 1

namespace RetryPolicy

variable (policy : RetryPolicy) (attempt : Nat → Attempt)

/-- The number of attempts up to the first one that is not to be followed by another. -/
noncomputable def untilSettled : ℕ∞ := ⨅ k : { k // ¬ (attempt k).Passing }, ((k : Nat) + 1 : ℕ∞)

/-- When an attempt starts: the first one at once, and each other after the one before it and a
pause that grows with the number of attempts that have failed. -/
def startOf : Nat → Nat
  | 0 => 0
  | k + 1 => startOf k + (attempt k).duration + policy.backoff * (k + 1)

/-- What a run is when it makes the attempts that it should. -/
structure Retried (run : Run) : Prop where
  attempts : (run.attempts : ℕ∞) = min ((policy.maxRetries + 1 : Nat) : ℕ∞) (untilSettled attempt)
  retries : run.attempts = run.retries + 1
  outcome : run.outcome = (attempt run.retries).outcome
  ending : run.duration = policy.startOf attempt run.retries + (attempt run.retries).duration
  duration : run.duration = ∑ k ∈ range run.attempts, (attempt k).duration +
    policy.backoff * (run.retries * (run.retries + 1) / 2)
  metrics : run.trace.metrics = (List.range run.attempts).flatMap fun k => (attempt k).metrics

/-- What a run is from the attempt on that `failed` others come before, when `last` others come
after it. -/
structure Ran (left failed last : Nat) (run : Run) : Prop where
  attempts : run.attempts = last + 1
  bound : last ≤ left
  passing : ∀ k < last, (attempt (failed + k)).Passing
  settled : last < left → ¬ (attempt (failed + last)).Passing
  outcome : run.outcome = (attempt (failed + last)).outcome
  ending : policy.startOf attempt failed + run.duration =
    policy.startOf attempt (failed + last) + (attempt (failed + last)).duration
  metrics : run.trace.metrics =
    (List.range (last + 1)).flatMap fun k => (attempt (failed + k)).metrics

variable {policy attempt}

theorem Ran.single (left failed : Nat) (h : 0 < left → ¬ (attempt failed).Passing) :
    policy.Ran attempt left failed 0 (.single (attempt failed)) where
  attempts := rfl
  bound := Nat.zero_le left
  passing := fun _ hk => absurd hk (Nat.not_lt_zero _)
  settled := h
  outcome := rfl
  ending := rfl
  metrics := (List.append_nil _).symm

theorem Ran.after {left failed last : Nat} {run : Run}
    (h : policy.Ran attempt left (failed + 1) last run) (hpassing : (attempt failed).Passing) :
    policy.Ran attempt (left + 1) failed (last + 1)
      (run.after (attempt failed) (policy.pause (failed + 1))) := by
  have hshift (k : Nat) : attempt (failed + (k + 1)) = attempt (failed + 1 + k) := by
    rw [Nat.add_right_comm, Nat.add_assoc]
  constructor
  case attempts => exact congrArg (· + 1) h.attempts
  case bound => exact Nat.succ_le_succ h.bound
  case passing =>
    rintro (_ | k) hk
    · exact hpassing
    · rw [hshift]
      exact h.passing k (by omega)
  case settled =>
    intro hlast
    rw [hshift]
    exact h.settled (by omega)
  case outcome =>
    rw [hshift]
    exact h.outcome
  case ending =>
    -- the run after the first attempt starts where that attempt and its pause end
    have hstart : failed + (last + 1) = failed + 1 + last := by omega
    rw [hstart, ← h.ending, startOf, Run.after, pause]
    dsimp only
    omega
  case metrics =>
    have hrest : (fun k => (attempt (failed + (k + 1))).metrics) =
        fun k => (attempt (failed + 1 + k)).metrics := funext fun k => by rw [hshift]
    rw [List.range_succ_eq_map, List.flatMap_cons, List.flatMap_map]
    exact congrArg ((attempt failed).metrics ++ ·)
      (h.metrics.trans (congrArg (List.flatMap · (List.range (last + 1))) hrest.symm))

/-- A run makes some number of attempts, by induction on the retries that are left. -/
theorem exists_ran (left failed : Nat) :
    ∃ last, policy.Ran attempt left failed last (policy.runFrom attempt left failed) := by
  induction left generalizing failed with
  | zero => exact ⟨0, .single 0 failed fun h => absurd h (Nat.lt_irrefl 0)⟩
  | succ left ih =>
    obtain ⟨last, hlast⟩ := ih (failed + 1)
    rw [runFrom]
    split_ifs with htransient
    · exact ⟨last + 1, hlast.after (Attempt.isTransient_iff.mp htransient)⟩
    · exact ⟨0, .single _ failed fun _ hpassing =>
        htransient (Attempt.isTransient_iff.mpr hpassing)⟩

/-- The attempts that follow one another end where the retries or the passing failures do. -/
theorem Ran.attempts_eq {last : Nat} {run : Run}
    (h : policy.Ran attempt policy.maxRetries 0 last run) :
    (run.attempts : ℕ∞) = min ((policy.maxRetries + 1 : Nat) : ℕ∞) (untilSettled attempt) := by
  have hpassing : ∀ k < last, (attempt k).Passing := fun k hk => by
    simpa using h.passing k hk
  have hle : (run.attempts : ℕ∞) ≤ untilSettled attempt := by
    refine le_iInf fun k => ?_
    have hk : last ≤ k := Nat.not_lt.mp fun hlt => k.2 (hpassing k hlt)
    rw [h.attempts]
    exact_mod_cast Nat.succ_le_succ hk
  have hbound : (run.attempts : ℕ∞) ≤ ((policy.maxRetries + 1 : Nat) : ℕ∞) := by
    rw [h.attempts]
    exact_mod_cast Nat.succ_le_succ h.bound
  refine le_antisymm (le_min hbound hle) ?_
  rw [h.attempts]
  -- a run that could go on has met the first attempt that settles it
  rcases Nat.lt_or_eq_of_le h.bound with hlt | heq
  · have hsettled : ¬ (attempt last).Passing := by simpa using h.settled hlt
    let first : { k // ¬ (attempt k).Passing } := ⟨last, hsettled⟩
    refine (min_le_right _ _).trans ((iInf_le _ first).trans ?_)
    exact_mod_cast le_refl _
  · refine (min_le_left _ _).trans ?_
    rw [heq]

/-- The start of an attempt comes after the attempts before it and the pauses between them. -/
theorem startOf_eq (k : Nat) : policy.startOf attempt k =
    ∑ j ∈ range k, (attempt j).duration + policy.backoff * (k * (k + 1) / 2) := by
  induction k with
  | zero => rfl
  | succ k ih =>
    have hsucc : (k + 1) * (k + 1 + 1) = k * (k + 1) + (k + 1) * 2 := by ring
    have hpauses : policy.backoff * ((k + 1) * (k + 1 + 1) / 2) =
        policy.backoff * (k * (k + 1) / 2) + policy.backoff * (k + 1) := by
      rw [hsucc, Nat.add_mul_div_right _ _ (by decide), Nat.mul_add]
    rw [startOf, ih, Finset.sum_range_succ, hpauses]
    omega

theorem Ran.retried {last : Nat} {run : Run}
    (h : policy.Ran attempt policy.maxRetries 0 last run) :
    policy.Retried attempt run := by
  have hretries : run.retries = last := by
    rw [Run.retries, h.attempts, Nat.add_sub_cancel]
  have hending : run.duration = policy.startOf attempt last + (attempt last).duration := by
    simpa [startOf] using h.ending
  constructor
  case attempts => exact h.attempts_eq
  case retries => rw [hretries, h.attempts]
  case outcome => rw [hretries]; simpa using h.outcome
  case ending => rw [hretries, hending]
  case duration =>
    rw [hretries, hending, h.attempts, startOf_eq, Finset.sum_range_succ]
    omega
  case metrics => rw [h.attempts]; simpa using h.metrics

/-- A run tries again exactly after failures that may pass, and no more often than it may: however
the attempts go, it is the run of as many of them as are to follow one another. In a run of a search
each attempt that failed is counted once, and no other one is. -/
theorem run_retried (policy : RetryPolicy) :
    (∀ attempt, policy.Retried attempt (policy.run attempt)) ∧
      ∀ settings leave index body reply ids,
        let attempt := Attempt.series settings leave index body reply ids
        ∃ component : Nat → Component,
          (policy.run attempt).trace.metrics.filter Metric.isFailure =
            (List.range (policy.run attempt).attempts).flatMap fun k =>
              (attempt k).counted (component k) := by
  have hretried (attempt : Nat → Attempt) : policy.Retried attempt (policy.run attempt) := by
    obtain ⟨last, hlast⟩ : ∃ last, policy.Ran attempt policy.maxRetries 0 last
        (policy.run attempt) := exists_ran policy.maxRetries 0
    exact hlast.retried
  refine ⟨hretried, fun settings leave index body reply ids => ?_⟩
  choose component hcomponent using fun k =>
    Attempt.exists_counted settings (leave k) index body (reply k) (ids k)
  refine ⟨component, ?_⟩
  rw [(hretried _).metrics, List.filter_flatMap]
  exact congrArg (List.flatMap · _) (funext hcomponent)

/-- Three attempts of five milliseconds each, and pauses of one and two times a hundred. -/
example : (RetryPolicy.run ⟨2, 100⟩ fun _ =>
    ⟨none, [], 5, [], .error (.failure (.executionTransient "busy"))⟩).duration = 315 := rfl

end RetryPolicy

end KustoSearch
