import KustoSearch.Proofs.Decimal.Shortest

/-! # The value of a binary number

The rational number that a binary number stands for, and what the questions that are answered from
its coefficient and its power say about it.
-/

namespace KustoSearch.Binary64

/-- The magnitude of a binary number. -/
def magnitude (x : Binary64) : ℚ := x.coefficient * 2 ^ x.power

/-- The value of a binary number. -/
def value (x : Binary64) : ℚ := if x.isNegative then -x.magnitude else x.magnitude

theorem magnitude_nonneg (x : Binary64) : 0 ≤ x.magnitude :=
  mul_nonneg (Nat.cast_nonneg _) (zpow_nonneg (by decide) _)

theorem magnitude_eq_zero_iff (x : Binary64) : x.magnitude = 0 ↔ x.isZero = true := by
  have hscale : (2 : ℚ) ^ x.power ≠ 0 := zpow_ne_zero _ (by decide)
  simp [magnitude, isZero, hscale]

theorem isPositive_iff (x : Binary64) : x.isPositive = true ↔ 0 < x.value := by
  have hnonneg := x.magnitude_nonneg
  have hzero := x.magnitude_eq_zero_iff
  unfold isPositive value
  cases hnegative : x.isNegative with
  | true => simpa using hnonneg
  | false =>
    cases hisZero : x.isZero with
    | true => simp [hzero.mpr hisZero]
    | false =>
      have hne : x.magnitude ≠ 0 := fun h => by simp [hzero.mp h] at hisZero
      simpa using lt_of_le_of_ne hnonneg hne.symm

theorem isAtLeastZero_iff (x : Binary64) : x.isAtLeastZero = true ↔ 0 ≤ x.value := by
  have hnonneg := x.magnitude_nonneg
  have hzero := x.magnitude_eq_zero_iff
  unfold isAtLeastZero value
  cases hnegative : x.isNegative with
  | false => simpa using hnonneg
  | true =>
    cases hisZero : x.isZero with
    | true => simp [hzero.mpr hisZero]
    | false =>
      have hne : x.magnitude ≠ 0 := fun h => by simp [hzero.mp h] at hisZero
      simpa using lt_of_le_of_ne hnonneg hne.symm

theorem magnitudeAtMost_iff (x : Binary64) (n : Nat) :
    x.magnitudeAtMost n = true ↔ x.magnitude ≤ n := by
  unfold magnitudeAtMost magnitude
  by_cases hpower : 0 ≤ x.power
  · have hscale : (2 : ℚ) ^ x.power = ((2 ^ x.power.toNat : Nat) : ℚ) := by
      rw [Nat.cast_pow, ← zpow_natCast, Int.toNat_of_nonneg hpower]
      rfl
    rw [if_pos hpower, hscale, decide_eq_true_iff, Nat.pow_eq]
    exact_mod_cast Iff.rfl
  · have hpositive : (0 : ℚ) < ((2 ^ (-x.power).toNat : Nat) : ℚ) := by positivity
    have hscale : (2 : ℚ) ^ x.power = ((2 ^ (-x.power).toNat : Nat) : ℚ)⁻¹ := by
      rw [Nat.cast_pow, ← zpow_natCast, Int.toNat_of_nonneg (by omega), ← zpow_neg, neg_neg]
      rfl
    rw [if_neg hpower, hscale, decide_eq_true_iff, Nat.pow_eq, ← div_eq_mul_inv,
      div_le_iff₀ hpositive]
    exact_mod_cast Iff.rfl

/-- The magnitude is a natural number where it has no fraction, and is its whole part there. -/
theorem magnitude_eq_natCast_iff (x : Binary64) (n : Nat) :
    x.magnitude = n ↔ x.isWhole = true ∧ x.wholePart = n := by
  unfold magnitude isWhole wholePart
  by_cases hpower : 0 ≤ x.power
  · have hscale : (2 : ℚ) ^ x.power = ((2 ^ x.power.toNat : Nat) : ℚ) := by
      rw [Nat.cast_pow, ← zpow_natCast, Int.toNat_of_nonneg hpower]
      rfl
    rw [if_pos hpower, hscale, Nat.pow_eq]
    simp only [hpower, decide_true, Bool.true_or, true_and]
    exact_mod_cast Iff.rfl
  · have hpositive : 0 < 2 ^ (-x.power).toNat := Nat.two_pow_pos _
    have hscale : (2 : ℚ) ^ x.power = ((2 ^ (-x.power).toNat : Nat) : ℚ)⁻¹ := by
      rw [Nat.cast_pow, ← zpow_natCast, Int.toNat_of_nonneg (by omega), ← zpow_neg, neg_neg]
      rfl
    rw [if_neg hpower, hscale, Nat.pow_eq, ← div_eq_mul_inv,
      div_eq_iff (Nat.cast_ne_zero.mpr hpositive.ne')]
    simp only [hpower, decide_false, Bool.false_or, beq_iff_eq]
    generalize 2 ^ (-x.power).toNat = unit at hpositive
    constructor
    · intro h
      have hproduct : x.coefficient = n * unit := by exact_mod_cast h
      rw [hproduct]
      exact ⟨Nat.mul_mod_left n unit, Nat.mul_div_cancel n hpositive⟩
    · rintro ⟨hwhole, rfl⟩
      exact_mod_cast (Nat.div_mul_cancel (Nat.dvd_of_mod_eq_zero hwhole)).symm

theorem value_eq_natCast_iff (x : Binary64) (n : Nat) :
    x.value = n ↔ x.isAtLeastZero = true ∧ x.isWhole = true ∧ x.wholePart = n := by
  rw [← magnitude_eq_natCast_iff]
  have hnonneg := x.magnitude_nonneg
  have hzero := x.magnitude_eq_zero_iff
  have hn : (0 : ℚ) ≤ n := Nat.cast_nonneg n
  unfold isAtLeastZero value
  cases hnegative : x.isNegative with
  | false => simp
  | true =>
    cases hisZero : x.isZero with
    | true => simp [hzero.mpr hisZero]
    | false =>
      have hpositive : 0 < x.magnitude :=
        lt_of_le_of_ne hnonneg fun h => by simp [hzero.mp h.symm] at hisZero
      simp only [if_true, Bool.not_true, Bool.or_self, Bool.false_eq_true, false_and, iff_false]
      exact (lt_of_lt_of_le (neg_neg_of_pos hpositive) hn).ne

end KustoSearch.Binary64
