import KustoSearch.Proofs.Decimal.Rounding

/-! # Shortest digits of whole numbers

A whole number stands on the grid of the whole numbers, so its shortest digits are found there or
on a coarser grid, and what is written is a whole number as well. Main result: `plainText_whole`.
-/

namespace KustoSearch.Decimal

open Text (decimal)

/-! ## The place of the leading digit -/

theorem compareScaled_gt_iff (x : Binary64) (k : Int) :
    (compareScaled 1 k x.coefficient x.power == .gt) = true ↔ x.magnitude < (10 : ℚ) ^ k := by
  rw [compareScaled_eq, beq_iff_eq, compare_gt_iff_gt, Binary64.magnitude, Nat.cast_one, one_mul]

/-- The search for the place ends above the number, or after its last step. -/
theorem scaleFrom_above (x : Binary64) (steps : Nat) (k : Int) :
    x.magnitude < (10 : ℚ) ^ scaleFrom x steps k ∨ scaleFrom x steps k = k + steps := by
  induction steps generalizing k with
  | zero => exact .inr (by simp [scaleFrom])
  | succ steps ih =>
    rw [scaleFrom]
    split_ifs with habove
    · exact .inl ((compareScaled_gt_iff x k).mp habove)
    · rcases ih (k + 1) with hfound | hlast
      · exact .inl hfound
      · exact .inr (by rw [hlast]; push_cast; ring)

/-- The search does not go past a place above the number. -/
theorem scaleFrom_le {x : Binary64} {steps j : Nat} {k : Int} (hj : j < steps)
    (h : x.magnitude < (10 : ℚ) ^ (k + j)) : scaleFrom x steps k ≤ k + j := by
  induction steps generalizing j k with
  | zero => omega
  | succ steps ih =>
    rw [scaleFrom]
    split_ifs with habove
    · omega
    · cases j with
      | zero =>
        rw [Nat.cast_zero, add_zero] at h
        exact absurd ((compareScaled_gt_iff x k).mpr h) habove
      | succ j =>
        have hshift : k + (j + 1 : Nat) = k + 1 + j := by push_cast; ring
        rw [hshift] at h ⊢
        exact ih (by omega) h

/-- The number of binary places of a number bounds it. -/
theorem magnitude_lt (x : Binary64) (h : x.isZero = false) :
    x.magnitude < (2 : ℚ) ^ (x.power + Nat.log2 x.coefficient + 1) := by
  have hne : x.coefficient ≠ 0 := by simpa [Binary64.isZero] using h
  have hcoefficient : (x.coefficient : ℚ) < 2 ^ (Nat.log2 x.coefficient + 1) := by
    exact_mod_cast Nat.lt_log2_self
  have hplaces : x.power + Nat.log2 x.coefficient + 1 =
      ((Nat.log2 x.coefficient + 1 : Nat) : Int) + x.power := by push_cast; ring
  rw [Binary64.magnitude, hplaces, zpow_add₀ (by decide), zpow_natCast]
  exact mul_lt_mul_of_pos_right hcoefficient (zpow_pos (by decide) _)

theorem isZero_of_one_le {x : Binary64} (h : 1 ≤ x.magnitude) : x.isZero = false := by
  rw [Bool.eq_false_iff]
  intro hzero
  rw [(x.magnitude_eq_zero_iff).mpr hzero] at h
  exact absurd h (by norm_num)

/-- The binary places of a number of at least one, from which the search for its decimal place
starts. -/
theorem exists_places {x : Binary64} (h : 1 ≤ x.magnitude) :
    ∃ b : Nat, x.power + Nat.log2 x.coefficient = b ∧ x.magnitude < (2 : ℚ) ^ (b + 1) ∧
      scale x = scaleFrom x 4 ((b * 30103 / 100000 : Nat) - 1) := by
  have hlt := magnitude_lt x (isZero_of_one_le h)
  have hplaces : 0 < x.power + Nat.log2 x.coefficient + 1 :=
    (one_lt_zpow_iff_right₀ (by norm_num)).mp (h.trans_lt hlt)
  obtain ⟨b, hb⟩ := Int.eq_ofNat_of_zero_le (by omega : 0 ≤ x.power + Nat.log2 x.coefficient)
  refine ⟨b, hb, ?_, ?_⟩
  · rw [hb] at hlt
    exact_mod_cast hlt
  · rw [scale]
    simp only [hb]
    rw [Int.fdiv_eq_ediv_of_nonneg _ (by decide)]
    norm_cast

/-- A number of at least one has its leading digit before the point. -/
theorem one_le_scale {x : Binary64} (h : 1 ≤ x.magnitude) : 1 ≤ scale x := by
  obtain ⟨b, _, _, hscale⟩ := exists_places h
  rcases scaleFrom_above x 4 ((b * 30103 / 100000 : Nat) - 1) with hfound | hlast
  · rw [← hscale] at hfound
    exact (one_lt_zpow_iff_right₀ (by norm_num)).mp (h.trans_lt hfound)
  · rw [hscale, hlast]
    omega

/-- A number of at least one with a binary fraction has at most seventeen digits before the
point. -/
theorem scale_le {x : Binary64} (h : 1 ≤ x.magnitude) (hpower : x.power < 0) : scale x ≤ 17 := by
  obtain ⟨b, hb, hlt, hscale⟩ := exists_places h
  have hlog : Nat.log2 x.coefficient < 53 := by
    rcases Nat.eq_zero_or_pos x.coefficient with hzero | hpos
    · rw [hzero]
      decide
    · exact Rounding.log2_lt hpos x.coefficient_lt
  have hall : ∀ b < 52, 2 ^ (b + 1) ≤ 10 ^ (b * 30103 / 100000 + 2) := by decide
  have hten : (2 : ℚ) ^ (b + 1) ≤ 10 ^ (b * 30103 / 100000 + 2) := by
    exact_mod_cast hall b (by omega)
  have hplace : ((b * 30103 / 100000 : Nat) : Int) - 1 + (3 : Nat) =
      (b * 30103 / 100000 + 2 : Nat) := by omega
  have hle := @scaleFrom_le x 4 3 ((b * 30103 / 100000 : Nat) - 1) (by decide) (by
    rw [hplace, zpow_natCast]
    exact hlt.trans_le hten)
  rw [hscale]
  omega

/-! ## The grid that digits are found on -/

theorem exponent_of_onGrid? {tie : TieRule} {x : Binary64} {exponent : Int} {d : Numeral}
    (h : onGrid? tie x exponent = some d) : d.exponent = exponent := by
  unfold onGrid? at h
  dsimp only at h
  split at h
  · cases h
    unfold nearer
    split
    · rfl
    · rfl
    · cases tie with
      | upward => rfl
      | toEven =>
        dsimp only
        split_ifs <;> rfl
  all_goals cases h
  all_goals rfl

/-- A whole number stands on the grid of the whole numbers. -/
theorem onGrid?_whole (tie : TieRule) {x : Binary64} {n : Nat} (hn : x.magnitude = n)
    (h : x.isZero = false) : onGrid? tie x 0 ≠ none := by
  have hfloor : gridFloor x 0 = n := by
    have hwhole := ((x.magnitude_eq_natCast_iff n).mp hn).2
    rw [gridFloor, ← hwhole, Binary64.wholePart]
    by_cases hpower : 0 ≤ x.power
    · have hnone : (-x.power).toNat = 0 := by omega
      rw [if_pos hpower, hnone]
      simp
    · have hnone : x.power.toNat = 0 := by omega
      rw [if_neg hpower, hnone]
      simp
  have hreads : readsBack x ⟨gridFloor x 0, 0⟩ = true := by
    apply readsBack_of_roundsTo
    have hvalue : (⟨gridFloor x 0, 0⟩ : Numeral).value = x.magnitude := by
      rw [Numeral.value, hfloor, hn, zpow_zero, mul_one]
    rw [hvalue]
    exact roundsTo_magnitude h
  unfold onGrid?
  dsimp only
  rw [hreads]
  cases readsBack x ⟨gridFloor x 0 + 1, 0⟩ <;> simp

theorem le_exponent_stripZeros (digits : Nat) (exponent : Int) :
    exponent ≤ (stripZeros digits exponent).exponent := by
  fun_induction stripZeros digits exponent with
  | case1 digits exponent h ih => omega
  | case2 digits exponent h => exact le_refl _

/-- The grids are tried from the coarsest on, so none behind the point comes before the grid of the
whole numbers. -/
theorem exponent_of_findSome? {tie : TieRule} {x : Binary64} {k : Int} {d : Numeral} (hk : 1 ≤ k)
    (hwhole : onGrid? tie x 0 ≠ none)
    (h : (List.range 17).findSome? (fun i => onGrid? tie x (k - (i + 1 : Nat))) = some d) :
    0 ≤ d.exponent := by
  obtain ⟨before, i, after, hrange, hd, hnone⟩ := List.findSome?_eq_some_iff.mp h
  rw [exponent_of_onGrid? hd]
  by_contra hneg
  -- the grid of the whole numbers has the index `j`, and something was found on it
  obtain ⟨j, hj⟩ := Int.eq_ofNat_of_zero_le (Int.sub_nonneg_of_le hk)
  have hi : i ∈ List.range 17 := by simp [hrange]
  have hmem : j ∈ List.range 17 := by
    rw [List.mem_range] at hi ⊢
    omega
  have hsorted : (List.range 17).Pairwise (· < ·) := List.pairwise_lt_range
  rw [hrange, List.pairwise_append, List.pairwise_cons] at hsorted
  rw [hrange, List.mem_append, List.mem_cons] at hmem
  have hzero : k - (j + 1 : Nat) = 0 := by omega
  rcases hmem with hmem | rfl | hmem
  · have hgrid := hnone j hmem
    rw [hzero] at hgrid
    exact hwhole hgrid
  · omega
  · have hlater := hsorted.2.1.1 j hmem
    omega

theorem lt_of_findSome?_eq_none {tie : TieRule} {x : Binary64} {k : Int} (hk : 1 ≤ k)
    (hwhole : onGrid? tie x 0 ≠ none)
    (h : (List.range 17).findSome? (fun i => onGrid? tie x (k - (i + 1 : Nat))) = none) :
    17 < k := by
  rw [List.findSome?_eq_none_iff] at h
  by_contra hle
  obtain ⟨j, hj⟩ := Int.eq_ofNat_of_zero_le (Int.sub_nonneg_of_le hk)
  have hzero : k - (j + 1 : Nat) = 0 := by omega
  have hgrid := h j (List.mem_range.mpr (by omega))
  rw [hzero] at hgrid
  exact hwhole hgrid

/-- The shortest digits of a whole number have no place behind the point. -/
theorem exponent_shortest_nonneg (tie : TieRule) {x : Binary64} {n : Nat} (hn : x.magnitude = n)
    (hone : 1 ≤ x.magnitude) : 0 ≤ (shortest tie x).exponent := by
  have h := isZero_of_one_le hone
  have hscale := one_le_scale hone
  have hwhole := onGrid?_whole tie hn h
  rw [shortest, if_neg (by simp [h])]
  dsimp only
  refine le_trans ?_ (le_exponent_stripZeros _ _)
  cases hfound : (List.range 17).findSome? fun i => onGrid? tie x (scale x - (i + 1 : Nat)) with
  | none =>
    rw [Option.getD_none, exact]
    split_ifs with hpower
    · exact le_refl _
    · have hlast := scale_le hone (Int.not_le.mp hpower)
      exact absurd (lt_of_findSome?_eq_none hscale hwhole hfound) (Int.not_lt.mpr hlast)
  | some d =>
    rw [Option.getD_some]
    exact exponent_of_findSome? hscale hwhole hfound

/-! ## The text of a whole number -/

theorem magnitudeText_whole {d : Numeral} (hexponent : 0 ≤ d.exponent) (hdigits : 0 < d.digits) :
    plain.magnitudeText d = decimal (d.digits * 10 ^ d.exponent.toNat) := by
  have hlength : 0 < (decimal d.digits).length := by simp [List.length_pos_iff]
  have hpoint : d.exponent + (decimal d.digits).length - 1 + 1 =
      ((decimal d.digits).length + d.exponent.toNat : Nat) := by omega
  show Layout.positionalText false (decimal d.digits) _ = _
  rw [hpoint, Layout.positionalText, if_neg (by omega), Int.toNat_natCast,
    if_pos (Nat.le_add_right _ _), Nat.add_sub_cancel_left, Text.decimal_mul_pow hdigits]
  exact List.append_nil _

/-- A whole number is written as a whole number that rounds to it. -/
theorem plainText_whole {x : Binary64} {n : Nat} (hn : x.magnitude = n) (hone : 1 ≤ x.magnitude) :
    ∃ v : Nat, (shortest .upward x).value = v ∧ RoundsTo v x ∧
      plainText x = Text.integerText (if x.isNegative then -(v : Int) else v) := by
  have hexponent := exponent_shortest_nonneg .upward hn hone
  have hisZero := isZero_of_one_le hone
  have hrounds := roundsTo_shortest .upward hisZero
  have hvalue : (shortest .upward x).value =
      ((shortest .upward x).digits * 10 ^ (shortest .upward x).exponent.toNat : Nat) := by
    rw [Numeral.value]
    nth_rewrite 1 [← Int.toNat_of_nonneg hexponent]
    rw [zpow_natCast]
    push_cast
    rfl
  have hpos : 0 < (shortest .upward x).value := (lower_pos hisZero).trans_le hrounds.lower
  have hdigits : 0 < (shortest .upward x).digits := by
    rw [hvalue, Nat.cast_pos] at hpos
    exact Nat.pos_of_mul_pos_right hpos
  refine ⟨_, hvalue, hvalue ▸ hrounds, ?_⟩
  rw [hvalue, Nat.cast_pos] at hpos
  have htext : plain.magnitudeText (shortest plain.tie x) =
      decimal ((shortest .upward x).digits * 10 ^ (shortest .upward x).exponent.toNat) :=
    magnitudeText_whole hexponent hdigits
  rw [plainText, Layout.text, htext]
  generalize (shortest .upward x).digits * 10 ^ (shortest .upward x).exponent.toNat = v at hpos
  cases x.isNegative with
  | true =>
    have hneg : -(v : Int) < 0 := by omega
    simp only [if_true, Text.integerText, if_pos hneg, Int.natAbs_neg, Int.natAbs_natCast]
    exact String.ofList_append
  | false =>
    have hnonneg : ¬ (v : Int) < 0 := by omega
    simp only [Bool.false_eq_true, if_false, Text.integerText, if_neg hnonneg, Int.natAbs_natCast,
      List.nil_append]
    rfl

/-- Numbers without a binary place in front of the point lie so close that no other whole number
rounds to the same one. -/
theorem eq_of_roundsTo_whole {x : Binary64} {n v : Nat} (hn : x.magnitude = n)
    (hpower : x.power ≤ 0) (hv : RoundsTo v x) : v = n := by
  have hunit : (0 : ℚ) < 2 ^ (x.power - 2) := zpow_pos (by decide) _
  have hquarter : (2 : ℚ) ^ x.power = 4 * 2 ^ (x.power - 2) := by
    rw [zpow_sub₀ (by decide)]
    norm_num
    ring
  have hsmall : (2 : ℚ) ^ x.power ≤ 1 := zpow_le_one_of_nonpos₀ (by norm_num) hpower
  have hquarters : (4 * x.coefficient : ℚ) ≤ quartersBelow x + 2 := by
    have hcount : 4 * x.coefficient ≤ quartersBelow x + 2 := by
      unfold quartersBelow
      split_ifs <;> omega
    exact_mod_cast hcount
  have hbelow := mul_le_mul_of_nonneg_right hquarters hunit.le
  have hlow := hv.lower
  have hhigh := hv.upper
  rw [Binary64.magnitude, hquarter] at hn
  rw [hquarter] at hsmall
  rw [lower] at hlow
  rw [upper] at hhigh
  push_cast at hhigh
  have hless : (v : ℚ) < n + 1 := by
    rw [← hn]
    linarith
  have hmore : (n : ℚ) < v + 1 := by
    rw [← hn]
    linarith
  have hle : v < n + 1 := by exact_mod_cast hless
  have hge : n < v + 1 := by exact_mod_cast hmore
  omega

theorem roundsTo_zero : RoundsTo (0 : Nat) .zero := by
  have hcoefficient : Binary64.zero.coefficient = 0 := by decide
  have hnarrow : Binary64.zero.narrowBelow = false := by decide
  have hquarters : quartersBelow .zero = 0 := by
    rw [quartersBelow, hnarrow, hcoefficient]
    rfl
  refine ⟨?_, ?_, fun hodd => ?_⟩
  · rw [lower, hquarters, Nat.cast_zero, zero_mul]
  · rw [upper, Nat.cast_zero]
    exact mul_nonneg (Nat.cast_nonneg _) (zpow_nonneg (by decide) _)
  · rw [hcoefficient] at hodd
    cases hodd

/-- The first whole number that another one rounds to as well is still written out itself. -/
theorem shortest_two_pow {x : Binary64} (h : RoundsTo (2 ^ 53 : Nat) x) :
    (shortest .upward x).value = (2 ^ 53 : Nat) := by
  -- the number is one of two, which differ in their sign only
  have hcase : ∀ y : Binary64, x.isNegative = y.isNegative → y.coefficient = 2 ^ 52 →
      y.power = 1 → shortest .upward y = ⟨9007199254740992, 0⟩ →
      (shortest .upward x).value = (2 ^ 53 : Nat) := by
    intro y hsign hcoefficient hpower hdigits
    have hmagnitude : y.magnitude = (2 ^ 53 : Nat) := by
      rw [Binary64.magnitude, hcoefficient, hpower]
      norm_num
    have hisZero : y.isZero = false := by
      rw [Binary64.isZero, hcoefficient]
      rfl
    have hy : RoundsTo (2 ^ 53 : Nat) y := hmagnitude ▸ roundsTo_magnitude hisZero
    rw [eq_of_roundsTo hsign h hy, hdigits, Numeral.value]
    norm_num
  cases hsign : x.isNegative with
  | false =>
    exact hcase ⟨0x4340000000000000, by decide⟩ (hsign.trans (by decide)) (by decide)
      (by decide) (by decide +kernel)
  | true =>
    exact hcase ⟨0xC340000000000000, by decide⟩ (hsign.trans (by decide)) (by decide)
      (by decide) (by decide +kernel)

end KustoSearch.Decimal
