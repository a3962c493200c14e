import KustoSearch.Decimal.Shortest
import KustoSearch.Proofs.Decimal.Layout

/-! # Shortest digits tell numbers apart

The reals that round to one binary number lie below those that round to a greater one, so digits
that read back to a number belong to no other: `shortest_injective`.
-/

namespace KustoSearch

/-! ## The parts of a binary number -/

namespace Binary64

theorem fractionBits_eq (x : Binary64) : x.fractionBits = x.bits.toNat % 2 ^ 52 := by
  have hmask : (0xFFFFFFFFFFFFF : UInt64).toNat = 2 ^ 52 - 1 := by decide
  rw [fractionBits, UInt64.toNat_and, hmask, Nat.and_two_pow_sub_one_eq_mod]

theorem exponentBits_eq (x : Binary64) : x.exponentBits = x.bits.toNat / 2 ^ 52 % 2 ^ 11 := by
  have hmask : (0x7FF : UInt64).toNat = 2 ^ 11 - 1 := by decide
  have hshift : (52 : UInt64).toNat % 64 = 52 := by decide
  rw [exponentBits, UInt64.toNat_and, UInt64.toNat_shiftRight, hmask,
    Nat.and_two_pow_sub_one_eq_mod, hshift, Nat.shiftRight_eq_div_pow]

theorem isNegative_iff (x : Binary64) : x.isNegative = true ↔ x.bits.toNat / 2 ^ 63 = 1 := by
  have hshift : (63 : UInt64).toNat % 64 = 63 := by decide
  rw [isNegative, beq_iff_eq, ← UInt64.toNat_inj, UInt64.toNat_shiftRight, hshift,
    Nat.shiftRight_eq_div_pow]
  rfl

theorem fractionBits_lt (x : Binary64) : x.fractionBits < 2 ^ 52 := by
  rw [fractionBits_eq]
  exact Nat.mod_lt _ (by decide)

theorem coefficient_lt (x : Binary64) : x.coefficient < 2 ^ 53 := by
  have hfraction := x.fractionBits_lt
  unfold coefficient
  split_ifs <;> omega

/-- Sign, exponent and fraction make up a number. -/
theorem eq_of_parts {x y : Binary64} (hsign : x.isNegative = y.isNegative)
    (hexponent : x.exponentBits = y.exponentBits) (hfraction : x.fractionBits = y.fractionBits) :
    x = y := by
  have hx : x.bits.toNat < 2 ^ 64 := x.bits.toNat_lt
  have hy : y.bits.toNat < 2 ^ 64 := y.bits.toNat_lt
  have hhigh : x.bits.toNat / 2 ^ 63 = 1 ↔ y.bits.toNat / 2 ^ 63 = 1 := by
    rw [← isNegative_iff, ← isNegative_iff, hsign]
  rw [exponentBits_eq, exponentBits_eq] at hexponent
  rw [fractionBits_eq, fractionBits_eq] at hfraction
  have hbits : x.bits = y.bits := by
    rw [← UInt64.toNat_inj]
    omega
  cases x
  cases y
  simpa using hbits

end Binary64

namespace Decimal

/-! ## Comparison of scaled numbers -/

theorem zpow_mul_pow_toNat {b : ℚ} (hb : b ≠ 0) (i : Int) :
    b ^ i * b ^ (-i).toNat = b ^ i.toNat := by
  rw [← zpow_natCast, ← zpow_natCast, ← zpow_add₀ hb]
  congr 1
  omega

/-- Both sides are compared after the same positive factor has made whole numbers of them. -/
theorem compareScaled_eq (a : Nat) (i : Int) (n : Nat) (j : Int) :
    compareScaled a i n j = compare ((a : ℚ) * 10 ^ i) ((n : ℚ) * 2 ^ j) := by
  have hfactor : (0 : ℚ) < 10 ^ (-i).toNat * 2 ^ (-j).toNat := by positivity
  have hleft : ((a * 10 ^ i.toNat * 2 ^ (-j).toNat : Nat) : ℚ) =
      (a : ℚ) * 10 ^ i * (10 ^ (-i).toNat * 2 ^ (-j).toNat) := by
    push_cast
    rw [← zpow_mul_pow_toNat (by decide : (10 : ℚ) ≠ 0) i]
    ring
  have hright : ((n * 2 ^ j.toNat * 10 ^ (-i).toNat : Nat) : ℚ) =
      (n : ℚ) * 2 ^ j * (10 ^ (-i).toNat * 2 ^ (-j).toNat) := by
    push_cast
    rw [← zpow_mul_pow_toNat (by decide : (2 : ℚ) ≠ 0) j]
    ring
  have hcast : compareScaled a i n j =
      compare ((a * 10 ^ i.toNat * 2 ^ (-j).toNat : Nat) : ℚ)
        ((n * 2 ^ j.toNat * 10 ^ (-i).toNat : Nat) : ℚ) := by
    unfold compareScaled
    simp only [Nat.pow_eq]
    rcases lt_trichotomy (a * 10 ^ i.toNat * 2 ^ (-j).toNat) (n * 2 ^ j.toNat * 10 ^ (-i).toNat)
      with h | h | h
    · rw [compare_lt_iff_lt.mpr h, compare_lt_iff_lt.mpr (by exact_mod_cast h)]
    · rw [h, compare_eq_iff_eq.mpr rfl, compare_eq_iff_eq.mpr rfl]
    · rw [compare_gt_iff_gt.mpr h, compare_gt_iff_gt.mpr (by exact_mod_cast h)]
  rw [hcast, hleft, hright]
  rcases lt_trichotomy ((a : ℚ) * 10 ^ i) ((n : ℚ) * 2 ^ j) with h | h | h
  · rw [compare_lt_iff_lt.mpr h, compare_lt_iff_lt.mpr (mul_lt_mul_of_pos_right h hfactor)]
  · rw [h, compare_eq_iff_eq.mpr rfl, compare_eq_iff_eq.mpr rfl]
  · rw [compare_gt_iff_gt.mpr h, compare_gt_iff_gt.mpr (mul_lt_mul_of_pos_right h hfactor)]

/-! ## Rounding intervals -/

/-- The end of the rounding interval below, in quarters of the last place. -/
def quartersBelow (x : Binary64) : Nat :=
  if x.narrowBelow then 4 * x.coefficient - 1 else 4 * x.coefficient - 2

/-- The real half-way to the neighbour towards zero. -/
def lower (x : Binary64) : ℚ := quartersBelow x * 2 ^ (x.power - 2)

/-- The real half-way to the other neighbour. -/
def upper (x : Binary64) : ℚ := (4 * x.coefficient + 2 : Nat) * 2 ^ (x.power - 2)

/-- The reals that round to the magnitude of a number; the ends do where the coefficient is
even. -/
structure RoundsTo (v : ℚ) (x : Binary64) : Prop where
  lower : Decimal.lower x ≤ v
  upper : v ≤ Decimal.upper x
  strict : x.coefficient % 2 = 1 → Decimal.lower x < v ∧ v < Decimal.upper x

theorem roundsTo_of_readsBack {x : Binary64} {d : Numeral} (h : readsBack x d = true) :
    RoundsTo d.value x := by
  have hparity := Nat.mod_two_eq_zero_or_one x.coefficient
  simp only [readsBack, compareScaled_eq, Bool.and_eq_true, Bool.or_eq_true, beq_iff_eq,
    compare_gt_iff_gt, compare_lt_iff_lt, compare_eq_iff_eq] at h
  obtain ⟨hlow, hhigh⟩ := h
  constructor
  · rcases hlow with hlow | ⟨_, hlow⟩
    · exact hlow.le
    · exact hlow.ge
  · rcases hhigh with hhigh | ⟨_, hhigh⟩
    · exact hhigh.le
    · exact hhigh.le
  · intro hodd
    constructor
    · rcases hlow with hlow | ⟨heven, _⟩
      · exact hlow
      · omega
    · rcases hhigh with hhigh | ⟨heven, _⟩
      · exact hhigh
      · omega

theorem readsBack_of_roundsTo {x : Binary64} {d : Numeral} (h : RoundsTo d.value x) :
    readsBack x d = true := by
  obtain ⟨hlow, hhigh, hstrict⟩ := h
  simp only [readsBack, compareScaled_eq, Bool.and_eq_true, Bool.or_eq_true, beq_iff_eq,
    compare_gt_iff_gt, compare_lt_iff_lt, compare_eq_iff_eq]
  rcases Nat.mod_two_eq_zero_or_one x.coefficient with heven | hodd
  · exact ⟨hlow.lt_or_eq.imp_right fun heq => ⟨heven, heq.symm⟩,
      hhigh.lt_or_eq.imp_right fun heq => ⟨heven, heq⟩⟩
  · exact ⟨.inl (hstrict hodd).1, .inl (hstrict hodd).2⟩

/-- Whether the magnitude of one number comes before that of another. -/
def Before (x y : Binary64) : Prop :=
  x.exponentBits < y.exponentBits ∨
    (x.exponentBits = y.exponentBits ∧ x.fractionBits < y.fractionBits)

/-- A number before another one in the same place values: at least one step lies between them. -/
theorem quarters_of_same_power {x y : Binary64} (h : Before x y) (hpower : x.power = y.power) :
    4 * x.coefficient + 2 ≤ quartersBelow y ∧
      (x.coefficient % 2 = 0 → y.coefficient % 2 = 0 → 4 * x.coefficient + 2 < quartersBelow y) := by
  have hx := x.fractionBits_lt
  have hy := y.fractionBits_lt
  have hnarrow : y.narrowBelow = false := by
    unfold Before at h
    unfold Binary64.power at hpower
    simp only [Binary64.narrowBelow, Bool.and_eq_false_iff, beq_eq_false_iff_ne,
      decide_eq_false_iff_not, beq_iff_eq] at *
    split_ifs at hpower <;> omega
  have hcoefficient : x.coefficient + 1 ≤ y.coefficient := by
    unfold Before at h
    unfold Binary64.power at hpower
    unfold Binary64.coefficient
    simp only [beq_iff_eq] at *
    split_ifs at hpower ⊢ <;> omega
  rw [quartersBelow, hnarrow]
  simp only [Bool.false_eq_true, if_false]
  constructor
  · omega
  · omega

/-- A number before another one in smaller place values: the step down from the other one is at
least half of its last place. -/
theorem quarters_of_lt_power {x y : Binary64} (hpower : x.power < y.power) :
    4 * x.coefficient + 2 ≤ 2 * quartersBelow y ∧
      (x.coefficient % 2 = 0 → 4 * x.coefficient + 2 < 2 * quartersBelow y) := by
  have hy := y.fractionBits_lt
  have hsmall := x.coefficient_lt
  have hlarge : 2 ^ 52 ≤ y.coefficient ∧ (y.narrowBelow = false → 2 ^ 52 < y.coefficient) := by
    unfold Binary64.power at hpower
    unfold Binary64.coefficient
    simp only [Binary64.narrowBelow, Bool.and_eq_false_iff, beq_eq_false_iff_ne,
      decide_eq_false_iff_not, beq_iff_eq] at *
    split_ifs at hpower ⊢ <;> omega
  unfold quartersBelow
  split_ifs with hnarrow
  · omega
  · have hmore := hlarge.2 (by simpa using hnarrow)
    omega

/-- Rounding intervals follow one another, and share an end only where one of them is open. -/
theorem upper_le_lower {x y : Binary64} (h : Before x y) :
    upper x ≤ lower y ∧
      (x.coefficient % 2 = 0 → y.coefficient % 2 = 0 → upper x < lower y) := by
  have hunit : (0 : ℚ) < 2 ^ (x.power - 2) := zpow_pos (by decide) _
  rcases lt_trichotomy x.power y.power with hpower | hpower | hpower
  · obtain ⟨hle, hlt⟩ := quarters_of_lt_power hpower
    have hscale : 2 * (2 : ℚ) ^ (x.power - 2) ≤ 2 ^ (y.power - 2) := by
      rw [← zpow_one_add₀ (by decide)]
      exact zpow_le_zpow_right₀ (by norm_num) (by omega)
    have hlower : ((2 * quartersBelow y : Nat) : ℚ) * 2 ^ (x.power - 2) ≤ lower y := by
      have hmul := mul_le_mul_of_nonneg_left hscale (Nat.cast_nonneg (quartersBelow y) : (0 : ℚ) ≤ _)
      unfold lower
      push_cast
      linarith
    constructor
    · refine le_trans ?_ hlower
      exact mul_le_mul_of_nonneg_right (by exact_mod_cast hle) hunit.le
    · intro hx _
      refine lt_of_lt_of_le ?_ hlower
      exact mul_lt_mul_of_pos_right (by exact_mod_cast hlt hx) hunit
  · obtain ⟨hle, hlt⟩ := quarters_of_same_power h hpower
    unfold upper lower
    rw [← hpower]
    constructor
    · exact mul_le_mul_of_nonneg_right (by exact_mod_cast hle) hunit.le
    · intro hx hy
      exact mul_lt_mul_of_pos_right (by exact_mod_cast hlt hx hy) hunit
  · exfalso
    unfold Before at h
    unfold Binary64.power at hpower
    simp only [beq_iff_eq] at hpower
    split_ifs at hpower <;> omega

/-- No real rounds to two magnitudes. -/
theorem not_before_of_roundsTo {x y : Binary64} {v : ℚ} (hx : RoundsTo v x) (hy : RoundsTo v y) :
    ¬ Before x y := by
  intro h
  obtain ⟨hle, hlt⟩ := upper_le_lower h
  rcases Nat.mod_two_eq_zero_or_one x.coefficient with hxe | hxo
  · rcases Nat.mod_two_eq_zero_or_one y.coefficient with hye | hyo
    · exact absurd (lt_of_lt_of_le (lt_of_le_of_lt hx.upper (hlt hxe hye)) hy.lower) (lt_irrefl v)
    · exact absurd (lt_of_le_of_lt (le_trans hx.upper hle) (hy.strict hyo).1) (lt_irrefl v)
  · exact absurd (lt_of_lt_of_le (hx.strict hxo).2 (le_trans hle hy.lower)) (lt_irrefl v)

theorem eq_of_roundsTo {x y : Binary64} {v : ℚ} (hsign : x.isNegative = y.isNegative)
    (hx : RoundsTo v x) (hy : RoundsTo v y) : x = y := by
  have hxy := not_before_of_roundsTo hx hy
  have hyx := not_before_of_roundsTo hy hx
  unfold Before at hxy hyx
  exact Binary64.eq_of_parts hsign (by omega) (by omega)

/-! ## Shortest digits -/

theorem lower_pos {x : Binary64} (h : x.isZero = false) : 0 < lower x := by
  have hne : x.coefficient ≠ 0 := by simpa [Binary64.isZero] using h
  have hquarters : 0 < quartersBelow x := by
    unfold quartersBelow
    split_ifs <;> omega
  exact mul_pos (by exact_mod_cast hquarters) (zpow_pos (by decide) _)

theorem stripZeros_value (digits : Nat) (exponent : Int) :
    (stripZeros digits exponent).value = digits * (10 : ℚ) ^ exponent := by
  fun_induction stripZeros digits exponent with
  | case1 digits exponent h ih =>
    have hdigits : digits = 10 * (digits / 10) := by omega
    rw [ih, zpow_add₀ (by decide), zpow_one]
    nth_rewrite 2 [hdigits]
    push_cast
    ring
  | case2 digits exponent h => rfl

theorem exact_value (x : Binary64) : (exact x).value = x.coefficient * (2 : ℚ) ^ x.power := by
  unfold exact Numeral.value
  split_ifs with hp
  · have hcast : (x.power.toNat : Int) = x.power := Int.toNat_of_nonneg hp
    rw [Nat.pow_eq]
    push_cast
    rw [← zpow_natCast, hcast, mul_one]
  · have hcast : ((-x.power).toNat : Int) = -x.power := Int.toNat_of_nonneg (by omega)
    rw [Nat.pow_eq]
    push_cast
    rw [← zpow_natCast, hcast, mul_assoc, zpow_neg, ← inv_zpow, ← mul_zpow]
    norm_num

/-- A number other than zero rounds to itself. -/
theorem roundsTo_magnitude {x : Binary64} (h : x.isZero = false) :
    RoundsTo (x.coefficient * (2 : ℚ) ^ x.power) x := by
  have hne : x.coefficient ≠ 0 := by simpa [Binary64.isZero] using h
  have hunit : (0 : ℚ) < 2 ^ (x.power - 2) := zpow_pos (by decide) _
  have hvalue : x.coefficient * (2 : ℚ) ^ x.power =
      (4 * x.coefficient : Nat) * 2 ^ (x.power - 2) := by
    have hquarter : (2 : ℚ) ^ x.power = 4 * 2 ^ (x.power - 2) := by
      have hfour : (4 : ℚ) = 2 ^ (2 : Int) := by norm_num
      rw [hfour, ← zpow_add₀ (by decide)]
      congr 1
      omega
    rw [hquarter]
    push_cast
    ring
  have hbelow : quartersBelow x < 4 * x.coefficient := by
    unfold quartersBelow
    split_ifs <;> omega
  have hlow : lower x < x.coefficient * (2 : ℚ) ^ x.power := by
    rw [hvalue]
    exact mul_lt_mul_of_pos_right (by exact_mod_cast hbelow) hunit
  have hhigh : x.coefficient * (2 : ℚ) ^ x.power < upper x := by
    rw [hvalue]
    exact mul_lt_mul_of_pos_right (by exact_mod_cast Nat.lt_add_of_pos_right (by decide)) hunit
  exact ⟨hlow.le, hhigh.le, fun _ => ⟨hlow, hhigh⟩⟩

theorem roundsTo_exact {x : Binary64} (h : x.isZero = false) : RoundsTo (exact x).value x := by
  rw [exact_value]
  exact roundsTo_magnitude h

theorem readsBack_of_onGrid? {tie : TieRule} {x : Binary64} {exponent : Int} {d : Numeral}
    (h : onGrid? tie x exponent = some d) : readsBack x d = true := by
  unfold onGrid? at h
  simp only at h
  split at h
  · rename_i hlow hhigh
    have hnearer : nearer tie x (gridFloor x exponent) exponent = ⟨gridFloor x exponent, exponent⟩ ∨
        nearer tie x (gridFloor x exponent) exponent = ⟨gridFloor x exponent + 1, exponent⟩ := by
      unfold nearer
      split
      · exact Or.inl rfl
      · exact Or.inr rfl
      · split
        · exact Or.inr rfl
        · split_ifs
          · exact Or.inl rfl
          · exact Or.inr rfl
    rw [Option.some.injEq] at h
    rcases hnearer with hd | hd
    · rw [← h, hd]
      exact hlow
    · rw [← h, hd]
      exact hhigh
  · rename_i hlow _
    cases h
    exact hlow
  · rename_i _ hhigh
    cases h
    exact hhigh
  · exact absurd h (by simp)

/-- The shortest digits of a number other than zero round to it. -/
theorem roundsTo_shortest (tie : TieRule) {x : Binary64} (h : x.isZero = false) :
    RoundsTo (shortest tie x).value x := by
  unfold shortest
  rw [if_neg (by simp [h])]
  simp only
  rw [stripZeros_value]
  cases hfound : (List.range 17).findSome? fun n => onGrid? tie x (scale x - (n + 1 : Nat)) with
  | none => exact roundsTo_exact h
  | some d =>
    obtain ⟨n, _, hn⟩ := List.exists_of_findSome?_eq_some hfound
    exact roundsTo_of_readsBack (readsBack_of_onGrid? hn)

theorem shortest_of_isZero (tie : TieRule) {x : Binary64} (h : x.isZero = true) :
    (shortest tie x).value = 0 := by
  rw [shortest, if_pos h]
  simp [Numeral.value]

/-- Two numbers of one sign with the same shortest digits are the same. -/
theorem shortest_injective {tie : TieRule} {x y : Binary64}
    (hsign : x.isNegative = y.isNegative)
    (h : (shortest tie x).value = (shortest tie y).value) : x = y := by
  have hpos : ∀ z : Binary64, z.isZero = false → 0 < (shortest tie z).value := fun z hz =>
    lt_of_lt_of_le (lower_pos hz) (roundsTo_shortest tie hz).lower
  cases hx : x.isZero with
  | true =>
    cases hy : y.isZero with
    | true =>
      have hzero : ∀ z : Binary64, z.isZero = true → z.exponentBits = 0 ∧ z.fractionBits = 0 := by
        intro z hz
        simp only [Binary64.isZero, Binary64.coefficient, beq_iff_eq] at hz
        split_ifs at hz with he
        · exact ⟨he, hz⟩
        · omega
      obtain ⟨hxe, hxf⟩ := hzero x hx
      obtain ⟨hye, hyf⟩ := hzero y hy
      exact Binary64.eq_of_parts hsign (hxe.trans hye.symm) (hxf.trans hyf.symm)
    | false =>
      rw [shortest_of_isZero tie hx] at h
      exact absurd h (hpos y hy).ne
  | false =>
    cases hy : y.isZero with
    | true =>
      rw [shortest_of_isZero tie hy] at h
      exact absurd h (hpos x hx).ne'
    | false =>
      have hroundsTo := roundsTo_shortest tie hy
      rw [← h] at hroundsTo
      exact eq_of_roundsTo hsign (roundsTo_shortest tie hx) hroundsTo

end Decimal

end KustoSearch
