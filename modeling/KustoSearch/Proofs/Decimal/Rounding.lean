import KustoSearch.Proofs.Decimal.Value
import Mathlib

/-! # Rounding to machine numbers

A machine number has a coefficient of 53 bits. A longer one is shifted to the right, and what is
shifted out decides whether it goes up: the result is the nearest coefficient, and the even one of
two that are equally near. Main result: `exists_nearest`.
-/

namespace KustoSearch.Rounding

open Float.Model (Format totalExponent)
open Float.Model.UnpackedFloat

/-! ## Shifting out -/

/-- Whether `q` units of size `u` are nearest to `m`; a number half-way between two goes to the even
one. -/
structure Nearest (m u q : Nat) : Prop where
  below : 2 * m ≤ 2 * (q * u) + u
  above : 2 * (q * u) ≤ 2 * m + u
  strict : q % 2 = 1 → 2 * m < 2 * (q * u) + u ∧ 2 * (q * u) < 2 * m + u

/-- What lies between multiples of the unit is rounded to a number between their factors. -/
theorem Nearest.bounds {m u q a b : Nat} (h : Nearest m u q) (hlow : a * u ≤ m)
    (hhigh : m < b * u) : a ≤ q ∧ q ≤ b := by
  have hbelow := h.below
  have habove := h.above
  constructor
  · by_contra hlt
    have hstep : (q + 1) * u ≤ a * u := Nat.mul_le_mul_right u (by omega)
    have hunit : 0 < u := Nat.pos_of_ne_zero fun hzero => by simp [hzero] at hhigh
    rw [Nat.add_mul, Nat.one_mul] at hstep
    omega
  · by_contra hlt
    have hstep : (b + 1) * u ≤ q * u := Nat.mul_le_mul_right u (by omega)
    rw [Nat.add_mul, Nat.one_mul] at hstep
    omega

/-- What is nearest does not depend on the scale. -/
theorem Nearest.of_mul {m u q k : Nat} (h : Nearest (m * k) (u * k) q) (hk : 0 < k) :
    Nearest m u q := by
  have hleft : 2 * (m * k) = 2 * m * k := by ring
  have hright : 2 * (q * (u * k)) = 2 * (q * u) * k := by ring
  obtain ⟨hbelow, habove, hstrict⟩ := h
  simp only [hleft, hright, ← Nat.add_mul] at hbelow habove hstrict
  constructor
  · exact Nat.le_of_mul_le_mul_right hbelow hk
  · exact Nat.le_of_mul_le_mul_right habove hk
  · intro hodd
    exact ⟨Nat.lt_of_mul_lt_mul_right (hstrict hodd).1, Nat.lt_of_mul_lt_mul_right (hstrict hodd).2⟩

/-- A whole number of units is not rounded. -/
theorem Nearest.eq_of_mul {c u q : Nat} (h : Nearest (c * u) u q) (hu : 0 < u) : q = c := by
  have hunit : c * u < (c + 1) * u := Nat.mul_lt_mul_of_pos_right (Nat.lt_succ_self c) hu
  obtain ⟨hlow, hhigh⟩ := h.bounds (le_refl _) hunit
  have habove := h.above
  by_contra hne
  obtain rfl : q = c + 1 := by omega
  rw [Nat.add_mul, Nat.one_mul] at habove
  omega

section Remainder

variable {m h q r : Nat} (hm : m = q * (2 * h) + r)
include hm

/-- What is over is less than half a unit. -/
theorem Nearest.of_lt_half (hr : r < h) : Nearest m (2 * h) q := by
  constructor <;> omega

/-- What is over is half a unit. -/
theorem Nearest.of_half (hr : r = h) : Nearest m (2 * h) (q + q % 2) := by
  rcases Nat.mod_two_eq_zero_or_one q with heven | hodd
  · rw [heven, add_zero]
    constructor <;> omega
  · have hup : (q + 1) * (2 * h) = q * (2 * h) + 2 * h := Nat.succ_mul _ _
    rw [hodd]
    constructor <;> omega

/-- What is over is more than half a unit. -/
theorem Nearest.of_half_lt (hlow : h < r) (hhigh : r < 2 * h) : Nearest m (2 * h) (q + 1) := by
  have hup : (q + 1) * (2 * h) = q * (2 * h) + 2 * h := Nat.succ_mul _ _
  constructor <;> omega

end Remainder

/-- The bit that was shifted out last is kept, and whether there were others below it. -/
theorem shift_succ (m t : Nat) :
    (⟨m, false, false⟩ : ExtendedMantissa) >>> (t + 1) =
      ⟨m / 2 ^ (t + 1), m / 2 ^ t % 2 != 0, m % 2 ^ t != 0⟩ := by
  induction t with
  | zero => simp [HShiftRight.hShiftRight, Nat.repeat, ExtendedMantissa.shiftRightOne, Nat.mod_one]
  | succ t ih =>
    have hstep : (⟨m, false, false⟩ : ExtendedMantissa) >>> (t + 1 + 1) =
        ((⟨m, false, false⟩ : ExtendedMantissa) >>> (t + 1)).shiftRightOne := rfl
    have hsticky : (m / 2 ^ t % 2 != 0 || m % 2 ^ t != 0) = (m % 2 ^ (t + 1) != 0) := by
      rw [Nat.mod_pow_succ, Bool.eq_iff_iff]
      simp only [Bool.or_eq_true, bne_iff_ne, ne_eq, Nat.add_eq_zero_iff, Nat.mul_eq_zero,
        Nat.pow_eq_zero]
      omega
    rw [hstep, ih, ExtendedMantissa.shiftRightOne, hsticky, Nat.div_div_eq_div_mul, ← pow_succ]

/-- Shifting to the right and rounding gives the nearest number of units. -/
theorem nearest_roundedMantissa (m s : Nat) :
    Nearest m (2 ^ s) ((⟨m, false, false⟩ : ExtendedMantissa) >>> s).roundedMantissa := by
  cases s with
  | zero =>
    have hnone : ((⟨m, false, false⟩ : ExtendedMantissa) >>> 0).roundedMantissa = m := rfl
    rw [hnone]
    exact ⟨by omega, by omega, by omega⟩
  | succ t =>
    have hunit : 2 ^ (t + 1) = 2 * 2 ^ t := by rw [pow_succ, mul_comm]
    have hlow : m % 2 ^ t < 2 ^ t := Nat.mod_lt _ (Nat.two_pow_pos t)
    have hm : m = m / (2 * 2 ^ t) * (2 * 2 ^ t) + (m % 2 ^ t + 2 ^ t * (m / 2 ^ t % 2)) := by
      rw [← Nat.mod_pow_succ, hunit]
      exact (Nat.div_add_mod' _ _).symm
    rw [shift_succ, hunit]
    -- the bit that was shifted out last, and then whether anything lies below it
    rcases Nat.mod_two_eq_zero_or_one (m / 2 ^ t) with hbit | hbit
    · rw [hbit, mul_zero, add_zero] at hm
      have hdown : (⟨m / (2 * 2 ^ t), m / 2 ^ t % 2 != 0, m % 2 ^ t != 0⟩ :
          ExtendedMantissa).roundedMantissa = m / (2 * 2 ^ t) := by
        rw [hbit]
        cases m % 2 ^ t != 0 <;> rfl
      rw [hdown]
      exact .of_lt_half hm hlow
    · rw [hbit, mul_one] at hm
      by_cases hexact : m % 2 ^ t = 0
      · have heven : (⟨m / (2 * 2 ^ t), m / 2 ^ t % 2 != 0, m % 2 ^ t != 0⟩ :
            ExtendedMantissa).roundedMantissa = m / (2 * 2 ^ t) + m / (2 * 2 ^ t) % 2 := by
          rw [hbit, hexact]
          rfl
        rw [heven]
        exact .of_half hm (by omega)
      · have hsticky : (m % 2 ^ t != 0) = true := bne_iff_ne.mpr hexact
        have hup : (⟨m / (2 * 2 ^ t), m / 2 ^ t % 2 != 0, m % 2 ^ t != 0⟩ :
            ExtendedMantissa).roundedMantissa = m / (2 * 2 ^ t) + 1 := by
          rw [hbit, hsticky]
          rfl
        rw [hup]
        exact .of_half_lt hm (by omega) (by omega)

/-! ## Normal numbers -/

theorem log2_eq {m s : Nat} (hlow : 2 ^ 52 * 2 ^ s ≤ m) (hhigh : m < 2 ^ 53 * 2 ^ s) :
    m.log2 = 52 + s := by
  have hpos : 0 < 2 ^ 52 * 2 ^ s := by positivity
  rw [Nat.log2_eq_iff (by omega), Nat.pow_succ, pow_add]
  exact ⟨hlow, by rw [pow_succ] at hhigh; linarith⟩

/-- The exponent at which a number has a coefficient of 53 bits. -/
theorem targetExponent_eq {m s : Nat} {e : Int} (hlow : 2 ^ 52 * 2 ^ s ≤ m)
    (hhigh : m < 2 ^ 53 * 2 ^ s) (he : -1074 ≤ e + s) :
    Format.binary64.targetExponent (totalExponent m e) = e + s := by
  have hbits : (Format.binary64.mantissaBits : Int) = 53 := rfl
  have hleast : Format.binary64.minExponent = -1074 := by decide
  rw [Format.targetExponent, totalExponent, log2_eq hlow hhigh, hbits, hleast]
  push_cast
  omega

theorem shiftToTargetExponent_eq {m s : Nat} {e : Int} (hlow : 2 ^ 52 * 2 ^ s ≤ m)
    (hhigh : m < 2 ^ 53 * 2 ^ s) (he : -1074 ≤ e + s) :
    shiftToTargetExponent Format.binary64 m e .exact =
      ((⟨m, false, false⟩ : ExtendedMantissa) >>> s, e + s) := by
  have hamount : (e + s - e).toNat = s := by omega
  rw [shiftToTargetExponent, targetExponent_eq hlow hhigh he, shiftToExponent, hamount]
  rfl

/-- A number is rounded to a coefficient of 53 bits. Where it goes up to the next power of two, the
coefficient is the least one of the next exponent. -/
theorem roundWithAccuracy_eq (sign : Sign) {m s : Nat} {e : Int} (hlow : 2 ^ 52 * 2 ^ s ≤ m)
    (hhigh : m < 2 ^ 53 * 2 ^ s) (he : -1074 ≤ e + s) :
    ∃ q, Nearest m (2 ^ s) q ∧ ∃ c, ∃ hc : 0 < c, ∃ p,
      roundWithAccuracy Format.binary64 sign m e .exact = .finite sign c p hc ∧
      (c = q ∧ p = e + s ∧ 2 ^ 52 ≤ q ∧ q < 2 ^ 53 ∨
        q = 2 ^ 53 ∧ c = 2 ^ 52 ∧ p = e + s + 1) := by
  have hnearest := nearest_roundedMantissa m s
  obtain ⟨hleast, hmost⟩ := hnearest.bounds hlow hhigh
  rw [roundWithAccuracy, shiftToTargetExponent_eq hlow hhigh he]
  dsimp only
  generalize ((⟨m, false, false⟩ : ExtendedMantissa) >>> s).roundedMantissa = q at *
  refine ⟨q, hnearest, ?_⟩
  rcases Nat.lt_or_eq_of_le hmost with hlt | rfl
  · have hstays := shiftToTargetExponent_eq (m := q) (s := 0) (e := e + s) (by omega) (by omega)
      (by omega)
    refine ⟨q, by omega, e + s, ?_, .inl ⟨rfl, rfl, hleast, hlt⟩⟩
    have hmantissa : ((⟨q, false, false⟩ : ExtendedMantissa) >>> 0).mantissa = q := rfl
    simp only [hstays, hmantissa, show q ≠ 0 by omega, dite_false, Nat.cast_zero, add_zero]
  · -- one bit too many after going up, so the coefficient is shifted once more
    have hcarry := shiftToTargetExponent_eq (m := 2 ^ 53) (s := 1) (e := e + s) (by decide)
      (by decide) (by omega)
    refine ⟨2 ^ 52, by decide, e + s + 1, ?_, .inr ⟨rfl, rfl, rfl⟩⟩
    have hmantissa : ((⟨2 ^ 53, false, false⟩ : ExtendedMantissa) >>> 1).mantissa = 2 ^ 52 := by
      rw [shift_succ]
      decide
    simp only [hcarry, hmantissa]
    rfl

/-- Zeros at the end are shifted out without rounding. -/
theorem roundWithAccuracy_mul (sign : Sign) {c s : Nat} {e : Int} (hlow : 2 ^ 52 ≤ c)
    (hhigh : c < 2 ^ 53) (he : -1074 ≤ e + s) :
    ∃ hc, roundWithAccuracy Format.binary64 sign (c * 2 ^ s) e .exact =
      .finite sign c (e + s) hc := by
  have hunit : 0 < 2 ^ s := Nat.two_pow_pos s
  obtain ⟨q, hnearest, c', hc', p, hround, hparts⟩ := roundWithAccuracy_eq sign
    (Nat.mul_le_mul_right _ hlow) (Nat.mul_lt_mul_of_pos_right hhigh hunit) he
  have hq := hnearest.eq_of_mul hunit
  rcases hparts with ⟨rfl, rfl, _⟩ | ⟨hcarry, _⟩
  · subst hq
    exact ⟨hc', hround⟩
  · omega

/-! ## The bits of a normal number -/

/-- What sign, coefficient and exponent of a normal number are put into. -/
theorem pack_eq (sign : Sign) {c : Nat} {p : Int} (hc : 0 < c) (hlow : 2 ^ 52 ≤ c)
    (hhigh : c < 2 ^ 53) (hp : p ≤ 971) :
    pack Format.binary64 (.finite sign c p hc) =
      packComponents Format.binary64 sign (BitVec.ofNat 11 (p + 1075).toNat)
        (BitVec.ofNat 52 c) := by
  have hlog : c.log2 = 52 := log2_eq (s := 0) (by omega) (by omega)
  have hbits : (Format.binary64.mantissaBits : Nat) = 53 := rfl
  have hbiased : (p + Format.binary64.exponentBias + Format.binary64.mantissaBitsWithoutImplicit) =
      p + 1075 := by
    show p + 1023 + 52 = p + 1075
    omega
  have hfinite : ¬ 2 ^ Format.binary64.exponentBits ≤ (p + 1075).toNat + 1 := by
    show ¬ 2 ^ 11 ≤ (p + 1075).toNat + 1
    omega
  rw [pack]
  simp only [hlog, hbits, hbiased, hfinite, if_false, if_true]

theorem unpack_pack (sign : Sign) {c : Nat} {p : Int} (hc : 0 < c) (hlow : 2 ^ 52 ≤ c)
    (hhigh : c < 2 ^ 53) (hleast : -1074 ≤ p) (hmost : p ≤ 971) :
    unpack Format.binary64 (pack Format.binary64 (.finite sign c p hc)) = .finite sign c p hc := by
  have hexponent : (BitVec.ofNat 11 (p + 1075).toNat).toNat = (p + 1075).toNat := by
    rw [BitVec.toNat_ofNat]
    omega
  have hfinite : BitVec.ofNat 11 (p + 1075).toNat ≠ -1#11 := by
    intro h
    have hbits := congrArg BitVec.toNat h
    rw [hexponent] at hbits
    have hall : (-1#11 : BitVec 11).toNat = 2047 := by decide
    omega
  have hnormal : BitVec.ofNat 11 (p + 1075).toNat ≠ 0#11 := by
    intro h
    have hbits := congrArg BitVec.toNat h
    rw [hexponent] at hbits
    have hnone : (0#11 : BitVec 11).toNat = 0 := by decide
    omega
  have hcoefficient : (1#1 ++ BitVec.ofNat 52 c).toNat = c := by
    rw [BitVec.toNat_append, ← Nat.shiftLeft_add_eq_or_of_lt (BitVec.isLt _), BitVec.toNat_ofNat]
    show 2 ^ 52 + c % 2 ^ 52 = c
    omega
  have hpower : ((p + 1075).toNat : Int) - (Format.binary64.exponentBias + (52 : Nat)) = p := by
    show ((p + 1075).toNat : Int) - (1023 + 52) = p
    omega
  rw [pack_eq sign hc hlow hhigh hmost]
  simp only [unpack, unpackExponent_packComponents, unpackMantissa_packComponents,
    unpackSign_packComponents, Sign.ofBitVec_toBitVec, hexponent, hfinite, hnormal, if_false,
    hcoefficient, hpower]

theorem toNat_pack (sign : Sign) {c : Nat} {p : Int} (hc : 0 < c) (hlow : 2 ^ 52 ≤ c)
    (hhigh : c < 2 ^ 53) (hleast : -1074 ≤ p) (hmost : p ≤ 971) :
    (pack Format.binary64 (.finite sign c p hc)).toNat =
      sign.toBitVec.toNat * 2 ^ 63 + (p + 1075).toNat * 2 ^ 52 + (c - 2 ^ 52) := by
  rw [pack_eq sign hc hlow hhigh hmost, packComponents]
  show (sign.toBitVec ++ BitVec.ofNat 11 (p + 1075).toNat ++ BitVec.ofNat 52 c).toNat = _
  rw [BitVec.toNat_append, ← Nat.shiftLeft_add_eq_or_of_lt (BitVec.isLt _), BitVec.toNat_append,
    ← Nat.shiftLeft_add_eq_or_of_lt (BitVec.isLt _), BitVec.toNat_ofNat, BitVec.toNat_ofNat,
    Nat.shiftLeft_eq, Nat.shiftLeft_eq]
  omega

/-- A word whose exponent bits are not all set is a finite number. -/
theorem ofFloat?_eq_some {x : Float} (h : x.toBits.toNat / 2 ^ 52 % 2 ^ 11 < 2047) :
    ∃ y, Binary64.ofFloat? x = some y ∧ y.bits = x.toBits := by
  have hfinite : (x.toBits >>> 52) &&& 0x7FF ≠ 0x7FF := by
    intro heq
    have hbits := congrArg UInt64.toNat heq
    have hmask : (0x7FF : UInt64).toNat = 2 ^ 11 - 1 := by decide
    have hshift : (52 : UInt64).toNat % 64 = 52 := by decide
    rw [UInt64.toNat_and, UInt64.toNat_shiftRight, hmask, Nat.and_two_pow_sub_one_eq_mod, hshift,
      Nat.shiftRight_eq_div_pow] at hbits
    omega
  exact ⟨⟨x.toBits, hfinite⟩, dif_pos hfinite, rfl⟩

/-- A machine number is made of the parts that were packed. -/
theorem exists_ofFloat?_pack (sign : Sign) {c : Nat} {p : Int} (hc : 0 < c) (hlow : 2 ^ 52 ≤ c)
    (hhigh : c < 2 ^ 53) (hleast : -1074 ≤ p) (hmost : p ≤ 971) :
    ∃ x, Binary64.ofFloat? ⟨Float.Model.pack (.finite sign c p hc)⟩ = some x ∧
      (x.isNegative = true ↔ sign = .negative) ∧ x.coefficient = c ∧ x.power = p := by
  have hword : (Float.toBits ⟨Float.Model.pack (.finite sign c p hc)⟩).toNat =
      sign.toBitVec.toNat * 2 ^ 63 + (p + 1075).toNat * 2 ^ 52 + (c - 2 ^ 52) :=
    toNat_pack sign hc hlow hhigh hleast hmost
  have hsign : sign.toBitVec.toNat = 1 ∧ sign = .negative ∨
      sign.toBitVec.toNat = 0 ∧ sign ≠ .negative := by
    cases sign with
    | negative => exact .inl ⟨rfl, rfl⟩
    | positive => exact .inr ⟨rfl, nofun⟩
  obtain ⟨x, hx, hbits⟩ := ofFloat?_eq_some
    (x := ⟨Float.Model.pack (.finite sign c p hc)⟩) (by rw [hword]; omega)
  rw [← hbits] at hword
  have hexponent : x.exponentBits = (p + 1075).toNat := by
    rw [Binary64.exponentBits_eq, hword]
    omega
  have hfraction : x.fractionBits = c - 2 ^ 52 := by
    rw [Binary64.fractionBits_eq, hword]
    omega
  have hnormal : ¬ (x.exponentBits == 0) = true := by
    rw [hexponent, beq_iff_eq]
    omega
  refine ⟨x, hx, ?_, ?_, ?_⟩
  · rw [Binary64.isNegative_iff, hword]
    rcases hsign with ⟨hone, hnegative⟩ | ⟨hzero, hpositive⟩
    · rw [hone, iff_true_right hnegative]
      omega
    · rw [hzero, iff_false_right hpositive]
      omega
  · rw [Binary64.coefficient, if_neg hnormal, hfraction]
    omega
  · rw [Binary64.power, if_neg hnormal, hexponent]
    omega

/-! ## Natural numbers -/

/-- The binary logarithm bounds a number from both sides. -/
theorem log2_bounds {n : Nat} (h : 0 < n) : 2 ^ n.log2 ≤ n ∧ n < 2 ^ (n.log2 + 1) :=
  (Nat.log2_eq_iff (by omega)).mp rfl

theorem log2_lt {n k : Nat} (h : 0 < n) (hn : n < 2 ^ k) : n.log2 < k :=
  (Nat.log2_lt (by omega)).mpr hn

/-- A number of up to 53 bits is a coefficient with zeros at its end. -/
theorem coefficient_bounds {n : Nat} (h : 0 < n) (hn : n < 2 ^ 53) :
    2 ^ 52 ≤ n * 2 ^ (52 - n.log2) ∧ n * 2 ^ (52 - n.log2) < 2 ^ 53 := by
  obtain ⟨hlow, hhigh⟩ := log2_bounds h
  have hlog := log2_lt h hn
  have hleast := Nat.mul_le_mul_right (2 ^ (52 - n.log2)) hlow
  have hmost := Nat.mul_lt_mul_of_pos_right hhigh (Nat.two_pow_pos (52 - n.log2))
  rw [← pow_add] at hleast hmost
  have hfirst : n.log2 + (52 - n.log2) = 52 := by omega
  have hnext : n.log2 + 1 + (52 - n.log2) = 53 := by omega
  rw [hfirst] at hleast
  rw [hnext] at hmost
  exact ⟨hleast, hmost⟩

/-- A number of up to 53 bits is packed without rounding. -/
theorem ofUInt64_of_lt {n : Nat} (h : 0 < n) (hn : n < 2 ^ 53) :
    ∃ hc, Float.Model.ofUInt64 n.toUInt64 =
      Float.Model.pack (.finite .positive (n * 2 ^ (52 - n.log2)) ((n.log2 : Int) - 52) hc) := by
  obtain ⟨hlow, hhigh⟩ := coefficient_bounds h hn
  have htarget : Format.binary64.targetExponent (totalExponent n 0) = (n.log2 : Int) - 52 := by
    have hbits : (Format.binary64.mantissaBits : Int) = 53 := rfl
    have hleast : Format.binary64.minExponent = -1074 := by decide
    rw [Format.targetExponent, totalExponent, hbits, hleast]
    omega
  have hlog := log2_lt h hn
  have hamount : (0 - ((n.log2 : Int) - 52)).toNat = 52 - n.log2 := by omega
  have hpower : (0 : Int) - (52 - n.log2 : Nat) = (n.log2 : Int) - 52 := by omega
  obtain ⟨hc, hround⟩ := roundWithAccuracy_mul .positive (s := 0) (e := (n.log2 : Int) - 52) hlow
    hhigh (by omega)
  rw [pow_zero, mul_one, Nat.cast_zero, add_zero] at hround
  have htoNat : n.toUInt64.toNat = n := by
    rw [UInt64.toNat_ofNat']
    omega
  have hcompare : compare (n : Int) 0 = .gt := by
    rw [compare_gt_iff_gt]
    omega
  refine ⟨hc, ?_⟩
  rw [Float.Model.ofUInt64, ofUInt64, htoNat, ofNat, ofInt, Float.Model.UnpackedFloat.normalize,
    hcompare]
  dsimp only
  rw [Int.toNat_natCast, Float.Model.UnpackedFloat.round, htarget, decreaseExponent, hamount,
    hpower, Nat.shiftLeft_eq]
  dsimp only
  rw [hround]

/-- A number of up to 53 bits is converted without rounding. -/
theorem ofScientific_of_lt {n : Nat} (h : 0 < n) (hn : n < 2 ^ 53) :
    ∃ hc, Float.ofScientific n false 0 =
      ⟨Float.Model.pack (.finite .positive (n * 2 ^ (52 - n.log2)) ((n.log2 : Int) - 52) hc)⟩ := by
  obtain ⟨hlow, hhigh⟩ := coefficient_bounds h hn
  obtain ⟨hc, hword⟩ := ofUInt64_of_lt h hn
  have hlog := log2_lt h hn
  have hone : (Float.ofBits 4607182418800017408).toModel.unpack =
      .finite .positive (2 ^ 52) (-52) (by decide) := rfl
  have hback := unpack_pack .positive hc hlow hhigh (p := (n.log2 : Int) - 52) (by omega) (by omega)
  -- a factor of one is multiplied in, and rounded out again
  obtain ⟨hc', hproduct⟩ := roundWithAccuracy_mul .positive (s := 52)
    (e := (n.log2 : Int) - 52 + -52) hlow hhigh (by omega)
  have hsum : (n.log2 : Int) - 52 + -52 + (52 : Nat) = (n.log2 : Int) - 52 := by omega
  rw [hsum] at hproduct
  refine ⟨hc, ?_⟩
  rw [Float.ofScientific, dif_pos ⟨hn, by decide⟩]
  show (⟨(Float.Model.ofUInt64 n.toUInt64).mul
    (Float.ofBits 4607182418800017408).toModel⟩ : Float) = _
  rw [hword, Float.Model.mul, hone, Float.Model.unpack]
  show (⟨Float.Model.pack (mul Format.binary64 (unpack Format.binary64
    (pack Format.binary64 (.finite .positive _ _ hc))) _)⟩ : Float) = _
  rw [hback, mul]
  exact congrArg (fun f => (⟨Float.Model.pack f⟩ : Float)) hproduct

/-- A number of more bits is rounded at the place of its last coefficient bit. -/
theorem ofScientific_of_ge {n k : Nat} (hlow : 2 ^ 52 * 2 ^ k ≤ n) (hhigh : n < 2 ^ 53 * 2 ^ k)
    (hk : 1 ≤ k) :
    ∃ q, Nearest n (2 ^ k) q ∧ ∃ c, ∃ hc : 0 < c, ∃ p,
      Float.ofScientific n false 0 = ⟨Float.Model.pack (.finite .positive c p hc)⟩ ∧
      (c = q ∧ p = k ∧ 2 ^ 52 ≤ q ∧ q < 2 ^ 53 ∨ q = 2 ^ 53 ∧ c = 2 ^ 52 ∧ p = (k : Int) + 1) := by
  have hunit : 2 ^ 1 ≤ 2 ^ k := Nat.pow_le_pow_right (by decide) hk
  have hwide : ¬ (n < 2 ^ 53 ∧ 0 ≤ 22) := by omega
  have hscale : 2 ^ (k + 53) = 2 ^ k * 2 ^ 53 := pow_add 2 k 53
  obtain ⟨q, hnearest, c, hc, p, hround, hparts⟩ := roundWithAccuracy_eq .positive
    (m := n * 2 ^ 53) (s := k + 53) (e := -53) (by rw [hscale]; omega) (by rw [hscale]; omega)
    (by omega)
  rw [hscale] at hnearest
  have hplace : (-53 : Int) + (k + 53 : Nat) = k := by omega
  rw [hplace] at hparts
  refine ⟨q, hnearest.of_mul (by decide), c, hc, p, ?_, hparts⟩
  have hnonzero : n ≠ 0 := by omega
  have hleast : ¬ (Int.ofNat 0 < -(2 ^ Format.binary64.exponentBits + (n.log2 : Int))) := by
    show ¬ ((0 : Int) < -(2 ^ 11 + (n.log2 : Int)))
    omega
  rw [Float.ofScientific, dif_neg hwide]
  dsimp only
  rw [if_neg (by decide), Float.Model.ofScientific, ofScientific, dif_neg hnonzero,
    if_neg (by decide), if_neg hleast, if_pos (by decide), mul]
  have hproduct : (n <<< Format.binary64.mantissaBits) * 10 ^ (Int.ofNat 0).toNat = n * 2 ^ 53 := by
    rw [Nat.shiftLeft_eq]
    exact Nat.mul_one _
  rw [hproduct]
  exact congrArg (fun f => (⟨Float.Model.pack f⟩ : Float)) hround

/-! ## The nearest machine number -/

/-- What a machine number is that a natural number is converted to. -/
structure Approximates (n : Nat) (x : Binary64) : Prop where
  nearest : Decimal.RoundsTo n x
  whole : ∃ w : Nat, 0 < w ∧ x.magnitude = w
  /-- Numbers of up to 53 bits are not rounded. -/
  exact : n < 2 ^ 53 → x.magnitude = n ∧ x.power ≤ 0

/-- The end of a rounding interval below is two quarters away, or one where the coefficient is the
least of its exponent. -/
theorem quartersBelow_le {x : Binary64} (h : 0 < x.coefficient) :
    Decimal.quartersBelow x + 2 ≤ 4 * x.coefficient ∨
      x.coefficient = 2 ^ 52 ∧ Decimal.quartersBelow x + 1 ≤ 4 * x.coefficient := by
  rw [Decimal.quartersBelow]
  split_ifs with hnarrow
  · refine .inr ⟨?_, by omega⟩
    rw [Binary64.narrowBelow, Bool.and_eq_true, beq_iff_eq, decide_eq_true_eq] at hnarrow
    rw [Binary64.coefficient, if_neg (by rw [beq_iff_eq]; omega), hnarrow.1]
    rfl
  · exact .inl (by omega)

/-- A power of two in quarters. -/
theorem cast_two_pow (k : Nat) : ((2 ^ k : Nat) : ℚ) = 4 * 2 ^ ((k : Int) - 2) := by
  rw [Nat.cast_pow, ← zpow_natCast, zpow_sub₀ (by decide)]
  norm_num
  ring

/-- What is nearest lies within two quarters of a unit. -/
theorem Nearest.quarters {n k q : Nat} (h : Nearest n (2 ^ k) q) :
    (4 * q - 2) * (2 : ℚ) ^ ((k : Int) - 2) ≤ n ∧ n ≤ (4 * q + 2) * (2 : ℚ) ^ ((k : Int) - 2) ∧
      (q % 2 = 1 → (4 * q - 2) * (2 : ℚ) ^ ((k : Int) - 2) < n ∧
        n < (4 * q + 2) * (2 : ℚ) ^ ((k : Int) - 2)) := by
  obtain ⟨hbelow, habove, hstrict⟩ := h
  have hbelowQ : 2 * (n : ℚ) ≤ 2 * (q * (2 ^ k : Nat)) + (2 ^ k : Nat) := by exact_mod_cast hbelow
  have haboveQ : 2 * ((q : ℚ) * (2 ^ k : Nat)) ≤ 2 * n + (2 ^ k : Nat) := by exact_mod_cast habove
  rw [cast_two_pow] at hbelowQ haboveQ
  refine ⟨by linarith, by linarith, fun hodd => ?_⟩
  obtain ⟨hless, hmore⟩ := hstrict hodd
  have hlessQ : 2 * (n : ℚ) < 2 * (q * (2 ^ k : Nat)) + (2 ^ k : Nat) := by exact_mod_cast hless
  have hmoreQ : 2 * ((q : ℚ) * (2 ^ k : Nat)) < 2 * n + (2 ^ k : Nat) := by exact_mod_cast hmore
  rw [cast_two_pow] at hlessQ hmoreQ
  constructor
  · linarith
  · linarith

/-- A natural number rounds to the number whose coefficient is nearest to it. -/
theorem roundsTo_of_nearest {n k : Nat} {x : Binary64} (hlow : 2 ^ 52 * 2 ^ k ≤ n)
    (hnearest : Nearest n (2 ^ k) x.coefficient) (hpower : x.power = k)
    (hpos : 0 < x.coefficient) : Decimal.RoundsTo n x := by
  obtain ⟨hbelow, habove, hstrict⟩ := hnearest.quarters
  have hunit : (0 : ℚ) < 2 ^ ((k : Int) - 2) := zpow_pos (by decide) _
  have hupper : Decimal.upper x = (4 * x.coefficient + 2) * 2 ^ ((k : Int) - 2) := by
    rw [Decimal.upper, hpower]
    push_cast
    rfl
  have hlower : Decimal.lower x = Decimal.quartersBelow x * 2 ^ ((k : Int) - 2) := by
    rw [Decimal.lower, hpower]
  rcases quartersBelow_le hpos with hquarters | ⟨hcoefficient, hquarters⟩
  · have hquartersQ : (Decimal.quartersBelow x : ℚ) ≤ 4 * x.coefficient - 2 := by
      rw [le_sub_iff_add_le]
      exact_mod_cast hquarters
    have hend : Decimal.lower x ≤ (4 * x.coefficient - 2) * 2 ^ ((k : Int) - 2) := by
      rw [hlower]
      exact mul_le_mul_of_nonneg_right hquartersQ hunit.le
    refine ⟨hend.trans hbelow, hupper ▸ habove, fun hodd => ?_⟩
    exact ⟨hend.trans_lt (hstrict hodd).1, hupper ▸ (hstrict hodd).2⟩
  · -- the interval is narrow below, where nothing of this exponent lies
    have hquartersQ : (Decimal.quartersBelow x : ℚ) ≤ 4 * 2 ^ 52 := by
      have hcount : Decimal.quartersBelow x ≤ 4 * 2 ^ 52 := by omega
      exact_mod_cast hcount
    have hlowQ : (2 ^ 52 : ℚ) * (2 ^ k : Nat) ≤ n := by exact_mod_cast hlow
    have hend := mul_le_mul_of_nonneg_right hquartersQ hunit.le
    rw [cast_two_pow] at hlowQ
    refine ⟨by rw [hlower]; linarith, hupper ▸ habove, fun hodd => ?_⟩
    rw [hcoefficient] at hodd
    cases hodd

/-- A natural number that goes up to the next power of two rounds to this power. -/
theorem roundsTo_of_carry {n k : Nat} {x : Binary64} (hhigh : n < 2 ^ 53 * 2 ^ k)
    (hnearest : Nearest n (2 ^ k) (2 ^ 53)) (hcoefficient : x.coefficient = 2 ^ 52)
    (hpower : x.power = (k : Int) + 1) : Decimal.RoundsTo n x := by
  obtain ⟨hbelow, _⟩ := hnearest.quarters
  have hunit : (0 : ℚ) < 2 ^ ((k : Int) - 2) := zpow_pos (by decide) _
  have hdouble : (2 : ℚ) ^ (x.power - 2) = 2 * 2 ^ ((k : Int) - 2) := by
    rw [hpower, ← zpow_one_add₀ (by decide)]
    congr 1
    omega
  have hquartersQ : (Decimal.quartersBelow x : ℚ) ≤ 4 * 2 ^ 52 - 1 := by
    have hquarters := quartersBelow_le (x := x) (by omega)
    rw [hcoefficient] at hquarters
    have hcount : Decimal.quartersBelow x + 1 ≤ 4 * 2 ^ 52 := by omega
    rw [le_sub_iff_add_le]
    exact_mod_cast hcount
  have hhighQ : (n : ℚ) < 2 ^ 53 * (2 ^ k : Nat) := by exact_mod_cast hhigh
  have hend := mul_le_mul_of_nonneg_right hquartersQ hunit.le
  rw [cast_two_pow] at hhighQ
  refine ⟨?_, ?_, fun hodd => ?_⟩
  · rw [Decimal.lower, hdouble]
    push_cast at hbelow
    linarith
  · rw [Decimal.upper, hcoefficient, hdouble]
    push_cast
    linarith
  · rw [hcoefficient] at hodd
    cases hodd

theorem approximates_of_lt {n : Nat} {x : Binary64} (h : 0 < n) (hn : n < 2 ^ 53)
    (hcoefficient : x.coefficient = n * 2 ^ (52 - n.log2))
    (hpower : x.power = (n.log2 : Int) - 52) : Approximates n x := by
  have hlog := log2_lt h hn
  have hmagnitude : x.magnitude = n := by
    have hinverse : (2 : ℚ) ^ (52 - n.log2) * 2 ^ ((n.log2 : Int) - 52) = 1 := by
      rw [← zpow_natCast, ← zpow_add₀ (by decide)]
      have hnone : ((52 - n.log2 : Nat) : Int) + (n.log2 - 52) = 0 := by omega
      rw [hnone, zpow_zero]
    rw [Binary64.magnitude, hcoefficient, hpower]
    push_cast
    rw [mul_assoc, hinverse, mul_one]
  have hisZero : x.isZero = false := by
    have hleast := (coefficient_bounds h hn).1
    rw [Binary64.isZero, beq_eq_false_iff_ne]
    omega
  refine ⟨?_, ⟨n, h, hmagnitude⟩, fun _ => ⟨hmagnitude, by omega⟩⟩
  rw [← hmagnitude]
  exact Decimal.roundsTo_magnitude hisZero

theorem approximates_of_ge {n : Nat} {x : Binary64} (hn : 2 ^ 53 ≤ n)
    (hnearest : Decimal.RoundsTo n x) (hpos : 0 < x.coefficient) (hpower : 0 ≤ x.power) :
    Approximates n x := by
  have hwhole : x.magnitude = (x.coefficient * 2 ^ x.power.toNat : Nat) := by
    rw [Binary64.magnitude]
    nth_rewrite 1 [← Int.toNat_of_nonneg hpower]
    rw [zpow_natCast]
    push_cast
    rfl
  exact ⟨hnearest, ⟨_, Nat.mul_pos hpos (Nat.two_pow_pos _), hwhole⟩,
    fun hlt => absurd hlt (Nat.not_lt.mpr hn)⟩

/-- The machine number that a natural number of up to 64 bits is converted to. -/
theorem exists_pack {n : Nat} (h : 0 < n) (hn : n < 2 ^ 64) :
    ∃ c, ∃ hc : 0 < c, ∃ p,
      Float.ofScientific n false 0 = ⟨Float.Model.pack (.finite .positive c p hc)⟩ ∧
      2 ^ 52 ≤ c ∧ c < 2 ^ 53 ∧ -52 ≤ p ∧ p ≤ 12 ∧
      ∀ x : Binary64, x.coefficient = c → x.power = p → Approximates n x := by
  rcases Nat.lt_or_ge n (2 ^ 53) with hlt | hge
  · obtain ⟨hlow, hhigh⟩ := coefficient_bounds h hlt
    obtain ⟨hc, hword⟩ := ofScientific_of_lt h hlt
    have hlog := log2_lt h hlt
    exact ⟨_, hc, _, hword, hlow, hhigh, by omega, by omega, fun x => approximates_of_lt h hlt⟩
  · obtain ⟨hlow, hhigh⟩ := log2_bounds h
    have hlog := log2_lt h hn
    have hfirst : 53 ≤ n.log2 := (Nat.le_log2 (by omega)).mpr hge
    obtain ⟨k, hk⟩ : ∃ k, n.log2 = 52 + k := ⟨n.log2 - 52, by omega⟩
    rw [hk, pow_add] at hlow
    rw [hk, add_right_comm, pow_add] at hhigh
    obtain ⟨q, hnearest, c, hc, p, hword, hparts⟩ := ofScientific_of_ge hlow hhigh (by omega)
    refine ⟨c, hc, p, hword, by omega, by omega, by omega, by omega, ?_⟩
    rintro x rfl rfl
    refine approximates_of_ge hge ?_ hc (by omega)
    rcases hparts with ⟨rfl, hpower, _⟩ | ⟨rfl, hcoefficient, hpower⟩
    · exact roundsTo_of_nearest hlow hnearest hpower hc
    · exact roundsTo_of_carry hhigh hnearest hcoefficient hpower

theorem neg_pack {c : Nat} {p : Int} (hc : 0 < c) (hlow : 2 ^ 52 ≤ c) (hhigh : c < 2 ^ 53)
    (hleast : -1074 ≤ p) (hmost : p ≤ 971) :
    -(⟨Float.Model.pack (.finite .positive c p hc)⟩ : Float) =
      ⟨Float.Model.pack (.finite .negative c p hc)⟩ := by
  show (⟨Float.Model.pack (unpack Format.binary64
    (pack Format.binary64 (.finite .positive c p hc))).neg⟩ : Float) = _
  rw [unpack_pack .positive hc hlow hhigh hleast hmost]
  rfl

/-- A natural number of up to 64 bits, with a sign, is converted to the nearest number, and without
rounding up to 53 bits. -/
theorem exists_nearest {n : Nat} (h : 0 < n) (hn : n < 2 ^ 64) (negative : Bool) :
    ∃ x, Binary64.ofFloat? (if negative then -(Float.ofScientific n false 0)
        else Float.ofScientific n false 0) = some x ∧
      x.isNegative = negative ∧ Approximates n x := by
  obtain ⟨c, hc, p, hword, hlow, hhigh, hleast, hmost, hx⟩ := exists_pack h hn
  rw [hword]
  cases negative with
  | false =>
    obtain ⟨x, hfloat, hsign, hcoefficient, hpower⟩ :=
      exists_ofFloat?_pack .positive (p := p) hc hlow hhigh (by omega) (by omega)
    have hpositive : x.isNegative = false := by
      rw [Bool.eq_false_iff]
      intro hnegative
      cases hsign.mp hnegative
    exact ⟨x, hfloat, hpositive, hx x hcoefficient hpower⟩
  | true =>
    obtain ⟨x, hfloat, hsign, hcoefficient, hpower⟩ :=
      exists_ofFloat?_pack .negative (p := p) hc hlow hhigh (by omega) (by omega)
    rw [← neg_pack hc hlow hhigh (by omega) (by omega)] at hfloat
    exact ⟨x, hfloat, hsign.mpr rfl, hx x hcoefficient hpower⟩

end KustoSearch.Rounding
