import KustoSearch.Decimal.Layout
import KustoSearch.Decimal.Reader
import KustoSearch.Proofs.Text.Numeral
import Mathlib.Algebra.Field.Rat
import Mathlib.Algebra.GroupWithZero.Basic
import Mathlib.Tactic.FieldSimp
import Mathlib.Tactic.Linarith

/-! # The digits in a written number

Every layout writes a magnitude as digits, possibly a point with digits and possibly an exponent,
and the number so written is the one that was to be written: `magnitudeText_spells`.
-/

namespace KustoSearch.Decimal

open Text (IsDigits decimal digitsValue isDigit)

/-- The number `digits · 10^exponent`, exactly. -/
def Numeral.value (d : Numeral) : ℚ := d.digits * (10 : ℚ) ^ d.exponent

/-- The number that the parts of a numeral stand for, exactly. -/
def Parts.exactValue (p : Parts) : ℚ :=
  digitsValue (p.whole ++ p.fraction) * (10 : ℚ) ^ (p.exponent - p.fraction.length)

/-- A point and the digits after it; no digits, no point. -/
def pointed (fraction : List Char) : List Char :=
  if fraction = [] then [] else '.' :: fraction

/-- An exponent with its mark; the sign before a natural number may be left out. -/
inductive WritesExponent : Int → List Char → Prop where
  | none : WritesExponent 0 []
  | plain (n : Nat) : WritesExponent n ('e' :: decimal n)
  | plus (n : Nat) : WritesExponent n ('e' :: '+' :: decimal n)
  | minus (n : Nat) : WritesExponent (-n) ('e' :: '-' :: decimal n)

/-- A text that is made of the parts of a numeral. -/
structure Parts.Spells (p : Parts) (text : List Char) : Prop where
  whole : IsDigits p.whole
  fraction : ∀ c ∈ p.fraction, isDigit c = true
  text : ∃ tail, WritesExponent p.exponent tail ∧ text = p.whole ++ pointed p.fraction ++ tail

namespace Layout

variable {n : Nat} {whole : Int}

/-- Digits behind the point, after the zeros between. -/
theorem positionalText_small (pointZero : Bool) (h : whole ≤ 0) :
    ∃ p : Parts, p.Spells (positionalText pointZero (decimal n) whole) ∧
      p.exactValue = n * (10 : ℚ) ^ (whole - (decimal n).length) := by
  refine ⟨⟨['0'], List.replicate (-whole).toNat '0' ++ decimal n, 0⟩, ⟨?_, ?_, ?_⟩, ?_⟩
  · refine ⟨by simp, ?_⟩
    exact List.forall_mem_singleton.mpr rfl
  · intro c hc
    rcases List.mem_append.mp hc with hc | hc
    · rw [(List.mem_replicate.mp hc).2]
      decide
    · exact (Text.isDigits_decimal n).2 c hc
  · refine ⟨[], .none, ?_⟩
    simp [positionalText, h, pointed]
  · have hvalue : digitsValue (['0'] ++ (List.replicate (-whole).toNat '0' ++ decimal n)) = n := by
      rw [Text.digitsValue_append, Text.digitsValue_append, Text.digitsValue_replicate_zero,
        Text.digitsValue_decimal]
      simp [digitsValue, Text.digitValue]
    have hexp : (0 : Int) - (List.replicate (-whole).toNat '0' ++ decimal n).length =
        whole - (decimal n).length := by
      rw [List.length_append, List.length_replicate]
      omega
    rw [Parts.exactValue, hvalue, hexp]

/-- Digits before the point, and the zeros that fill up the places to it. -/
theorem positionalText_large (pointZero : Bool) (h : 0 < whole)
    (hle : (decimal n).length ≤ whole.toNat) :
    ∃ p : Parts, p.Spells (positionalText pointZero (decimal n) whole) ∧
      p.exactValue = n * (10 : ℚ) ^ (whole - (decimal n).length) := by
  have hzeros : digitsValue (decimal n ++ List.replicate (whole.toNat - (decimal n).length) '0') =
      n * 10 ^ (whole.toNat - (decimal n).length) := by
    rw [Text.digitsValue_append, Text.digitsValue_replicate_zero, Text.digitsValue_decimal,
      List.length_replicate, Nat.add_zero]
  have hwhole : IsDigits
      (decimal n ++ List.replicate (whole.toNat - (decimal n).length) '0') := by
    refine ⟨by simp, fun c hc => ?_⟩
    rcases List.mem_append.mp hc with hc | hc
    · exact (Text.isDigits_decimal n).2 c hc
    · rw [(List.mem_replicate.mp hc).2]
      decide
  have hpow : ((10 : ℚ) ^ (whole.toNat - (decimal n).length) : ℚ) =
      (10 : ℚ) ^ (whole - (decimal n).length) := by
    rw [← zpow_natCast]
    congr 1
    omega
  cases pointZero with
  | false =>
    refine ⟨⟨_, [], 0⟩, ⟨hwhole, by simp, [], .none, ?_⟩, ?_⟩
    · simp [positionalText, h.not_ge, hle, pointed]
    · simp [Parts.exactValue, hzeros, hpow]
  | true =>
    refine ⟨⟨_, ['0'], 0⟩, ⟨hwhole, ?_, [], .none, ?_⟩, ?_⟩
    · exact List.forall_mem_singleton.mpr rfl
    · simp [positionalText, h.not_ge, hle, pointed]
    · -- the zero behind the point makes the digits ten times as large
      have hten : digitsValue (decimal n ++
          List.replicate (whole.toNat - (decimal n).length) '0' ++ ['0']) =
          10 * (n * 10 ^ (whole.toNat - (decimal n).length)) := by
        rw [Text.digitsValue_append_singleton, hzeros]
        simp [Text.digitValue]
      rw [Parts.exactValue, hten]
      push_cast
      rw [hpow]
      simp
      ring

/-- Digits on both sides of the point. -/
theorem positionalText_split (pointZero : Bool) (h : 0 < whole)
    (hlt : whole.toNat < (decimal n).length) :
    ∃ p : Parts, p.Spells (positionalText pointZero (decimal n) whole) ∧
      p.exactValue = n * (10 : ℚ) ^ (whole - (decimal n).length) := by
  have hdigits := Text.isDigits_decimal n
  have hsplit : (decimal n).take whole.toNat ++ (decimal n).drop whole.toNat = decimal n :=
    List.take_append_drop _ _
  refine ⟨⟨(decimal n).take whole.toNat, (decimal n).drop whole.toNat, 0⟩,
    ⟨⟨?_, ?_⟩, ?_, [], .none, ?_⟩, ?_⟩
  · simp only [ne_eq, List.take_eq_nil_iff, Text.decimal_ne_nil, or_false]
    omega
  · exact fun c hc => hdigits.2 c (List.mem_of_mem_take hc)
  · exact fun c hc => hdigits.2 c (List.mem_of_mem_drop hc)
  · have hdrop : (decimal n).drop whole.toNat ≠ [] := by
      simp only [ne_eq, List.drop_eq_nil_iff]
      omega
    simp [positionalText, h.not_ge, hlt.not_ge, pointed, hdrop]
  · have hexp : (0 : Int) - ((decimal n).drop whole.toNat).length =
        whole - (decimal n).length := by
      rw [List.length_drop]
      omega
    rw [Parts.exactValue, hsplit, Text.digitsValue_decimal, hexp]

/-- The digits of a number, with the point after the first `whole` of them. -/
theorem positionalText_spells (pointZero : Bool) (n : Nat) (whole : Int) :
    ∃ p : Parts, p.Spells (positionalText pointZero (decimal n) whole) ∧
      p.exactValue = n * (10 : ℚ) ^ (whole - (decimal n).length) := by
  rcases Int.lt_or_le 0 whole with h | h
  · rcases Nat.lt_or_ge whole.toNat (decimal n).length with hlt | hle
    · exact positionalText_split pointZero h hlt
    · exact positionalText_large pointZero h hle
  · exact positionalText_small pointZero h

/-- The sign of an exponent and its digits. -/
theorem writesExponent_sign (plus : Bool) (e : Int) :
    WritesExponent e
      (['e'] ++ (if e < 0 then ['-'] else if plus then ['+'] else []) ++ decimal e.natAbs) := by
  rcases Int.lt_or_le e 0 with h | h
  · have he : e = -(e.natAbs : Int) := by omega
    rw [if_pos h]
    nth_rewrite 1 [he]
    exact .minus _
  · have he : e = (e.natAbs : Int) := by omega
    rw [if_neg (by omega)]
    nth_rewrite 1 [he]
    cases plus with
    | true => exact .plus _
    | false => exact .plain _

/-- One digit, the others after a point, and the exponent of the first. -/
theorem exponentText_spells (plus : Bool) (n : Nat) (e : Int) :
    ∃ p : Parts, p.Spells (exponentText plus (decimal n) e) ∧
      p.exactValue = n * (10 : ℚ) ^ (e + 1 - (decimal n).length) := by
  have hlen : (decimal n).length ≠ 0 := by simp
  have hdigits := Text.isDigits_decimal n
  have hsplit : (decimal n).take 1 ++ (decimal n).drop 1 = decimal n := List.take_append_drop _ _
  refine ⟨⟨(decimal n).take 1, (decimal n).drop 1, e⟩,
    ⟨⟨?_, ?_⟩, ?_, _, writesExponent_sign plus e, ?_⟩, ?_⟩
  · simp [List.take_eq_nil_iff]
  · exact fun c hc => hdigits.2 c (List.mem_of_mem_take hc)
  · exact fun c hc => hdigits.2 c (List.mem_of_mem_drop hc)
  · unfold exponentText pointed
    simp only [List.append_assoc]
    cases (decimal n).drop 1 <;> rfl
  · have hexp : e - ((decimal n).drop 1).length = e + 1 - (decimal n).length := by
      rw [List.length_drop]
      omega
    rw [Parts.exactValue, hsplit, Text.digitsValue_decimal, hexp]

/-- A layout writes out the number that it is given. -/
theorem magnitudeText_spells (layout : Layout) (d : Numeral) :
    ∃ p : Parts, p.Spells (layout.magnitudeText d) ∧ p.exactValue = d.value := by
  unfold magnitudeText
  simp only
  split_ifs with h
  · obtain ⟨p, hp, hvalue⟩ := positionalText_spells layout.pointZero d.digits
      (d.exponent + (decimal d.digits).length - 1 + 1)
    refine ⟨p, hp, ?_⟩
    rw [hvalue, Numeral.value]
    congr 2
    omega
  · obtain ⟨p, hp, hvalue⟩ := exponentText_spells layout.plusExponent d.digits
      (d.exponent + (decimal d.digits).length - 1)
    refine ⟨p, hp, ?_⟩
    rw [hvalue, Numeral.value]
    congr 2
    omega

end Layout

end KustoSearch.Decimal
