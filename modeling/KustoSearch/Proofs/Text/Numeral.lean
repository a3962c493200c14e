import KustoSearch.Text.Numeral
import Mathlib.Data.List.Induction
import Mathlib.Tactic.IntervalCases
import Mathlib.Tactic.Ring

/-! # Decimal digits

`decimal` writes at least one digit and digits only, and `digitsValue` reads them back.
-/

namespace KustoSearch.Text

theorem toNat_digitChar {d : Nat} (h : d < 10) : (digitChar d).toNat = 48 + d := by
  interval_cases d <;> rfl

theorem isDigit_digitChar {d : Nat} (h : d < 10) : isDigit (digitChar d) = true := by
  interval_cases d <;> decide

theorem digitValue_digitChar {d : Nat} (h : d < 10) : digitValue (digitChar d) = d := by
  unfold digitValue
  rw [toNat_digitChar h]
  omega

/-- The digits are the characters from 48 to 57. -/
theorem isDigit_iff {c : Char} : isDigit c = true ↔ 48 ≤ c.toNat ∧ c.toNat ≤ 57 := by
  rw [isDigit, Bool.and_eq_true, decide_eq_true_iff, decide_eq_true_iff]
  exact Iff.rfl

theorem decimal_of_lt {n : Nat} (h : n < 10) : decimal n = [digitChar n] := by
  rw [decimal, if_pos h]

theorem decimal_of_ge {n : Nat} (h : ¬ n < 10) :
    decimal n = decimal (n / 10) ++ [digitChar (n % 10)] := by
  rw [decimal, if_neg h]

@[simp] theorem decimal_ne_nil (n : Nat) : decimal n ≠ [] := by
  by_cases h : n < 10
  · simp [decimal_of_lt h]
  · simp [decimal_of_ge h]

/-- A decimal numeral holds digits only. -/
theorem isDigit_of_mem_decimal {n : Nat} : ∀ c ∈ decimal n, isDigit c = true := by
  induction n using Nat.strongRecOn with
  | ind n ih =>
    by_cases h : n < 10
    · rw [decimal_of_lt h]
      intro c hc
      rw [List.mem_singleton] at hc
      rw [hc]
      exact isDigit_digitChar h
    · rw [decimal_of_ge h]
      intro c hc
      rcases List.mem_append.mp hc with hc | hc
      · exact ih (n / 10) (by omega) c hc
      · rw [List.mem_singleton] at hc
        rw [hc]
        exact isDigit_digitChar (by omega)

theorem all_isDigit_decimal (n : Nat) : (decimal n).all isDigit = true :=
  List.all_eq_true.mpr isDigit_of_mem_decimal

/-- Digits, with at least one of them. -/
def IsDigits (cs : List Char) : Prop := cs ≠ [] ∧ ∀ c ∈ cs, isDigit c = true

theorem isDigits_decimal (n : Nat) : IsDigits (decimal n) :=
  ⟨decimal_ne_nil n, isDigit_of_mem_decimal⟩

/-- Reading digits goes on from the value of the digits before them. -/
theorem digitsValue_append_singleton (cs : List Char) (c : Char) :
    digitsValue (cs ++ [c]) = 10 * digitsValue cs + digitValue c := by
  simp [digitsValue]

/-- Reading what was written gives the number back. -/
@[simp] theorem digitsValue_decimal (n : Nat) : digitsValue (decimal n) = n := by
  induction n using Nat.strongRecOn with
  | ind n ih =>
    by_cases h : n < 10
    · rw [decimal_of_lt h]
      simp [digitsValue, digitValue_digitChar h]
    · rw [decimal_of_ge h, digitsValue_append_singleton, ih (n / 10) (by omega),
        digitValue_digitChar (by omega)]
      omega

/-- The value of digits one after another. -/
theorem digitsValue_append (as bs : List Char) :
    digitsValue (as ++ bs) = digitsValue as * 10 ^ bs.length + digitsValue bs := by
  induction bs using List.reverseRecOn with
  | nil => simp [digitsValue]
  | append_singleton bs b ih =>
    rw [← List.append_assoc, digitsValue_append_singleton, digitsValue_append_singleton, ih,
      List.length_append, List.length_singleton, Nat.pow_succ]
    ring

@[simp] theorem digitsValue_replicate_zero (n : Nat) :
    digitsValue (List.replicate n '0') = 0 := by
  induction n with
  | zero => rfl
  | succ n ih =>
    rw [List.replicate_succ', digitsValue_append_singleton, ih]
    rfl

/-- A power of ten as a factor is zeros behind the digits. -/
theorem decimal_mul_pow {n : Nat} (h : 0 < n) (k : Nat) :
    decimal (n * 10 ^ k) = decimal n ++ List.replicate k '0' := by
  induction k with
  | zero => simp
  | succ k ih =>
    have hten : n * 10 ^ (k + 1) = 10 * (n * 10 ^ k) := by rw [Nat.pow_succ]; ring
    have hpos : 0 < n * 10 ^ k := Nat.mul_pos h (Nat.pow_pos (by decide))
    have hrest : 10 * (n * 10 ^ k) / 10 = n * 10 ^ k := by omega
    have hlast : 10 * (n * 10 ^ k) % 10 = 0 := by omega
    rw [hten, decimal_of_ge (by omega), hrest, hlast, ih, List.append_assoc,
      List.replicate_succ']
    rfl

@[simp] theorem natural?_decimal (n : Nat) : natural? (decimal n) = some n := by
  simp [natural?, all_isDigit_decimal]

@[simp] theorem toList_naturalText (n : Nat) : (naturalText n).toList = decimal n := by
  simp [naturalText]

/-- A number is told by its digits. -/
theorem decimal_injective {n m : Nat} (h : decimal n = decimal m) : n = m := by
  rw [← digitsValue_decimal n, h, digitsValue_decimal]

/-- A run of a class, with what cannot go on with it behind. -/
theorem takeWhile_append_of_head {α : Type} {p : α → Bool} {run r : List α}
    (hrun : ∀ c ∈ run, p c = true) (hrest : ∀ c ∈ r.head?, p c = false) :
    (run ++ r).takeWhile p = run ∧ (run ++ r).dropWhile p = r := by
  induction run with
  | nil =>
    cases r with
    | nil => simp
    | cons c cs =>
      have hc : p c = false := hrest c (by simp)
      simp [hc]
  | cons c cs ih =>
    have hc : p c = true := hrun c (by simp)
    obtain ⟨ht, hd⟩ := ih fun x hx => hrun x (by simp [hx])
    simp [hc, ht, hd]

theorem natural?_eq_some {cs : List Char} {n : Nat} :
    natural? cs = some n ↔ IsDigits cs ∧ digitsValue cs = n := by
  simp [natural?, IsDigits]

/-- An unsigned numeral is a run of digits, with or without a plus sign before it. -/
theorem unsigned?_eq_some {cs : List Char} {n : Nat} :
    unsigned? cs = some n ↔
      ∃ digits, IsDigits digits ∧ (cs = digits ∨ cs = '+' :: digits) ∧ digitsValue digits = n := by
  unfold unsigned?
  split
  · rename_i digits
    rw [natural?_eq_some]
    constructor
    · rintro ⟨hdigits, rfl⟩
      exact ⟨digits, hdigits, Or.inr rfl, rfl⟩
    · rintro ⟨digits', hdigits, rfl | hsame, rfl⟩
      · exact absurd (hdigits.2 '+' (by simp)) (by decide)
      · cases hsame
        exact ⟨hdigits, rfl⟩
  · rename_i hnone
    rw [natural?_eq_some]
    constructor
    · rintro ⟨hdigits, rfl⟩
      exact ⟨cs, hdigits, Or.inl rfl, rfl⟩
    · rintro ⟨digits, hdigits, rfl | rfl, rfl⟩
      · exact ⟨hdigits, rfl⟩
      · exact absurd rfl (hnone digits)

end KustoSearch.Text
