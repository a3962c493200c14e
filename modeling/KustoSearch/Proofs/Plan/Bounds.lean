import KustoSearch.Plan.Filter
import KustoSearch.Proofs.DateMath
import KustoSearch.Proofs.Decimal.Whole
import KustoSearch.Proofs.Json.Printer
import KustoSearch.Proofs.Text.Blank

/-! # Integers as bounds

A bound of a range that is an integer may be given as a number or as a text. A number is written as
it is. A text goes through the machine number nearest to it, and what is written are the shortest
digits of that one. Up to `2^53` this is the same integer, and above it need not be. Main result:
`integer_bounds`.
-/

namespace KustoSearch

open Kql (Comparison Context Literal Predicate)
open Kql.Scalar (evaluate?)

/-! ## Texts of integers -/

namespace Text

theorem toList_integerText (n : Int) :
    (integerText n).toList = (if n < 0 then ['-'] else []) ++ decimal n.natAbs := by
  rw [integerText]
  split_ifs with h
  · simp
  · simp

/-- The text of an integer holds digits, and a minus sign at most. -/
theorem chars_integerText {n : Int} :
    ∀ c ∈ (integerText n).toList, c = '-' ∨ isDigit c = true := by
  intro c hc
  rw [toList_integerText, List.mem_append] at hc
  rcases hc with hc | hc
  · split_ifs at hc with h
    · exact .inl (List.mem_singleton.mp hc)
    · cases hc
  · exact .inr (isDigit_of_mem_decimal c hc)

theorem not_mem_integerText {n : Int} {c : Char} (hminus : c ≠ '-') (hdigit : isDigit c = false) :
    c ∉ (integerText n).toList := by
  intro hc
  rcases chars_integerText c hc with h | h
  · exact hminus h
  · rw [h] at hdigit
    cases hdigit

theorem trim_integerText (n : Int) : trim (integerText n).toList = (integerText n).toList := by
  apply trim_of_not_blank
  intro c hc
  rcases chars_integerText c hc with rfl | h
  · decide
  · exact isBlank_of_isDigit h

end Text

/-- An integer is no date math. -/
theorem DateMath.read_integerText (n : Int) : read (Text.integerText n) = .ok none := by
  have hnow : Text.stripLead? ['n', 'o', 'w'] (Text.integerText n).toList = none := by
    rw [Option.eq_none_iff_forall_ne_some]
    intro rest h
    have hmem : 'n' ∈ (Text.integerText n).toList := by simp [Text.stripLead?_eq_some h]
    exact Text.not_mem_integerText (by decide) (by decide) hmem
  have hmark : Text.splitAt? ['|', '|'] (Text.integerText n).toList = none := by
    rw [Option.eq_none_iff_forall_ne_some]
    rintro ⟨before, after⟩ h
    have hmem : '|' ∈ (Text.integerText n).toList := by simp [Text.splitAt?_eq_some h]
    exact Text.not_mem_integerText (by decide) (by decide) hmem
  simp only [read, Text.trim_integerText, anchor?, hnow, hmark]

/-! ## Texts as machine numbers -/

namespace Decimal

theorem lowerChar_of_isDigit {c : Char} (h : Text.isDigit c = true) : Text.lowerChar c = c := by
  obtain ⟨_, hhigh⟩ := Text.isDigit_iff.mp h
  have hsmall : ¬ ('A' ≤ c && c ≤ 'Z') = true := by
    rw [Bool.and_eq_true, decide_eq_true_iff, decide_eq_true_iff]
    intro hcapital
    have hleast : 'A'.toNat ≤ c.toNat := hcapital.1
    exact absurd (hleast.trans hhigh) (by decide)
  rw [Text.lowerChar, if_neg hsmall]

/-- Digits are converted as a whole number. -/
theorem magnitude?_decimal (n : Nat) :
    magnitude? (Text.decimal n) =
      some (if n = 0 then 0.0 else Float.ofScientific n false 0) := by
  have hdigits := Text.isDigits_decimal n
  have hlower : (Text.decimal n).map Text.lowerChar = Text.decimal n :=
    (List.map_congr_left fun c hc => lowerChar_of_isDigit (hdigits.2 c hc)).trans
      (List.map_id' _)
  have hname : ∀ {name : List Char} {c : Char}, c ∈ name → Text.isDigit c = false →
      Text.decimal n ≠ name := by
    rintro name c hc hdigit rfl
    rw [hdigits.2 c hc] at hdigit
    cases hdigit
  have hspells : (⟨Text.decimal n, [], 0⟩ : Parts).Spells (Text.decimal n) :=
    ⟨hdigits, by simp, [], .none, by simp [pointed]⟩
  have hsize : ¬ ((0 : Int) - (0 : Nat) + (Text.decimal n).length < -400) := by omega
  have hinf : Text.decimal n ≠ "inf".toList := hname (c := 'i') (by decide) (by decide)
  have hinfinity : Text.decimal n ≠ "infinity".toList := hname (c := 'i') (by decide) (by decide)
  have hnan : Text.decimal n ≠ "nan".toList := hname (c := 'n') (by decide) (by decide)
  simp only [magnitude?, hlower, hinf, hinfinity, hnan, decide_false, Bool.or_self,
    Bool.false_eq_true, if_false, hspells.parts?_eq, Option.map_some, Parts.value,
    List.append_nil, Text.digitsValue_decimal, List.length_nil, scaled, hsize]
  rfl

theorem float?_integerText {n : Int} (h : n ≠ 0) :
    float? (Text.integerText n).toList =
      some (if n < 0 then -(Float.ofScientific n.natAbs false 0)
        else Float.ofScientific n.natAbs false 0) := by
  have hmagnitude := magnitude?_decimal n.natAbs
  rw [if_neg (Int.natAbs_ne_zero.mpr h)] at hmagnitude
  rw [Text.toList_integerText]
  split_ifs with hneg
  · rw [List.singleton_append, float?, hmagnitude, Option.map_some]
  · -- the first digit is no sign
    have hfirst : ∀ c ∈ (Text.decimal n.natAbs).head?, c ≠ '-' ∧ c ≠ '+' := by
      intro c hc
      have hdigit := Text.isDigit_of_mem_decimal c (List.mem_of_mem_head? hc)
      constructor
      · rintro rfl
        cases hdigit
      · rintro rfl
        cases hdigit
    rw [List.nil_append]
    unfold float?
    split
    · next hminus => exact absurd rfl (hfirst '-' (by simp [hminus])).1
    · next hplus => exact absurd rfl (hfirst '+' (by simp [hplus])).2
    · exact hmagnitude

theorem finite?_zero : finite? (Text.integerText 0).toList = some .zero := by
  decide +kernel

/-- The text of an integer of up to 64 bits is read as the machine number nearest to it. -/
theorem finite?_integerText {n : Int} (h : n ≠ 0) (hn : n.natAbs < 2 ^ 64) :
    ∃ x, finite? (Text.integerText n).toList = some x ∧ x.isNegative = decide (n < 0) ∧
      Rounding.Approximates n.natAbs x := by
  obtain ⟨x, hx, hsign, hparts⟩ :=
    Rounding.exists_nearest (Int.natAbs_pos.mpr h) hn (decide (n < 0))
  refine ⟨x, ?_, hsign, hparts⟩
  rw [finite?, float?_integerText h, Option.bind_some]
  simpa using hx

/-- What becomes of an integer `n` that is read as a machine number `x` and written out as `v`. -/
structure PassesAs (n : Int) (x : Binary64) (v : Int) : Prop where
  nearest : RoundsTo n.natAbs x
  negative : x.isNegative = true ↔ n < 0
  /-- What is written has the shortest digits that read back as the machine number. -/
  shortest : (shortest .upward x).value = v.natAbs
  readsBack : RoundsTo v.natAbs x
  sign : v < 0 ↔ n < 0
  text : plainText x = Text.integerText v
  /-- Whole numbers of up to 53 bits are machine numbers themselves. -/
  exact : n.natAbs ≤ 2 ^ 53 → v = n

theorem passesAs_zero : PassesAs 0 .zero 0 where
  nearest := roundsTo_zero
  negative := by decide
  shortest := shortest_of_isZero .upward (by decide)
  readsBack := roundsTo_zero
  sign := by decide
  text := by decide +kernel
  exact := fun _ => rfl

/-- Every integer of up to 64 bits passes through a machine number. -/
theorem exists_passesAs {n : Int} (hn : n.natAbs < 2 ^ 64) :
    ∃ x v, finite? (Text.integerText n).toList = some x ∧ PassesAs n x v := by
  by_cases hzero : n = 0
  · subst hzero
    exact ⟨.zero, 0, finite?_zero, passesAs_zero⟩
  · obtain ⟨x, hx, hsign, hnearest, ⟨w, hw, hwhole⟩, hnarrow⟩ := finite?_integerText hzero hn
    have hone : 1 ≤ x.magnitude := by
      rw [hwhole]
      exact_mod_cast hw
    obtain ⟨v, hvalue, hback, htext⟩ := plainText_whole hwhole hone
    have hpos : 0 < v := by
      have hlower := (lower_pos (isZero_of_one_le hone)).trans_le hback.lower
      exact_mod_cast hlower
    -- below `2 ^ 53` no two whole numbers have one machine number, at it the digits are looked at
    have hexact : n.natAbs ≤ 2 ^ 53 → v = n.natAbs := by
      intro hle
      rcases Nat.lt_or_eq_of_le hle with hlt | heq
      · obtain ⟨hmagnitude, hpower⟩ := hnarrow hlt
        exact eq_of_roundsTo_whole hmagnitude hpower hback
      · rw [heq] at hnearest ⊢
        exact_mod_cast hvalue.symm.trans (shortest_two_pow hnearest)
    have hnegative : x.isNegative = true ↔ n < 0 := by rw [hsign, decide_eq_true_iff]
    refine ⟨x, _, hx, hnearest, hnegative, ?_, ?_, ?_, htext, fun hle => ?_⟩
    · split_ifs
      · rwa [Int.natAbs_neg, Int.natAbs_natCast]
      · rwa [Int.natAbs_natCast]
    · split_ifs
      · rwa [Int.natAbs_neg, Int.natAbs_natCast]
      · rwa [Int.natAbs_natCast]
    · split_ifs with hneg <;> rw [hnegative] at hneg <;> omega
    · have hv := hexact hle
      split_ifs with hneg <;> rw [hnegative] at hneg <;> omega

end Decimal

/-! ## Ranges -/

namespace Query

/-- The places of a bound in a range. -/
inductive Place where
  | gt
  | gte
  | lt
  | lte
deriving DecidableEq, Repr

namespace Place

/-- How a place compares. -/
def comparison : Place → Comparison
  | .gt => .greater
  | .gte => .atLeast
  | .lt => .less
  | .lte => .atMost

/-- A range without a format that has a value at a place, and maybe a bound at its other end. -/
def range (place : Place) (field : String) (value : Json) (other : Option Bound) : Query :=
  match place with
  | .gt => .range field (some ⟨value, false⟩) other none
  | .gte => .range field (some ⟨value, true⟩) other none
  | .lt => .range field other (some ⟨value, false⟩) none
  | .lte => .range field other (some ⟨value, true⟩) none

/-- The test of a bound at the other end. -/
def otherTest (place : Place) (field : String) (b : Bound) : Except Failure Predicate :=
  match place with
  | .gt => upperTest field none b
  | .gte => upperTest field none b
  | .lt => lowerTest field none b
  | .lte => lowerTest field none b

/-- The test at a place beside the test at the other end; the lower end stands first. -/
def both (place : Place) (own other : Predicate) : Predicate :=
  match place with
  | .gt => .between own other
  | .gte => .between own other
  | .lt => .between other own
  | .lte => .between other own

/-- The predicate of a range with a literal at a place. -/
def compared (place : Place) (field : String) (literal : Literal) (other : Option Bound) :
    Except Failure Predicate :=
  let own := Predicate.test (.column field) place.comparison literal
  match other with
  | none => .ok own
  | some b => (place.otherTest field b).map (place.both own)

theorem predicate_range {place : Place} {field : String} {value : Json} {literal : Literal}
    (h : ∀ roundUp, boundLiteral field value none roundUp = .ok literal) (other : Option Bound) :
    (place.range field value other).predicate = place.compared field literal other := by
  have hlower : ∀ inclusive, lowerTest field none ⟨value, inclusive⟩ =
      .ok (.test (.column field) (if inclusive then .atLeast else .greater) literal) := by
    intro inclusive
    rw [lowerTest, h]
    rfl
  have hupper : ∀ inclusive, upperTest field none ⟨value, inclusive⟩ =
      .ok (.test (.column field) (if inclusive then .atMost else .less) literal) := by
    intro inclusive
    rw [upperTest, h]
    rfl
  cases place <;> cases other with
  | none => simp [range, compared, comparison, predicate, rangePredicate, hlower, hupper]
  | some b =>
    simp only [range, compared, comparison, otherTest, predicate, rangePredicate, hlower, hupper]
    rfl

end Place

theorem boundLiteral_number (field : String) (k : Number) (roundUp : Bool) :
    boundLiteral field (.number k) none roundUp = .ok (.number k) := rfl

/-- A text that is read as a machine number is a bound as this number. -/
theorem boundLiteral_integerText (field : String) {n : Int} {x : Binary64}
    (h : Decimal.finite? (Text.integerText n).toList = some x) (roundUp : Bool) :
    boundLiteral field (.string (Text.integerText n)) none roundUp = .ok (.real x) := by
  simp [boundLiteral, textBound, DateMath.read_integerText, Text.trim_integerText, h]

/-- An integer of 64 bits is a number, with its digits as the text. -/
theorem exists_ofInt? {n : Int} (hleast : -2 ^ 63 ≤ n) (hmost : n < 2 ^ 63) :
    ∃ k, Number.ofInt? n = some k ∧ k.text = Text.integerText n := by
  cases n with
  | ofNat m =>
    have hm : m < 2 ^ 64 := by
      have hcast : (m : Int) < 2 ^ 63 := hmost
      omega
    refine ⟨.natural m.toUInt64, if_pos hm, ?_⟩
    have hback : m.toUInt64.toNat = m := by
      rw [UInt64.toNat_ofNat']
      omega
    rw [Number.text, Number.chars, hback]
    rfl
  | negSucc m =>
    have hm : m < Nat.pow 2 63 := by
      have hcast : m < 2 ^ 63 := by omega
      exact hcast
    refine ⟨.negative ⟨m, hm⟩, dif_pos hm, ?_⟩
    rw [Number.text, Number.chars, Text.integerText, if_pos (Int.negSucc_lt_zero m),
      Text.naturalText, ← String.toList_inj]
    simp

/-- An integer of 64 bits as a bound. Given as a number it is compared with as it is. Given as a
text it is compared with in the same predicate, but as the integer that it passes as on its way
through a machine number; up to `2^53` this is the integer itself. -/
theorem integer_bounds {n : Int} (hleast : -2 ^ 63 ≤ n) (hmost : n < 2 ^ 63) :
    ∃ k x v, Number.ofInt? n = some k ∧ Decimal.PassesAs n x v ∧
      (∀ (place : Place) (field : String) (other : Option Bound),
        (place.range field (.number k) other).predicate =
            place.compared field (.number k) other ∧
        (place.range field (.string (Text.integerText n)) other).predicate =
            place.compared field (.real x) other) ∧
      ∀ context : Context,
        evaluate? context (Literal.number k).chars = some (.number n) ∧
        evaluate? context (Literal.real x).chars = some (.number v) := by
  obtain ⟨x, v, hx, hpasses⟩ := Decimal.exists_passesAs (n := n) (by omega)
  obtain ⟨k, hk, htext⟩ := exists_ofInt? hleast hmost
  refine ⟨k, x, v, hk, hpasses, fun place field other => ⟨?_, ?_⟩, fun context => ⟨?_, ?_⟩⟩
  · exact Place.predicate_range (boundLiteral_number field k) other
  · exact Place.predicate_range (boundLiteral_integerText field hx) other
  · rw [Literal.chars, htext]
    exact (Kql.Scalar.isWorth_integer n).comesTo.evaluate?_eq
  · rw [Literal.chars, hpasses.text]
    exact (Kql.Scalar.isWorth_integer v).comesTo.evaluate?_eq

/-- Above `2^53` a text can pass as another integer, so that rows are let in which the number keeps
out. -/
theorem integer_bounds_wide :
    (Place.gt.range "f" (.number (.natural 9007199254740993)) none).predicate.map Predicate.text =
        .ok "['f'] > 9007199254740993" ∧
      (Place.gt.range "f" (.string "9007199254740993") none).predicate.map Predicate.text =
        .ok "['f'] > 9007199254740992" := by
  have hleast : -2 ^ 63 ≤ (9007199254740993 : Int) := by decide
  have hmost : (9007199254740993 : Int) < 2 ^ 63 := by decide
  obtain ⟨k, x, v, hk, hpasses, hranges, _⟩ := integer_bounds hleast hmost
  obtain ⟨hnumber, htext⟩ := hranges .gt "f" none
  obtain rfl : k = .natural 9007199254740993 := Option.some.inj (hk.symm.trans (by decide))
  have hx : x = ⟨0x4340000000000000, by decide⟩ := by
    refine Decimal.eq_of_roundsTo ?_ hpasses.nearest ⟨?_, ?_, fun hodd => absurd hodd (by decide)⟩
    · have hpositive : ¬ x.isNegative = true := fun h => absurd (hpasses.negative.mp h) (by decide)
      rw [Bool.eq_false_iff.mpr hpositive]
      decide
    · have hquarters : Decimal.quartersBelow ⟨0x4340000000000000, by decide⟩ = 2 ^ 54 - 1 := by
        decide
      have hpower : Binary64.power ⟨0x4340000000000000, by decide⟩ = 1 := by decide
      rw [Decimal.lower, hquarters, hpower]
      norm_num
    · have hcoefficient : Binary64.coefficient ⟨0x4340000000000000, by decide⟩ = 2 ^ 52 := by decide
      have hpower : Binary64.power ⟨0x4340000000000000, by decide⟩ = 1 := by decide
      rw [Decimal.upper, hcoefficient, hpower]
      norm_num
  have hspelled : Text.integerText 9007199254740993 = "9007199254740993" := by decide +kernel
  rw [hx, hspelled] at htext
  rw [hnumber, htext]
  exact ⟨congrArg Except.ok (by decide +kernel), congrArg Except.ok (by decide +kernel)⟩

end Query

end KustoSearch
