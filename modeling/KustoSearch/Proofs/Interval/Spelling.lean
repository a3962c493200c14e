import KustoSearch.Proofs.Interval
import KustoSearch.Proofs.Plan.DateKey
import KustoSearch.Proofs.Text.Blank

/-! # Spelling of fixed intervals

The texts that stand for a fixed interval: a name, or a run of digits with a unit behind it. A
length in milliseconds is written in the longest unit of a timespan that divides it, which is one of
these texts and is read back as the same length. Main result: `spelling_determined`.
-/

namespace KustoSearch

open Kql (Context Span SpanUnit)
open Kql.Scalar (evaluate?)

namespace Interval

/-- The texts of a number of milliseconds. -/
inductive Spells : List Char → Int64 → Prop where
  | name {name : String} {millis : Int64} (hname : (name, .fixed millis) ∈ names) :
    Spells name.toList millis
  | count {digits : List Char} {unit : String} {millis : Nat} (hdigits : Text.IsDigits digits)
    (hunit : (unit, millis) ∈ fixedUnits) (hsome : 1 ≤ Text.digitsValue digits)
    (hfits : Text.digitsValue digits * millis ≤ 2 ^ 63 - 1) :
    Spells (digits ++ unit.toList) (.ofNat (Text.digitsValue digits * millis))

/-- No unit of a fixed length begins with a digit, and none has a blank in it. -/
theorem chars_of_mem_fixedUnits {unit : String} {millis : Nat} (h : (unit, millis) ∈ fixedUnits) :
    ∀ c ∈ unit.toList, Text.isDigit c = false ∧ Text.isBlank c = false := by
  have hall : ∀ u ∈ fixedUnits,
      (u.1.toList.all fun c => !Text.isDigit c && !Text.isBlank c) = true := by decide
  intro c hc
  simpa using List.all_eq_true.mp (hall (unit, millis) h) c hc

/-- A run of digits ends where its unit begins. -/
theorem split_count {digits : List Char} {unit : String} {millis : Nat}
    (hdigits : Text.IsDigits digits) (hunit : (unit, millis) ∈ fixedUnits) :
    (digits ++ unit.toList).takeWhile Text.isDigit = digits ∧
      (digits ++ unit.toList).dropWhile Text.isDigit = unit.toList :=
  Text.takeWhile_append_of_head hdigits.2 fun c hc =>
    (chars_of_mem_fixedUnits hunit c (List.mem_of_mem_head? hc)).1

/-- A number with a unit is no name, not even of a calendar unit. -/
theorem named?_count {digits : List Char} {unit : String} {millis : Nat}
    (hdigits : Text.IsDigits digits) (hunit : (unit, millis) ∈ fixedUnits) :
    named? (digits ++ unit.toList) = none := by
  rw [Option.eq_none_iff_forall_ne_some]
  intro interval h
  obtain ⟨name, hname, htext⟩ := named?_eq_some.mp h
  -- what stands behind the digits of a name is no such unit
  have hall : ∀ n ∈ names, ∀ u ∈ fixedUnits, n.1.toList.dropWhile Text.isDigit ≠ u.1.toList := by
    decide
  have htail := (split_count hdigits hunit).2
  rw [htext] at htail
  exact hall (name, interval) hname (unit, millis) hunit htail

theorem counted?_eq_fixed {cs : List Char} {span : Int64} :
    counted? cs = some (.fixed span) ↔ ∃ digits unit millis, cs = digits ++ unit.toList ∧
      Text.IsDigits digits ∧ (unit, millis) ∈ fixedUnits ∧ 1 ≤ Text.digitsValue digits ∧
      Text.digitsValue digits * millis ≤ 2 ^ 63 - 1 ∧
      span = .ofNat (Text.digitsValue digits * millis) := by
  constructor
  · intro h
    obtain ⟨count, hcount, h⟩ := Option.bind_eq_some_iff.mp h
    obtain ⟨millis, hmillis, h⟩ := Option.bind_eq_some_iff.mp h
    obtain ⟨hdigits, rfl⟩ := Text.natural?_eq_some.mp hcount
    obtain ⟨unit, hunit, htail⟩ := unitMillis?_eq_some.mp hmillis
    split_ifs at h with hbounds
    rw [Bool.and_eq_true, decide_eq_true_iff, decide_eq_true_iff] at hbounds
    cases h
    refine ⟨_, unit, millis, ?_, hdigits, hunit, hbounds.1, Nat.le_pred_of_lt hbounds.2, rfl⟩
    rw [← htail, List.takeWhile_append_dropWhile]
  · rintro ⟨digits, unit, millis, rfl, hdigits, hunit, hsome, hfits, rfl⟩
    obtain ⟨htake, hdrop⟩ := split_count hdigits hunit
    have hlt : Text.digitsValue digits * millis < Nat.pow 2 63 :=
      Nat.lt_of_le_pred (by decide) hfits
    simp [counted?, htake, hdrop, Text.natural?_eq_some.mpr ⟨hdigits, rfl⟩,
      unitMillis?_eq_some.mpr ⟨unit, hunit, rfl⟩, hsome, hlt]

theorem Spells.not_blank {cs : List Char} {span : Int64} (h : Spells cs span) :
    ∀ c ∈ cs, Text.isBlank c = false := by
  cases h with
  | @name name _ hname =>
    have hall : ∀ n ∈ names, (n.1.toList.all fun c => !Text.isBlank c) = true := by decide
    intro c hc
    simpa using List.all_eq_true.mp (hall (name, .fixed span) hname) c hc
  | count hdigits hunit =>
    intro c hc
    rcases List.mem_append.mp hc with hc | hc
    · exact Text.isBlank_of_isDigit (hdigits.2 c hc)
    · exact (chars_of_mem_fixedUnits hunit c hc).2

/-- The texts that are read as a fixed interval, without the blanks around them. -/
theorem parse?_eq_fixed {s : String} {span : Int64} :
    parse? s = some (.fixed span) ↔ Spells (Text.trim s.toList) span := by
  constructor
  · intro h
    unfold parse? at h
    dsimp only at h
    cases hname : named? (Text.trim s.toList) with
    | some interval =>
      rw [hname] at h
      cases h
      obtain ⟨name, hmem, htext⟩ := named?_eq_some.mp hname
      rw [htext]
      exact .name hmem
    | none =>
      rw [hname] at h
      obtain ⟨digits, unit, millis, htext, hdigits, hunit, hsome, hfits, rfl⟩ :=
        counted?_eq_fixed.mp h
      rw [htext]
      exact .count hdigits hunit hsome hfits
  · intro h
    unfold parse?
    dsimp only
    generalize Text.trim s.toList = cs at h
    cases h with
    | name hname => rw [named?_eq_some.mpr ⟨_, hname, rfl⟩]
    | count hdigits hunit hsome hfits =>
      rw [named?_count hdigits hunit]
      exact counted?_eq_fixed.mpr ⟨_, _, _, rfl, hdigits, hunit, hsome, hfits, rfl⟩

/-! ## Lengths that are written -/

/-- A length is a count of the longest unit that divides it. -/
theorem ofMillis_eq (total : Nat) : ∃ (count : Nat) (unit : SpanUnit),
    Span.ofMillis total = ⟨count, unit⟩ ∧ count * unit.millis = total ∧
      ∀ other : SpanUnit, other.millis ∣ total → other.millis ≤ unit.millis := by
  have hall : ∀ other : SpanUnit, other ∈ SpanUnit.all := fun other => by cases other <;> decide
  have hdivides : ∀ other : SpanUnit,
      ((total : Int) % other.millis == 0) = true ↔ other.millis ∣ total := by
    intro other
    rw [beq_iff_eq, ← Int.dvd_iff_emod_eq_zero, Int.natCast_dvd_natCast]
  cases hfind : SpanUnit.all.find? fun u => (total : Int) % u.millis == 0 with
  | none =>
    rw [List.find?_eq_none] at hfind
    exact absurd ((hdivides .milli).mpr (one_dvd total)) (hfind .milli (hall .milli))
  | some unit =>
    obtain ⟨hunit, longer, shorter, hsplit, hlonger⟩ := List.find?_eq_some_iff_append.mp hfind
    rw [hdivides] at hunit
    refine ⟨total / unit.millis, unit, ?_, Nat.div_mul_cancel hunit, fun other hother => ?_⟩
    · rw [Span.ofMillis, hfind, Int.natCast_ediv]
      rfl
    · -- the units are listed from the longest one on, and no longer one divides
      have hsorted : SpanUnit.all.Pairwise fun u v => v.millis ≤ u.millis := by decide
      rw [hsplit, List.pairwise_append, List.pairwise_cons] at hsorted
      have hmem := hall other
      rw [hsplit, List.mem_append, List.mem_cons] at hmem
      rcases hmem with hmem | rfl | hmem
      · have hnot := hlonger other hmem
        rw [(hdivides other).mpr hother] at hnot
        cases hnot
      · exact le_refl _
      · exact hsorted.2.1.1 other hmem

theorem text_ofMillis {total count : Nat} {unit : SpanUnit}
    (h : Span.ofMillis total = ⟨count, unit⟩) :
    (Span.ofMillis total).text = Text.naturalText count ++ unit.mark := by
  rw [h, Span.text, Text.integerText, if_neg (by simp), Int.natAbs_natCast]

/-- What a length is written as spells this length. -/
theorem spells_ofMillis {total : Nat} (hsome : 1 ≤ total) (hfits : total ≤ 2 ^ 63 - 1) :
    Spells (Span.ofMillis total).text.toList (.ofNat total) := by
  obtain ⟨count, unit, hspan, htotal, _⟩ := ofMillis_eq total
  have hunit : (unit.mark, unit.millis) ∈ fixedUnits := by cases unit <;> decide
  have hcount : 1 ≤ count := by
    apply Nat.pos_of_ne_zero
    rintro rfl
    rw [Nat.zero_mul] at htotal
    omega
  have hspells := Spells.count (Text.isDigits_decimal count) hunit
  rw [Text.digitsValue_decimal, htotal] at hspells
  rw [text_ofMillis hspan, String.toList_append, Text.toList_naturalText]
  exact hspells hcount hfits

theorem evaluate?_ofMillis (context : Context) (total : Nat) :
    evaluate? context (Span.ofMillis total).text = some (.span (total * 1000000)) := by
  have hworth := @Kql.Scalar.isWorth_span context (Span.ofMillis total)
  rw [Span.millis_ofMillis] at hworth
  exact hworth.comesTo.evaluate?_eq

/-- A text is read as a fixed interval exactly if it spells the length between blanks. Every length
of at least a millisecond that fits 63 bits is written as a timespan of this length, in the longest
unit that divides it, and what is written is read back. -/
theorem spelling_determined :
    (∀ (s : String) (span : Int64), parse? s = some (.fixed span) ↔
      ∃ before body after, s.toList = before ++ body ++ after ∧
        (∀ c ∈ before, Text.isBlank c = true) ∧ (∀ c ∈ after, Text.isBlank c = true) ∧
        Spells body span) ∧
    ∀ span : Int64, 1 ≤ span.toInt →
      (∀ context : Context, evaluate? context (Span.ofMillis span.toInt).text =
        some (.span (span.toInt * 1000000))) ∧
      (∃ (count : Nat) (unit : SpanUnit),
        (Span.ofMillis span.toInt).text = Text.naturalText count ++ unit.mark ∧
        (count : Int) * unit.millis = span.toInt ∧
        ∀ other : SpanUnit, (other.millis : Int) ∣ span.toInt → other.millis ≤ unit.millis) ∧
      parse? (Span.ofMillis span.toInt).text = some (.fixed span) := by
  constructor
  · intro s span
    rw [parse?_eq_fixed]
    constructor
    · intro h
      obtain ⟨before, after, htext, hbefore, hafter⟩ := Text.exists_surrounded_trim s.toList
      exact ⟨before, _, after, htext, hbefore, hafter, h⟩
    · rintro ⟨before, body, after, htext, hbefore, hafter, h⟩
      rw [htext, Text.trim_of_surrounded hbefore h.not_blank hafter]
      exact h
  · intro span hsome
    have hfits := span.toInt_lt
    obtain ⟨total, htotal⟩ := Int.eq_ofNat_of_zero_le (show 0 ≤ span.toInt by omega)
    have hspan : Int64.ofNat total = span := by
      rw [← Int64.toInt_inj, Int64.toInt_ofNat_of_lt (by omega), htotal]
    rw [htotal]
    refine ⟨fun context => evaluate?_ofMillis context total, ?_, ?_⟩
    · obtain ⟨count, unit, hwritten, hcount, hlongest⟩ := ofMillis_eq total
      refine ⟨count, unit, text_ofMillis hwritten, by rw [← hcount, Nat.cast_mul], ?_⟩
      exact fun other hother => hlongest other (Int.natCast_dvd_natCast.mp hother)
    · have hspells := spells_ofMillis (show 1 ≤ total by omega) (by omega)
      rw [parse?_eq_fixed, Text.trim_of_not_blank hspells.not_blank, ← hspan]
      exact hspells

/-- Ninety minutes are no whole number of hours. -/
theorem spelling_determined_ninetyMinutes :
    parse? " 0090m\n" = some (.fixed 5400000) ∧
      (Span.ofMillis 5400000).text = "90m" ∧
      parse? (Span.ofMillis 5400000).text = some (.fixed 5400000) := by
  refine ⟨?_, by decide +kernel, (spelling_determined.2 5400000 (by decide)).2.2⟩
  have hdigits : Text.IsDigits ['0', '0', '9', '0'] := ⟨by decide, List.all_eq_true.mp rfl⟩
  have hspells : Spells "0090m".toList 5400000 :=
    @Spells.count _ "m" 60000 hdigits (by decide) (by decide) (by decide)
  exact (spelling_determined.1 _ _).mpr ⟨[' '], "0090m".toList, ['\n'], rfl,
    List.all_eq_true.mp rfl, List.all_eq_true.mp rfl, hspells⟩

end Interval

end KustoSearch
