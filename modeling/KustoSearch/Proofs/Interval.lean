import KustoSearch.Interval
import KustoSearch.Proofs.Calendar.Instant
import Mathlib.Algebra.Order.Group.Unbundled.Int

/-! # Buckets of an interval

The buckets of an interval are numbered in order, each one from its edge up to the edge of the
next. The start of a bucket is the edge that an instant lies behind, and the next start is the next
edge where the calendar has it. That sums are taken in 64 bits never shows (`start?_fixed`). Main
result: `parse?_partition`.
-/

namespace KustoSearch

open Calendar

namespace Interval

/-! ## Names and units -/

/-- The names of intervals. -/
def names : List (String × Interval) :=
  [("second", .fixed 1000), ("minute", .fixed (60 * 1000)), ("hour", .fixed (60 * 60 * 1000)),
    ("day", .fixed (24 * 60 * 60 * 1000)), ("week", .fixed (7 * 24 * 60 * 60 * 1000)),
    ("month", .month), ("1M", .month), ("quarter", .quarter), ("1q", .quarter), ("year", .year),
    ("1y", .year)]

/-- The units behind a number with their lengths in milliseconds. -/
def fixedUnits : List (String × Nat) :=
  [("ms", 1), ("s", 1000), ("m", 60 * 1000), ("h", 60 * 60 * 1000),
    ("d", 24 * 60 * 60 * 1000), ("w", 7 * 24 * 60 * 60 * 1000)]

theorem named?_eq_some {cs : List Char} {interval : Interval} :
    named? cs = some interval ↔ ∃ name, (name, interval) ∈ names ∧ cs = name.toList := by
  constructor
  · intro h
    unfold named? at h
    split at h
    all_goals cases h
    · exact ⟨"second", by decide, rfl⟩
    · exact ⟨"minute", by decide, rfl⟩
    · exact ⟨"hour", by decide, rfl⟩
    · exact ⟨"day", by decide, rfl⟩
    · exact ⟨"week", by decide, rfl⟩
    · exact ⟨"month", by decide, rfl⟩
    · exact ⟨"1M", by decide, rfl⟩
    · exact ⟨"quarter", by decide, rfl⟩
    · exact ⟨"1q", by decide, rfl⟩
    · exact ⟨"year", by decide, rfl⟩
    · exact ⟨"1y", by decide, rfl⟩
  · rintro ⟨name, hname, rfl⟩
    have hall : ∀ n ∈ names, named? n.1.toList = some n.2 := by decide
    exact hall (name, interval) hname

theorem unitMillis?_eq_some {cs : List Char} {millis : Nat} :
    unitMillis? cs = some millis ↔ ∃ unit, (unit, millis) ∈ fixedUnits ∧ cs = unit.toList := by
  constructor
  · intro h
    unfold unitMillis? at h
    split at h
    all_goals cases h
    · exact ⟨"ms", by decide, rfl⟩
    · exact ⟨"s", by decide, rfl⟩
    · exact ⟨"m", by decide, rfl⟩
    · exact ⟨"h", by decide, rfl⟩
    · exact ⟨"d", by decide, rfl⟩
    · exact ⟨"w", by decide, rfl⟩
  · rintro ⟨unit, hunit, rfl⟩
    have hall : ∀ u ∈ fixedUnits, unitMillis? u.1.toList = some u.2 := by decide
    exact hall (unit, millis) hunit

/-! ## Starts -/

/-- The start of the bucket that an instant falls into. An instant that has none stands for
itself. -/
def start (interval : Interval) (t : Instant) : Instant := (interval.start? t).getD t

/-- Every instant has a start, unless its interval is one of no length. -/
theorem start?_eq_none {interval : Interval} {t : Instant} :
    interval.start? t = none ↔ interval = .fixed 0 := by
  cases interval with
  | fixed ms =>
    rw [start?, Option.map_eq_none_iff, remainder?, Interval.fixed.injEq]
    split_ifs with hzero
    · exact iff_of_true rfl hzero
    · exact iff_of_false (by simp) hzero
  | month => exact iff_of_false (by simp [start?]) (by simp)
  | quarter => exact iff_of_false (by simp [start?]) (by simp)
  | year => exact iff_of_false (by simp [start?]) (by simp)

theorem start?_eq_start {interval : Interval} (h : interval ≠ .fixed 0) (t : Instant) :
    interval.start? t = some (interval.start t) := by
  obtain ⟨s, hs⟩ := Option.ne_none_iff_exists'.mp (start?_eq_none.not.mpr h)
  rw [start, hs, Option.getD_some]

/-- Rounding a small number down to a multiple of a length never leaves 64 bits. -/
theorem emod_fits {offset : Int} (h : -2 ^ 62 ≤ offset ∧ offset < 2 ^ 62) {ms : Int64}
    (hms : ms ≠ 0) :
    0 ≤ offset % ms.toInt ∧ offset % ms.toInt < 2 ^ 63 ∧
      -2 ^ 63 ≤ offset - offset % ms.toInt := by
  have hne : ms.toInt ≠ 0 := fun h => hms (Int64.toInt_inj.mp h)
  have hlow := ms.le_toInt
  have hhigh := ms.toInt_lt
  obtain ⟨length, hpos, hsize, hsame⟩ : ∃ length : Int, 0 < length ∧ length ≤ 2 ^ 63 ∧
      offset % ms.toInt = offset % length :=
    ⟨|ms.toInt|, abs_pos.mpr hne, by rw [Int.abs_eq_natAbs]; omega, (Int.emod_abs offset _).symm⟩
  have hnonneg := Int.emod_nonneg offset hpos.ne'
  have hlt := Int.emod_lt_of_pos offset hpos
  rw [hsame]
  refine ⟨hnonneg, by omega, ?_⟩
  rcases Int.lt_or_le offset 0 with hbelow | habove
  · rcases Int.lt_or_le offset (-length) with hfar | hnear
    · omega
    · -- less than a length below zero, the multiple is the length below zero
      rw [← Int.add_emod_right, Int.emod_eq_of_lt (by omega) (by omega)]
      omega
  · have hdiv := Int.mul_ediv_add_emod offset length
    have hquotient := Int.mul_nonneg hpos.le (Int.ediv_nonneg habove hpos.le)
    omega

/-- Sums in 64 bits give the start that exact sums give. Only the last one can be too small for
them, with a length near the greatest one and an instant before the origin, and then the number it
wraps to is as little an instant of the calendar as the exact one. -/
theorem start?_fixed {ms : Int64} (h : ms ≠ 0) {t : Instant}
    (ht : Instant.minMillis ≤ t.millis ∧ t.millis < Instant.endMillis) :
    start? (.fixed ms) t = some ((Instant.ofMillis?
      (t.millis - originMillis - (t.millis - originMillis) % ms.toInt + originMillis)).getD t) := by
  have hrange : Instant.minMillis = -8334601228800000 ∧ Instant.endMillis = 8210266876800000 := by
    decide
  simp only [hrange, originMillis] at ht ⊢
  generalize hoffset : t.millis - -62135596800000 = offset
  obtain ⟨hnonneg, hlt, hfloor⟩ := emod_fits (show -2 ^ 62 ≤ offset ∧ offset < 2 ^ 62 by omega) h
  have hwhole : (Int64.ofInt t.millis - Int64.ofInt originMillis).toInt = offset := by
    rw [Int64.toInt_sub, Int64.toInt_ofInt_of_le (by omega) (by omega),
      Int64.toInt_ofInt_of_le (by decide) (by decide), originMillis, hoffset]
    exact Int.bmod_eq_of_le (by omega) (by omega)
  have hrest : (Int64.ofInt (offset % ms.toInt)).toInt = offset % ms.toInt :=
    Int64.toInt_ofInt_of_le (by omega) (by omega)
  have hfloored : (Int64.ofInt t.millis - Int64.ofInt originMillis -
      Int64.ofInt (offset % ms.toInt)).toInt = offset - offset % ms.toInt := by
    rw [Int64.toInt_sub, hwhole, hrest]
    exact Int.bmod_eq_of_le (by omega) (by omega)
  rw [start?, remainder?, if_neg h, Option.map_some, hwhole, Int64.toInt_add, hfloored,
    Int64.toInt_ofInt_of_le (by decide) (by decide), originMillis]
  generalize hstart : offset - offset % ms.toInt + -62135596800000 = start
  congr 2
  rcases Int.lt_or_le start (-2 ^ 63) with hsmall | hfits
  · have hwrapped : start.bmod (2 ^ 64) = start + 2 ^ 64 := by
      rw [← Int.add_bmod_right]
      exact Int.bmod_eq_of_le (by omega) (by omega)
    rw [hwrapped, Instant.ofMillis?_eq, Instant.ofMillis?_eq, if_neg (by omega),
      if_neg (by omega)]
  · rw [Int.bmod_eq_of_le (by omega) (by omega)]

/-! ## Edges -/

theorem firstOfMonth?_eq (year : Int) {month : Nat} (h : 1 ≤ month ∧ month ≤ 12) :
    firstOfMonth? year month =
      Instant.checked? (.atMillis (firstMillis (year * 12 + (month - 1 : Nat)))) := by
  have hyear : (year * 12 + (month - 1 : Nat)) / 12 = year := by omega
  rw [firstOfMonth?, Date.ofParts?_first year h, Instant.checked?_firstMillis, hyear]
  split_ifs
  · rw [Option.map_some, Instant.ofDate_first year h]
  · rfl

/-- Whether an interval is at least a millisecond long. -/
def Proper : Interval → Prop
  | .fixed ms => 0 < ms.toInt
  | _ => True

/-- Milliseconds from 1970-01-01 to the start of a bucket. -/
def edge : Interval → Int → Int
  | .fixed ms, k => k * ms.toInt + originMillis
  | .month, k => firstMillis k
  | .quarter, k => firstMillis (k * 3)
  | .year, k => firstMillis (k * 12)

/-- The number of the bucket that an instant falls into. -/
def number (interval : Interval) (t : Instant) : Int :=
  match interval with
  | .fixed ms => (t.millis - originMillis) / ms.toInt
  | .month => t.date.monthNumber
  | .quarter => t.date.monthNumber / 3
  | .year => t.date.monthNumber / 12

variable {interval : Interval}

theorem Proper.ne_fixed_zero (h : interval.Proper) : interval ≠ .fixed 0 := by
  rintro rfl
  exact absurd h (lt_irrefl 0)

theorem not_proper_minValue : ¬ (fixed Int64.minValue).Proper := by
  have hleast : Int64.minValue.toInt < 0 := by decide
  intro h
  exact absurd h (not_lt_of_gt hleast)

theorem edge_lt_iff (h : interval.Proper) {k l : Int} :
    interval.edge k < interval.edge l ↔ k < l := by
  cases interval with
  | fixed ms => rw [edge, edge, Int.add_lt_add_iff_right, Int.mul_lt_mul_right h]
  | month => exact firstMillis_lt_iff
  | quarter => exact firstMillis_lt_iff.trans (by omega)
  | year => exact firstMillis_lt_iff.trans (by omega)

theorem edge_le_iff (h : interval.Proper) {k l : Int} :
    interval.edge k ≤ interval.edge l ↔ k ≤ l := by
  rw [← Int.not_lt, edge_lt_iff h, Int.not_lt]

theorem edge_le_edge_succ (h : interval.Proper) (k : Int) :
    interval.edge k ≤ interval.edge (k + 1) :=
  (edge_le_iff h).mpr (by omega)

/-- An interval that can be read has a length. -/
theorem proper_of_parse? {s : String} (h : parse? s = some interval) : interval.Proper := by
  unfold parse? at h
  dsimp only at h
  split at h
  · rename_i named hnamed
    cases h
    obtain ⟨name, hname, _⟩ := named?_eq_some.mp hnamed
    have hall : ∀ n ∈ names, n.2.Proper := by simp [names, Proper]
    exact hall (name, interval) hname
  · unfold counted? at h
    obtain ⟨count, _, h⟩ := Option.bind_eq_some_iff.mp h
    obtain ⟨unit, hunit, h⟩ := Option.bind_eq_some_iff.mp h
    split_ifs at h with hcount
    cases h
    have hpos : 1 ≤ unit := by
      obtain ⟨mark, hmark, _⟩ := unitMillis?_eq_some.mp hunit
      have hall : ∀ u ∈ fixedUnits, 1 ≤ u.2 := by decide
      exact hall (mark, unit) hmark
    rw [Bool.and_eq_true, decide_eq_true_eq, decide_eq_true_eq] at hcount
    rw [Proper, Int64.toInt_ofNat_of_lt hcount.2]
    exact Int.natCast_pos.mpr (Nat.mul_pos hcount.1 hpos)

/-! ## Instants in their buckets -/

/-- Whether an instant is one of the common era that the calendar has. -/
structure InEra (t : Instant) : Prop where
  since : originMillis ≤ t.seconds * 1000
  within : t.millis < Instant.endMillis

theorem firstDay_monthNumber (t : Instant) :
    firstMillis t.date.monthNumber ≤ t.millis ∧
      t.seconds * 1000 < firstMillis (t.date.monthNumber + 1) := by
  obtain ⟨_, _, hfirst, hlast⟩ := ofDayNumber_spec (t.seconds / Instant.daySeconds)
  simp only [Instant.date, firstMillis, Instant.millis, Instant.daySeconds] at *
  omega

/-- An instant lies behind the edge of its bucket. -/
theorem edge_number_le (h : interval.Proper) (t : Instant) :
    interval.edge (interval.number t) ≤ t.millis := by
  obtain ⟨hfirst, _⟩ := firstDay_monthNumber t
  cases interval with
  | fixed ms =>
    have hmul := Int.ediv_mul_le (t.millis - originMillis) (ne_of_gt h)
    simp only [edge, number]
    omega
  | month => exact hfirst
  | quarter => exact (firstMillis_le_iff.mpr (by simp only [number]; omega)).trans hfirst
  | year => exact (firstMillis_le_iff.mpr (by simp only [number]; omega)).trans hfirst

/-- Outside a leap second an instant lies before the edge of the next bucket. -/
theorem lt_edge_number (h : interval.Proper) {t : Instant} (ht : t.nanos < 1000000000) :
    t.millis < interval.edge (interval.number t + 1) := by
  obtain ⟨_, hlast⟩ := firstDay_monthNumber t
  have hmillis : t.millis < firstMillis (t.date.monthNumber + 1) := by
    simp only [Instant.millis, firstMillis] at *
    omega
  cases interval with
  | fixed ms =>
    have hmul := Int.lt_ediv_add_one_mul_self (t.millis - originMillis) h
    simp only [edge, number]
    omega
  | month => exact hmillis
  | quarter => exact hmillis.trans_le (firstMillis_le_iff.mpr (by simp only [number]; omega))
  | year => exact hmillis.trans_le (firstMillis_le_iff.mpr (by simp only [number]; omega))

theorem firstMillis_twelve : firstMillis 12 = originMillis := by decide

theorem minMillis_le_originMillis : Instant.minMillis ≤ originMillis := by decide

/-- The buckets of the common era start in the common era. -/
theorem originMillis_le_edge (h : interval.Proper) {t : Instant} (ht : InEra t) :
    originMillis ≤ interval.edge (interval.number t) := by
  have hedge : ∀ {k : Int}, 12 ≤ k → originMillis ≤ firstMillis k := fun h =>
    firstMillis_twelve.symm.trans_le (firstMillis_le_iff.mpr h)
  have hmonth : 12 ≤ t.date.monthNumber := by
    have hsince := firstMillis_twelve.trans_le ht.since
    have hlt := firstMillis_lt_iff.mp
      (hsince.trans_lt (firstDay_monthNumber t).2)
    omega
  cases interval with
  | fixed ms =>
    have hsince := ht.since
    have hoffset : 0 ≤ (t.millis - originMillis) / ms.toInt := by
      refine Int.ediv_nonneg ?_ (le_of_lt h)
      simp only [Instant.millis]
      omega
    have hmul := Int.mul_nonneg hoffset (le_of_lt h)
    simp only [edge, number]
    omega
  | month => exact hedge hmonth
  | quarter => exact hedge (by simp only [number]; omega)
  | year => exact hedge (by simp only [number]; omega)

/-- The start of a bucket is its edge. -/
theorem start?_eq (h : interval.Proper) {t : Instant} (ht : InEra t) :
    interval.start? t = some (.atMillis (interval.edge (interval.number t))) := by
  have hfrom := minMillis_le_originMillis.trans (originMillis_le_edge h ht)
  have hto := (edge_number_le h t).trans_lt ht.within
  have hchecked : Instant.checked? (.atMillis (interval.edge (interval.number t))) =
      some (.atMillis (interval.edge (interval.number t))) := by
    rw [Instant.checked?_atMillis, if_pos ⟨hfrom, hto⟩]
  have hmonth : 1 ≤ t.date.month ∧ t.date.month ≤ 12 := (ofDayNumber_spec _).1
  have hshown {bucket : Option Instant}
      (hbucket : bucket = Instant.checked? (.atMillis (interval.edge (interval.number t)))) :
      some (bucket.getD t) = some (.atMillis (interval.edge (interval.number t))) := by
    rw [hbucket, hchecked, Option.getD_some]
  cases interval with
  | fixed ms =>
    have hfloor : t.millis - originMillis - (t.millis - originMillis) % ms.toInt + originMillis =
        edge (.fixed ms) (number (.fixed ms) t) := by
      have hdiv := Int.mul_ediv_add_emod (t.millis - originMillis) ms.toInt
      rw [Int.mul_comm] at hdiv
      simp only [edge, number]
      omega
    have hne : ms ≠ 0 := fun hzero => h.ne_fixed_zero (congrArg Interval.fixed hzero)
    have hmillis := hfrom.trans (edge_number_le h t)
    rw [start?_fixed hne ⟨hmillis, ht.within⟩, hfloor]
    exact hshown rfl
  | month =>
    rw [start?, firstOfMonth?_eq _ hmonth]
    exact hshown rfl
  | quarter =>
    have hquarter : t.date.year * 12 + (((t.date.month - 1) / 3 * 3 + 1 - 1 : Nat) : Int) =
        number .quarter t * 3 := by
      simp only [number, Date.monthNumber]
      omega
    rw [start?, firstOfMonth?_eq _ (by omega), hquarter]
    exact hshown rfl
  | year =>
    have hyear : t.date.year * 12 + ((1 - 1 : Nat) : Int) = number .year t * 12 := by
      simp only [number, Date.monthNumber]
      omega
    rw [start?, firstOfMonth?_eq _ (by omega), hyear]
    exact hshown rfl

theorem start_eq (h : interval.Proper) {t : Instant} (ht : InEra t) :
    interval.start t = .atMillis (interval.edge (interval.number t)) := by
  rw [start, start?_eq h ht, Option.getD_some]

/-- Milliseconds after an instant comes another one, where the calendar has it. -/
theorem addMillis?_atMillis (ms more : Int) :
    (Instant.atMillis ms).addMillis? more = Instant.checked? (.atMillis (ms + more)) := by
  have hregular : ¬ 1000000000 ≤ (Instant.atMillis ms).nanos := by
    simp only [Instant.atMillis]
    omega
  have hparts := Int.mul_tdiv_add_tmod more 1000
  rw [Instant.addMillis?]
  dsimp only
  rw [if_neg (by simp [hregular]), if_neg hregular, if_neg (by simp [hregular])]
  congr 1
  simp only [Instant.atMillis, Instant.mk.injEq]
  omega

/-- After the edge of a bucket comes the next one, where the calendar has it. -/
theorem next?_edge (interval : Interval) (k : Int) :
    interval.next? (.atMillis (interval.edge k)) =
      Instant.checked? (.atMillis (interval.edge (k + 1))) := by
  cases interval with
  | fixed ms =>
    rw [next?, addMillis?_atMillis]
    simp only [edge, Int.add_mul, Int.one_mul]
    congr 2
    omega
  | month => exact Instant.addMonths?_firstMillis k 1
  | quarter =>
    rw [next?, edge, Instant.addMonths?_firstMillis, edge, Int.add_mul]
    rfl
  | year =>
    rw [next?, edge, Instant.addMonths?_firstMillis, edge, Int.add_mul]
    rfl

/-! ## The partition -/

/-- The bucket of an instant is the one between whose edges it lies. -/
theorem number_eq_iff (h : interval.Proper) {t : Instant} (ht : t.nanos < 1000000000) {k : Int} :
    interval.number t = k ↔ interval.edge k ≤ t.millis ∧ t.millis < interval.edge (k + 1) := by
  constructor
  · rintro rfl
    exact ⟨edge_number_le h t, lt_edge_number h ht⟩
  · rintro ⟨hle, hlt⟩
    have hto := (edge_lt_iff h).mp (hle.trans_lt (lt_edge_number h ht))
    have hfrom := (edge_lt_iff h).mp ((edge_number_le h t).trans_lt hlt)
    omega

theorem number_edge (h : interval.Proper) (k : Int) :
    interval.number (.atMillis (interval.edge k)) = k := by
  rw [number_eq_iff h (Instant.nanos_atMillis_lt _), Instant.millis_atMillis]
  exact ⟨le_refl _, (edge_lt_iff h).mpr (Int.lt_succ k)⟩

theorem inEra_atMillis {ms : Int} (hsince : originMillis ≤ ms) (hwithin : ms < Instant.endMillis) :
    InEra (.atMillis ms) := by
  refine ⟨?_, by rwa [Instant.millis_atMillis]⟩
  simp only [Instant.atMillis, originMillis] at *
  omega

/-- An edge is the start of its own bucket. -/
theorem start_edge (h : interval.Proper) {k : Int} (hsince : originMillis ≤ interval.edge k)
    (hwithin : interval.edge k < Instant.endMillis) :
    interval.start (.atMillis (interval.edge k)) = .atMillis (interval.edge k) := by
  rw [start_eq h (inEra_atMillis hsince hwithin), number_edge h]

/-- The next start, where there is one, is the next edge, and the start of its own bucket. -/
theorem next?_edge_eq_some (h : interval.Proper) {k : Int}
    (hsince : originMillis ≤ interval.edge k) {next : Instant} :
    interval.next? (.atMillis (interval.edge k)) = some next ↔
      interval.edge (k + 1) < Instant.endMillis ∧ next = .atMillis (interval.edge (k + 1)) := by
  have hfrom := minMillis_le_originMillis.trans
    (hsince.trans (edge_le_edge_succ h k))
  rw [next?_edge, Instant.checked?_atMillis]
  split_ifs with hwithin
  · rw [Option.some.injEq, eq_comm]
    exact (and_iff_right hwithin.2).symm
  · constructor
    · intro hnone
      cases hnone
    · rintro ⟨hto, _⟩
      exact absurd ⟨hfrom, hto⟩ hwithin

/-- Whether an instant lies between a start and the next one, or anywhere after the start where
the calendar has no next one. -/
def Holds (interval : Interval) (start t : Instant) : Prop :=
  start ≤ t ∧ ∀ next, interval.next? start = some next → t < next

/-- What lies between two edges is the bucket of their number. -/
theorem holds_edge_iff (h : interval.Proper) {t : Instant} (ht : InEra t)
    (hregular : t.nanos < 1000000000) {k : Int} (hsince : originMillis ≤ interval.edge k) :
    interval.Holds (.atMillis (interval.edge k)) t ↔ interval.number t = k := by
  rw [Holds, Instant.atMillis_le_iff hregular, number_eq_iff h hregular]
  refine and_congr_right fun _ => ?_
  simp only [next?_edge_eq_some h hsince, and_imp]
  constructor
  · intro hnext
    rcases Int.lt_or_le (interval.edge (k + 1)) Instant.endMillis with hto | hend
    · exact (Instant.lt_atMillis_iff hregular).mp (hnext _ hto rfl)
    · exact ht.within.trans_le hend
  · rintro hlt _ _ rfl
    exact (Instant.lt_atMillis_iff hregular).mpr hlt

/-- Buckets start in the order of the instants in them. -/
theorem start_le_start (h : interval.Proper) {t u : Instant} (ht : InEra t) (hu : InEra u)
    (hregular : t.nanos < 1000000000) (hregular' : u.nanos < 1000000000) (htu : t ≤ u) :
    interval.start t ≤ interval.start u := by
  rw [start_eq h ht, start_eq h hu, Instant.atMillis_le_iff (Instant.nanos_atMillis_lt _),
    Instant.millis_atMillis, edge_le_iff h]
  have hbefore := (edge_number_le h t).trans (Instant.millis_le_millis hregular htu)
  have hlt := (edge_lt_iff h).mp (hbefore.trans_lt (lt_edge_number h hregular'))
  omega

/-- The buckets of every interval that can be read part the instants of the common era. Every
instant has a start. The bucket of an instant starts no later than the instant, at a start that is
its own, and the next bucket, if the calendar has its start, starts after the instant and at a start
that is its own as well. Starts keep the order of instants, and two instants have one start exactly
where one bucket holds both. -/
theorem parse?_partition {s : String} (h : parse? s = some interval) {t u : Instant}
    (ht : InEra t) (hu : InEra u) (hregular : t.nanos < 1000000000)
    (hregular' : u.nanos < 1000000000) :
    (∀ v, interval.start? v = some (interval.start v)) ∧
      interval.start t ≤ t ∧
      (∀ next, interval.next? (interval.start t) = some next →
        t < next ∧ interval.start next = next) ∧
      interval.start (interval.start t) = interval.start t ∧
      (t ≤ u → interval.start t ≤ interval.start u) ∧
      (interval.start t = interval.start u ↔ ∃ v, InEra v ∧ v.nanos < 1000000000 ∧
        interval.Holds (interval.start v) t ∧ interval.Holds (interval.start v) u) := by
  have hproper := proper_of_parse? h
  have hsince := originMillis_le_edge hproper ht
  have hheld := (holds_edge_iff hproper ht hregular hsince).mpr rfl
  refine ⟨start?_eq_start hproper.ne_fixed_zero, ?_, fun next hnext => ?_, ?_,
    start_le_start hproper ht hu hregular hregular', ?_⟩
  · rw [start_eq hproper ht]
    exact hheld.1
  · rw [start_eq hproper ht] at hnext
    obtain ⟨hwithin, rfl⟩ := (next?_edge_eq_some hproper hsince).mp hnext
    have hlater := hsince.trans (edge_le_edge_succ hproper _)
    exact ⟨hheld.2 _ hnext, start_edge hproper hlater hwithin⟩
  · rw [start_eq hproper ht]
    exact start_edge hproper hsince ((edge_number_le hproper t).trans_lt ht.within)
  · constructor
    · intro hsame
      rw [start_eq hproper ht, start_eq hproper hu] at hsame
      have hnumber : interval.number u = interval.number t := by
        have hmillis := congrArg Instant.millis hsame
        rw [Instant.millis_atMillis, Instant.millis_atMillis] at hmillis
        have hle := (edge_le_iff hproper).mp hmillis.le
        have hge := (edge_le_iff hproper).mp hmillis.ge
        omega
      refine ⟨t, ht, hregular, ?_⟩
      rw [start_eq hproper ht]
      exact ⟨hheld, (holds_edge_iff hproper hu hregular' hsince).mpr hnumber⟩
    · rintro ⟨v, hv, _, htv, huv⟩
      have hsincev := originMillis_le_edge hproper hv
      rw [start_eq hproper hv] at htv huv
      rw [start_eq hproper ht, start_eq hproper hu,
        (holds_edge_iff hproper ht hregular hsincev).mp htv,
        (holds_edge_iff hproper hu hregular' hsincev).mp huv]

/-- 2024-08-17T09:30:00.25Z, and the last nanosecond of September 2024. -/
def august : Instant := ⟨1723887000, 250000000⟩
def lastOfSeptember : Instant := ⟨1727740799, 999999999⟩

/-- The third quarter of the year, which starts on the first of July, holds the two. -/
theorem parse?_partition_quarter :
    parse? " quarter" = some .quarter ∧ InEra august ∧ InEra lastOfSeptember ∧
      august.nanos < 1000000000 ∧ lastOfSeptember.nanos < 1000000000 ∧
      quarter.start august = ⟨1719792000, 0⟩ ∧ quarter.start august ≤ august ∧
      ∃ v, InEra v ∧ v.nanos < 1000000000 ∧ quarter.Holds (quarter.start v) august ∧
        quarter.Holds (quarter.start v) lastOfSeptember := by
  have hread : parse? " quarter" = some .quarter := by decide
  have haugust : InEra august := ⟨by decide, by decide⟩
  have hseptember : InEra lastOfSeptember := ⟨by decide, by decide⟩
  obtain ⟨_, hle, _, _, _, hsame⟩ :=
    parse?_partition hread haugust hseptember (by decide) (by decide)
  exact ⟨hread, haugust, hseptember, by decide, by decide, by decide, hle, hsame.mp (by decide)⟩

end Interval

end KustoSearch
