import KustoSearch.Calendar.Instant
import KustoSearch.Proofs.Calendar.Date

/-! # Instants in order

The order of instants, and those that are a number of milliseconds. Outside leap seconds the order
of instants and that of their milliseconds agree.
-/

namespace KustoSearch.Calendar

namespace Instant

/-- An instant comes before another. -/
instance : LT Instant := ⟨fun t u => t.before u = true⟩

/-- An instant comes no later than another. -/
instance : LE Instant := ⟨fun t u => u.before t = false⟩

theorem lt_iff {t u : Instant} :
    t < u ↔ t.seconds < u.seconds ∨ t.seconds = u.seconds ∧ t.nanos < u.nanos := by
  show t.before u = true ↔ _
  simp [before]

theorem le_iff {t u : Instant} :
    t ≤ u ↔ t.seconds < u.seconds ∨ t.seconds = u.seconds ∧ t.nanos ≤ u.nanos := by
  show u.before t = false ↔ _
  simp only [before, Bool.or_eq_false_iff, Bool.and_eq_false_iff, decide_eq_false_iff_not,
    beq_eq_false_iff_ne]
  omega

/-- The instant of a number of milliseconds, whether or not the calendar has it. -/
def atMillis (ms : Int) : Instant := ⟨ms / 1000, (ms % 1000).toNat * 1000000⟩

@[simp] theorem millis_atMillis (ms : Int) : (atMillis ms).millis = ms := by
  simp only [millis, atMillis]
  omega

theorem nanos_atMillis_lt (ms : Int) : (atMillis ms).nanos < 1000000000 := by
  simp only [atMillis]
  omega

/-- Milliseconds at which the calendar begins and at which it has ended. -/
def minMillis : Int := Date.minDay * 86400000
def endMillis : Int := (Date.maxDay + 1) * 86400000

theorem checked?_eq (t : Instant) :
    checked? t =
      if minMillis ≤ t.seconds * 1000 ∧ t.seconds * 1000 < endMillis then some t else none := by
  have hday : (decide (Date.minDay ≤ t.seconds / daySeconds) &&
      decide (t.seconds / daySeconds ≤ Date.maxDay)) = true ↔
      minMillis ≤ t.seconds * 1000 ∧ t.seconds * 1000 < endMillis := by
    rw [Bool.and_eq_true, decide_eq_true_iff, decide_eq_true_iff]
    simp only [daySeconds, minMillis, endMillis]
    omega
  exact if_congr hday rfl rfl

theorem checked?_atMillis (ms : Int) :
    checked? (atMillis ms) =
      if minMillis ≤ ms ∧ ms < endMillis then some (atMillis ms) else none := by
  have hwhole : minMillis ≤ ms / 1000 * 1000 ∧ ms / 1000 * 1000 < endMillis ↔
      minMillis ≤ ms ∧ ms < endMillis := by
    simp only [minMillis, endMillis]
    omega
  exact (checked?_eq (atMillis ms)).trans (if_congr hwhole rfl rfl)

theorem ofMillis?_eq (ms : Int) :
    ofMillis? ms = if minMillis ≤ ms ∧ ms < endMillis then some (atMillis ms) else none :=
  checked?_atMillis ms

theorem atMillis_lt_iff {a b : Int} : atMillis a < atMillis b ↔ a < b := by
  rw [lt_iff]
  simp only [atMillis]
  omega

/-- Outside leap seconds instants come in the order of their milliseconds. -/
theorem atMillis_le_iff {ms : Int} {t : Instant} (ht : t.nanos < 1000000000) :
    atMillis ms ≤ t ↔ ms ≤ t.millis := by
  rw [le_iff]
  simp only [atMillis, millis]
  omega

theorem lt_atMillis_iff {ms : Int} {t : Instant} (ht : t.nanos < 1000000000) :
    t < atMillis ms ↔ t.millis < ms := by
  rw [lt_iff]
  simp only [atMillis, millis]
  omega

theorem millis_le_millis {t u : Instant} (ht : t.nanos < 1000000000) (h : t ≤ u) :
    t.millis ≤ u.millis := by
  rw [le_iff] at h
  simp only [millis]
  omega

end Instant

/-! ## First days of months -/

/-- Midnight on the day that a month begins on. -/
def firstMillis (month : Int) : Int := firstDay month * 86400000

theorem firstMillis_lt_iff {k l : Int} : firstMillis k < firstMillis l ↔ k < l := by
  refine Iff.trans ?_ firstDay_lt_iff
  simp only [firstMillis]
  omega

theorem firstMillis_le_iff {k l : Int} : firstMillis k ≤ firstMillis l ↔ k ≤ l := by
  rw [← Int.not_lt, firstMillis_lt_iff, Int.not_lt]

theorem Instant.ofDate_first (year : Int) {month : Nat} (h : 1 ≤ month ∧ month ≤ 12) :
    Instant.ofDate ⟨year, month, 1⟩ 0 0 =
      .atMillis (firstMillis (year * 12 + (month - 1 : Nat))) := by
  simp only [Instant.ofDate, Instant.atMillis, dayNumber_first year h, firstMillis,
    Instant.daySeconds, Instant.mk.injEq]
  omega

/-- The calendar has the first of a month where it may have the year. -/
theorem Instant.checked?_firstMillis (k : Int) :
    Instant.checked? (.atMillis (firstMillis k)) =
      if Date.minYear ≤ k / 12 ∧ k / 12 ≤ Date.maxYear then some (.atMillis (firstMillis k))
      else none := by
  have hyear : Instant.minMillis ≤ firstMillis k ∧ firstMillis k < Instant.endMillis ↔
      Date.minYear ≤ k / 12 ∧ k / 12 ≤ Date.maxYear := by
    rw [← minDay_le_firstDay, ← firstDay_le_maxDay]
    simp only [Instant.minMillis, Instant.endMillis, firstMillis]
    omega
  exact (Instant.checked?_atMillis _).trans (if_congr hyear rfl rfl)

theorem Date.ofParts?_first (year : Int) {month : Nat} (h : 1 ≤ month ∧ month ≤ 12) :
    Date.ofParts? year month 1 =
      if Date.minYear ≤ year ∧ year ≤ Date.maxYear then some ⟨year, month, 1⟩ else none := by
  have hlength := monthLength_pos year month
  refine if_congr ?_ rfl rfl
  simp only [Bool.and_eq_true, decide_eq_true_eq]
  omega

/-- Months after the first of a month comes the first of another one. -/
theorem Instant.addMonths?_firstMillis (k : Int) (months : Nat) :
    (Instant.atMillis (firstMillis k)).addMonths? months =
      Instant.checked? (.atMillis (firstMillis (k + months))) := by
  have hseconds : firstMillis k / 1000 = firstDay k * 86400 := by
    simp only [firstMillis]
    omega
  have hdate : (Instant.atMillis (firstMillis k)).date = ⟨k / 12, (k % 12).toNat + 1, 1⟩ := by
    rw [← ofDayNumber_firstDay, Instant.date, Instant.atMillis, hseconds, Instant.daySeconds,
      Int.mul_ediv_cancel _ (by decide)]
  have htime : (Instant.atMillis (firstMillis k)).secondOfDay = 0 := by
    simp only [Instant.secondOfDay, Instant.atMillis, hseconds, Instant.daySeconds]
    omega
  have hnanos : (Instant.atMillis (firstMillis k)).nanos = 0 := by
    simp only [Instant.atMillis, firstMillis]
    omega
  have htotal : k / 12 * 12 + ((k % 12).toNat + 1 - 1 : Nat) + (months : Int) = k + months := by
    omega
  have hday : min 1 (monthLength ((k + months) / 12) (((k + months) % 12).toNat + 1)) = 1 :=
    Nat.min_eq_left (monthLength_pos _ _)
  have hmonth : 1 ≤ ((k + months) % 12).toNat + 1 ∧ ((k + months) % 12).toNat + 1 ≤ 12 := by
    omega
  have hfirst := Instant.ofDate_first ((k + months) / 12) hmonth
  rw [show (k + months) / 12 * 12 + (((k + months) % 12).toNat + 1 - 1 : Nat) = k + months by
    omega] at hfirst
  rw [Instant.addMonths?, hdate, htime, hnanos, Date.addMonths?]
  dsimp only
  rw [htotal, hday, Date.ofParts?_first _ hmonth, Instant.checked?_firstMillis]
  split_ifs
  · rw [Option.map_some, hfirst]
  · rfl

end KustoSearch.Calendar
