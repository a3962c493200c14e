import KustoSearch.Calendar.Date
import Mathlib.Algebra.Order.Monoid.Unbundled.Basic
import Mathlib.Order.Monotone.Basic
import Mathlib.Tactic.SplitIfs

/-! # Months

Months numbered through all years, and the days that they begin on. A day lies in the one month
that begins no later and whose next one begins after it: `monthNumber_ofDayNumber`.
-/

namespace KustoSearch.Calendar

/-! ## Years -/

theorem daysBeforeMonth_thirteen (year : Int) :
    daysBeforeMonth year 13 = if isLeapYear year then 366 else 365 := by
  simp only [daysBeforeMonth, monthLength]
  split_ifs <;> rfl

theorem daysBeforeYear_succ (year : Int) :
    daysBeforeYear (year + 1) = daysBeforeYear year + daysBeforeMonth year 13 := by
  rw [daysBeforeMonth_thirteen]
  simp only [daysBeforeYear, isLeapYear, Bool.and_eq_true, Bool.or_eq_true, beq_iff_eq,
    bne_iff_ne]
  split_ifs <;> omega

/-- Years are as long as the mean year of 146097 days in 400 years, but for less than two days. -/
theorem daysBeforeYear_bounds (year : Int) :
    146097 * (year - 1) - 700 < 400 * daysBeforeYear year ∧
      400 * daysBeforeYear year < 146097 * (year - 1) + 400 := by
  simp only [daysBeforeYear]
  omega

/-- The year of a day begins no later than the day, and the next one after it. -/
theorem yearOfDay_bounds (n : Int) :
    daysBeforeYear (yearOfDay n) ≤ n ∧ n < daysBeforeYear (yearOfDay n + 1) := by
  have hguess : 146097 * (n * 400 / 146097) ≤ n * 400 ∧
      n * 400 < 146097 * (n * 400 / 146097) + 146097 := by omega
  unfold yearOfDay
  generalize n * 400 / 146097 = guess at hguess
  have hbefore := daysBeforeYear_bounds guess
  have hafter := daysBeforeYear_bounds (guess + 1 + 1 + 1)
  dsimp only
  split_ifs with hearly hlate
  · rw [Int.add_sub_cancel]
    omega
  · omega
  · omega

/-! ## Months -/

theorem monthLength_pos (year : Int) (month : Nat) : 0 < monthLength year month := by
  unfold monthLength
  split
  · split_ifs <;> omega
  all_goals omega

theorem daysBeforeMonth_succ (year : Int) {month : Nat} (h : 1 ≤ month) :
    daysBeforeMonth year (month + 1) = daysBeforeMonth year month + monthLength year month := by
  obtain ⟨month, rfl⟩ := Nat.exists_eq_add_of_le' h
  rfl

/-- The month of a day of the year begins no later than the day, and the next one after it. -/
theorem monthFrom_bounds {year : Int} {n : Nat} (steps : Nat) {month : Nat} (hmonth : 1 ≤ month)
    (hfirst : daysBeforeMonth year month ≤ n)
    (hlast : n < daysBeforeMonth year (month + steps + 1)) :
    month ≤ monthFrom year n steps month ∧ monthFrom year n steps month ≤ month + steps ∧
      daysBeforeMonth year (monthFrom year n steps month) ≤ n ∧
      n < daysBeforeMonth year (monthFrom year n steps month + 1) := by
  induction steps generalizing month with
  | zero => exact ⟨le_refl _, le_refl _, hfirst, hlast⟩
  | succ steps ih =>
    unfold monthFrom
    split_ifs with hhere
    · exact ⟨le_refl _, by omega, hfirst, hhere⟩
    · have hnext := @ih (month + 1) (by omega) (by omega)
        (by rwa [Nat.add_right_comm month 1 steps])
      omega

/-- The day that a month begins on, counted from 1970-01-01. Months are numbered through all years
from January of the year 0 on. -/
def firstDay (month : Int) : Int :=
  daysBeforeYear (month / 12) + daysBeforeMonth (month / 12) ((month % 12).toNat + 1) - epochDays

/-- The number of the month of a date. -/
def Date.monthNumber (d : Date) : Int := d.year * 12 + (d.month - 1 : Nat)

/-- The month after some others of a year begins after their days; after all twelve it is the
first one of the next year. -/
theorem firstDay_eq (year : Int) {before : Nat} (h : before ≤ 12) :
    firstDay (year * 12 + before) =
      daysBeforeYear year + daysBeforeMonth year (before + 1) - epochDays := by
  rcases Nat.lt_or_eq_of_le h with h | rfl
  · have hyear : (year * 12 + before) / 12 = year := by omega
    have hmonth : ((year * 12 + before) % 12).toNat = before := by omega
    rw [firstDay, hyear, hmonth]
  · have hyear : (year * 12 + (12 : Nat)) / 12 = year + 1 := by omega
    have hmonth : ((year * 12 + (12 : Nat)) % 12).toNat = 0 := by omega
    rw [firstDay, hyear, hmonth, daysBeforeYear_succ]
    simp [daysBeforeMonth]

/-- Months begin in their order. -/
theorem firstDay_lt_iff {k l : Int} : firstDay k < firstDay l ↔ k < l := by
  have hmono : StrictMono firstDay := by
    refine strictMono_int_of_lt_succ fun k => ?_
    obtain ⟨year, before, hbefore, rfl⟩ : ∃ (year : Int) (before : Nat), before < 12 ∧
        k = year * 12 + before := ⟨k / 12, (k % 12).toNat, by omega, by omega⟩
    have hnext : year * 12 + (before : Int) + 1 = year * 12 + ((before + 1 : Nat) : Int) := by
      omega
    have hdays := daysBeforeMonth_succ year (show 1 ≤ before + 1 by omega)
    have hpos := monthLength_pos year (before + 1)
    rw [hnext, firstDay_eq year (by omega), firstDay_eq year (by omega)]
    omega
  exact hmono.lt_iff_lt

theorem firstDay_le_iff {k l : Int} : firstDay k ≤ firstDay l ↔ k ≤ l := by
  rw [← Int.not_lt, firstDay_lt_iff, Int.not_lt]

/-- The first of a month has the number of the day that the month begins on. -/
theorem dayNumber_first (year : Int) {month : Nat} (h : 1 ≤ month ∧ month ≤ 12) :
    (Date.mk year month 1).dayNumber = firstDay (year * 12 + (month - 1 : Nat)) := by
  rw [firstDay_eq year (by omega), Nat.sub_add_cancel h.1]
  simp only [Date.dayNumber]
  omega

/-- The date of a day: its month begins no later than the day and the next one after it, and the
days of the month are counted from one on. -/
theorem ofDayNumber_spec (n : Int) :
    (1 ≤ (Date.ofDayNumber n).month ∧ (Date.ofDayNumber n).month ≤ 12) ∧
      ((Date.ofDayNumber n).day : Int) = n - firstDay (Date.ofDayNumber n).monthNumber + 1 ∧
      firstDay (Date.ofDayNumber n).monthNumber ≤ n ∧
      n < firstDay ((Date.ofDayNumber n).monthNumber + 1) := by
  obtain ⟨hfirst, hnext⟩ := yearOfDay_bounds (n + epochDays)
  have hyear := daysBeforeYear_succ (yearOfDay (n + epochDays))
  simp only [Date.ofDayNumber, Date.monthNumber]
  generalize yearOfDay (n + epochDays) = year at hfirst hnext hyear
  have hinYear : ((n + epochDays - daysBeforeYear year).toNat : Int) =
      n + epochDays - daysBeforeYear year := Int.toNat_of_nonneg (by omega)
  generalize (n + epochDays - daysBeforeYear year).toNat = inYear at hinYear
  obtain ⟨hlow, hhigh, hbegun, hgoes⟩ := @monthFrom_bounds year inYear 11 1
    (by omega) (Nat.zero_le _) (by show inYear < daysBeforeMonth year 13; omega)
  generalize monthFrom year inYear 11 1 = month at hlow hhigh hbegun hgoes
  have hafter : year * 12 + ((month - 1 : Nat) : Int) + 1 = year * 12 + (month : Int) := by omega
  rw [hafter, firstDay_eq year (by omega), firstDay_eq year (by omega), Nat.sub_add_cancel hlow]
  omega

/-- A day lies in the one month that begins no later, and whose next one begins after it. -/
theorem monthNumber_ofDayNumber {n k : Int} :
    (Date.ofDayNumber n).monthNumber = k ↔ firstDay k ≤ n ∧ n < firstDay (k + 1) := by
  obtain ⟨_, _, hfirst, hlast⟩ := ofDayNumber_spec n
  constructor
  · rintro rfl
    exact ⟨hfirst, hlast⟩
  · rintro ⟨hfirst', hlast'⟩
    have hle := firstDay_lt_iff.mp (hfirst.trans_lt hlast')
    have hge := firstDay_lt_iff.mp (hfirst'.trans_lt hlast)
    omega

/-- The date of the day that a month begins on. -/
theorem ofDayNumber_firstDay (k : Int) :
    Date.ofDayNumber (firstDay k) = ⟨k / 12, (k % 12).toNat + 1, 1⟩ := by
  have hmonth := monthNumber_ofDayNumber.mpr
    ⟨le_refl (firstDay k), firstDay_lt_iff.mpr (Int.lt_succ k)⟩
  obtain ⟨hbounds, hday, _⟩ := ofDayNumber_spec (firstDay k)
  rw [hmonth] at hday
  rw [Date.monthNumber] at hmonth
  generalize Date.ofDayNumber (firstDay k) = d at hmonth hbounds hday
  obtain ⟨year, month, day⟩ := d
  dsimp only at hmonth hbounds hday
  rw [Date.mk.injEq]
  omega

/-! ## Dates that the calendar may have -/

theorem firstDay_minYear : firstDay (Date.minYear * 12) = Date.minDay := by decide

theorem firstDay_maxYear : firstDay ((Date.maxYear + 1) * 12) = Date.maxDay + 1 := by decide

/-- The calendar may have the first of a month where it may have the day. -/
theorem minDay_le_firstDay {k : Int} : Date.minDay ≤ firstDay k ↔ Date.minYear ≤ k / 12 := by
  rw [← firstDay_minYear, firstDay_le_iff]
  omega

theorem firstDay_le_maxDay {k : Int} : firstDay k ≤ Date.maxDay ↔ k / 12 ≤ Date.maxYear := by
  rw [← Int.lt_add_one_iff, ← firstDay_maxYear, firstDay_lt_iff]
  omega

end KustoSearch.Calendar
