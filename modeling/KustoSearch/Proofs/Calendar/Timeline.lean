import KustoSearch.Proofs.Calendar.Instant

/-! # Points in time as numbers

Points in time as nanoseconds from 1970-01-01T00:00:00Z on, negative before it. The calendar goes on
to both sides without end and has no leap seconds. What the calendar does with a point is said by
dates; at the start of a month it is a matter of the month's number.
-/

namespace KustoSearch.Calendar

/-- The nanoseconds of a day. -/
def dayNanos : Int := 86400000000000

/-- The point in time that an instant is. -/
def Instant.point (t : Instant) : Int := t.seconds * 1000000000 + t.nanos

/-- Midnight at the start of a date. -/
def Date.midnight (d : Date) : Int := d.dayNumber * dayNanos

/-- The same day some months later, or the last day of that month when it is too short. -/
def Date.plusMonths (d : Date) (months : Int) : Date :=
  let year := (d.monthNumber + months) / 12
  let month := ((d.monthNumber + months) % 12).toNat + 1
  ⟨year, month, min d.day (monthLength year month)⟩

/-- The date of a day has the number of the day. -/
theorem dayNumber_ofDayNumber (n : Int) : (Date.ofDayNumber n).dayNumber = n := by
  obtain ⟨hmonth, hday, _, _⟩ := ofDayNumber_spec n
  have hfirst := dayNumber_first (Date.ofDayNumber n).year hmonth
  simp only [Date.dayNumber, Date.monthNumber] at *
  omega

namespace Timeline

/-- The date of a point in time. -/
def date (x : Int) : Date := Date.ofDayNumber (x / dayNanos)

/-- The same time of day some months later. -/
def plusMonths (months x : Int) : Int := ((date x).plusMonths months).midnight + x % dayNanos

/-- Midnight on the first of January, on the first of the month, and on the day itself. -/
def startOfYear (x : Int) : Int := Date.midnight ⟨(date x).year, 1, 1⟩
def startOfMonth (x : Int) : Int := Date.midnight ⟨(date x).year, (date x).month, 1⟩
def startOfDay (x : Int) : Int := (date x).midnight

/-- 0001-01-01T00:00:00Z. -/
def origin : Int := Date.midnight ⟨1, 1, 1⟩

/-- The last multiple of a span, counted from the origin, that is not later. -/
def bin (span x : Int) : Int := (x - origin) / span * span + origin

/-- The start of a month. -/
def monthStart (month : Int) : Int := firstDay month * dayNanos

theorem origin_eq : origin = -719162 * dayNanos := by decide

@[simp] theorem point_atMillis (ms : Int) : (Instant.atMillis ms).point = ms * 1000000 := by
  simp only [Instant.point, Instant.atMillis]
  omega

theorem point_atMillis_firstMillis (month : Int) :
    (Instant.atMillis (firstMillis month)).point = monthStart month := by
  rw [point_atMillis, firstMillis, monthStart, dayNanos]
  omega

theorem date_point {t : Instant} (h : t.nanos < 1000000000) : date t.point = t.date := by
  have hday : t.point / dayNanos = t.seconds / Instant.daySeconds := by
    simp only [Instant.point, dayNanos, Instant.daySeconds]
    omega
  rw [date, hday, Instant.date]

/-! ## Starts of months -/

theorem month_bounds (x : Int) : 1 ≤ (date x).month ∧ (date x).month ≤ 12 :=
  (ofDayNumber_spec _).1

theorem monthStart_lt_iff {k l : Int} : monthStart k < monthStart l ↔ k < l := by
  rw [monthStart, monthStart, dayNanos, Int.mul_lt_mul_right (by decide), firstDay_lt_iff]

theorem monthStart_le_iff {k l : Int} : monthStart k ≤ monthStart l ↔ k ≤ l := by
  rw [← Int.not_lt, monthStart_lt_iff, Int.not_lt]

/-- A point in time lies in the month of its date. -/
theorem monthStart_bounds (x : Int) :
    monthStart (date x).monthNumber ≤ x ∧ x < monthStart ((date x).monthNumber + 1) := by
  obtain ⟨_, _, hfirst, hlast⟩ := ofDayNumber_spec (x / dayNanos)
  simp only [monthStart, date, dayNanos] at *
  omega

theorem midnight_first (year : Int) {month : Nat} (h : 1 ≤ month ∧ month ≤ 12) :
    Date.midnight ⟨year, month, 1⟩ = monthStart (year * 12 + (month - 1 : Nat)) := by
  rw [Date.midnight, dayNumber_first year h, monthStart]

theorem startOfMonth_eq (x : Int) : startOfMonth x = monthStart (date x).monthNumber :=
  midnight_first _ (month_bounds x)

theorem startOfYear_eq (x : Int) : startOfYear x = monthStart ((date x).monthNumber / 12 * 12) := by
  have hmonth := month_bounds x
  have hyear : (date x).monthNumber / 12 * 12 = (date x).year * 12 + ((1 - 1 : Nat) : Int) := by
    rw [Date.monthNumber]
    omega
  rw [hyear]
  exact midnight_first _ (by omega)

/-- Days start at the multiples of their length. -/
theorem startOfDay_eq (x : Int) : startOfDay x = x / dayNanos * dayNanos := by
  rw [startOfDay, Date.midnight, date, dayNumber_ofDayNumber]

theorem date_monthStart (month : Int) :
    date (monthStart month) = ⟨month / 12, (month % 12).toNat + 1, 1⟩ := by
  rw [date, monthStart, Int.mul_ediv_cancel _ (by decide), ofDayNumber_firstDay]

/-- Months after the start of a month another one starts. -/
theorem plusMonths_monthStart (months month : Int) :
    plusMonths months (monthStart month) = monthStart (month + months) := by
  have hnumber : (date (monthStart month)).monthNumber = month := by
    rw [date_monthStart, Date.monthNumber]
    dsimp only
    omega
  have htime : monthStart month % dayNanos = 0 := Int.mul_emod_left _ _
  have hfirst : min 1 (monthLength ((month + months) / 12)
      (((month + months) % 12).toNat + 1)) = 1 := Nat.min_eq_left (monthLength_pos _ _)
  have hback : (month + months) / 12 * 12 + (((month + months) % 12).toNat + 1 - 1 : Nat) =
      month + months := by omega
  rw [plusMonths, htime, Int.add_zero, Date.plusMonths, hnumber]
  rw [date_monthStart, hfirst, midnight_first _ (by omega), hback]

end Timeline

end KustoSearch.Calendar
