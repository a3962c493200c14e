/-! # Calendar dates

Dates of the Gregorian calendar, extended without limit to both sides and numbered by days from
1970-01-01. `dayNumber` counts the days before a date and `Date.ofDayNumber` finds the date again:
the year is the one whose first day is the last not after the day, and the month likewise.
-/

namespace KustoSearch.Calendar

/-- Whether a year has a 29th of February. -/
def isLeapYear (year : Int) : Bool :=
  year % 4 == 0 && (year % 100 != 0 || year % 400 == 0)

/-- The days of a month, from 1 to 12. -/
def monthLength (year : Int) (month : Nat) : Nat :=
  match month with
  | 2 => if isLeapYear year then 29 else 28
  | 4 | 6 | 9 | 11 => 30
  | _ => 31

/-- The days of a year before the first of a month. -/
def daysBeforeMonth (year : Int) : Nat → Nat
  | 0 => 0
  | 1 => 0
  | month + 1 => daysBeforeMonth year month + monthLength year month

/-- The days from 0001-01-01 to the first day of a year. -/
def daysBeforeYear (year : Int) : Int :=
  let y := year - 1
  365 * y + y / 4 - y / 100 + y / 400

/-- The days from 0001-01-01 to 1970-01-01. -/
def epochDays : Int := 719162

/-- The year that holds the day `n` days after 0001-01-01. -/
def yearOfDay (n : Int) : Int :=
  let guess := n * 400 / 146097 + 1
  if n < daysBeforeYear guess then guess - 1
  else if daysBeforeYear (guess + 1) ≤ n then guess + 1
  else guess

/-- The month, from `month` on, that holds the day `n` days into the year. -/
def monthFrom (year : Int) (n : Nat) : (steps : Nat) → (month : Nat) → Nat
  | 0, month => month
  | steps + 1, month =>
    if n < daysBeforeMonth year (month + 1) then month else monthFrom year n steps (month + 1)

/-- A date. -/
structure Date where
  year : Int
  /-- From 1 to 12. -/
  month : Nat
  /-- From 1 on. -/
  day : Nat
deriving DecidableEq, Repr

namespace Date

/-- Years that a date may have. -/
def minYear : Int := -262143
def maxYear : Int := 262142

/-- The date, when the calendar has it. -/
def ofParts? (year : Int) (month day : Nat) : Option Date :=
  if minYear ≤ year && year ≤ maxYear && 1 ≤ month && month ≤ 12 && 1 ≤ day &&
      day ≤ monthLength year month then
    some ⟨year, month, day⟩
  else none

/-- The number of the day, counted from 1970-01-01. -/
def dayNumber (d : Date) : Int :=
  daysBeforeYear d.year + daysBeforeMonth d.year d.month + d.day - 1 - epochDays

/-- The date of a day counted from 1970-01-01. -/
def ofDayNumber (n : Int) : Date :=
  let n := n + epochDays
  let year := yearOfDay n
  let inYear := (n - daysBeforeYear year).toNat
  let month := monthFrom year inYear 11 1
  ⟨year, month, inYear - daysBeforeMonth year month + 1⟩

/-- The first and the last day that a date may have. -/
def minDay : Int := Date.dayNumber ⟨minYear, 1, 1⟩
def maxDay : Int := Date.dayNumber ⟨maxYear, 12, 31⟩

/-- The same day some months later, or the last day of that month when it is too short. -/
def addMonths? (d : Date) (months : Nat) : Option Date :=
  let total : Int := d.year * 12 + (d.month - 1 : Nat) + months
  let year := total / 12
  let month := (total % 12).toNat + 1
  ofParts? year month (min d.day (monthLength year month))

end Date

end KustoSearch.Calendar
