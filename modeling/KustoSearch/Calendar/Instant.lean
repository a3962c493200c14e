import KustoSearch.Calendar.Date
import KustoSearch.Text.Numeral

/-! # Instants

Points in time to the nanosecond, counted in seconds from 1970-01-01T00:00:00Z. The second before
a leap second may hold up to two thousand million nanoseconds, which is how the leap second itself
is represented.
-/

namespace KustoSearch.Calendar

/-- A point in time. -/
structure Instant where
  /-- Whole seconds since 1970-01-01T00:00:00Z. -/
  seconds : Int
  /-- Nanoseconds after that; from `10^9` on they lie in a leap second. -/
  nanos : Nat
deriving DecidableEq, Repr

namespace Instant

/-- Seconds in a day. -/
def daySeconds : Int := 86400

/-- The instant, when its date is one that the calendar may have. -/
def checked? (t : Instant) : Option Instant :=
  let day := t.seconds / daySeconds
  if Date.minDay ≤ day && day ≤ Date.maxDay then some t else none

/-- The instant of a date at a time of day. -/
def ofDate (d : Date) (secondOfDay nanos : Nat) : Instant :=
  ⟨d.dayNumber * daySeconds + secondOfDay, nanos⟩

/-- The date of an instant. -/
def date (t : Instant) : Date := Date.ofDayNumber (t.seconds / daySeconds)

/-- Seconds since midnight. -/
def secondOfDay (t : Instant) : Nat := (t.seconds % daySeconds).toNat

/-- Milliseconds since 1970-01-01T00:00:00Z, rounded down. -/
def millis (t : Instant) : Int := t.seconds * 1000 + (t.nanos / 1000000 : Nat)

/-- The instant of a number of milliseconds since 1970-01-01T00:00:00Z. -/
def ofMillis? (ms : Int) : Option Instant :=
  checked? ⟨ms / 1000, (ms % 1000).toNat * 1000000⟩

/-- Whether `t` is earlier than `u`. -/
def before (t u : Instant) : Bool :=
  t.seconds < u.seconds || (t.seconds == u.seconds && t.nanos < u.nanos)

/-- The instant a number of milliseconds later, or earlier if the number is negative. A leap second
that is left counts as the second before it on the way to a later second, and as the second after
it on the way to an earlier one. -/
def addMillis? (t : Instant) (ms : Int) : Option Instant :=
  let seconds := ms.tdiv 1000
  let nanos := ms.tmod 1000 * 1000000
  if 1000000000 ≤ t.nanos && seconds = 0 && t.nanos + nanos < 2000000000 then
    some ⟨t.seconds, (t.nanos + nanos).toNat⟩
  else
    let leap := 1000000000 ≤ t.nanos
    let second := if leap && seconds < 0 then t.seconds + 1 else t.seconds
    let total := (if leap then t.nanos - 1000000000 else t.nanos : Int) + nanos
    checked? ⟨second + seconds + total / 1000000000, (total % 1000000000).toNat⟩

/-- The instant at the same time of day some months later. -/
def addMonths? (t : Instant) (months : Nat) : Option Instant :=
  (t.date.addMonths? months).map fun d => ofDate d t.secondOfDay t.nanos

/-- A year in a timestamp: four digits, or a sign and at least four digits. -/
def yearText (year : Int) : String :=
  if 0 ≤ year && year ≤ 9999 then Text.paddedText 4 year.natAbs
  else (if year < 0 then "-" else "+") ++ Text.paddedText 4 year.natAbs

/-- The timestamp of an instant in milliseconds, rounded down; a leap second shows as second
60. -/
def text (t : Instant) : String :=
  let d := t.date
  let s := t.secondOfDay
  let leap := 1000000000 ≤ t.nanos
  let second := s % 60 + (if leap then 1 else 0)
  let nanos := if leap then t.nanos - 1000000000 else t.nanos
  yearText d.year ++ "-" ++ Text.paddedText 2 d.month ++ "-" ++ Text.paddedText 2 d.day ++
    "T" ++ Text.paddedText 2 (s / 3600) ++ ":" ++ Text.paddedText 2 (s / 60 % 60) ++ ":" ++
    Text.paddedText 2 second ++ "." ++ Text.paddedText 3 (nanos / 1000000) ++ "Z"

end Instant

end KustoSearch.Calendar
