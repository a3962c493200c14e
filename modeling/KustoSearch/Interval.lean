import KustoSearch.Calendar.Instant
import KustoSearch.Kql.Moment
import KustoSearch.Text.Blank

/-! # Date intervals

The bucket widths of a date histogram: a fixed number of milliseconds or a calendar unit. Buckets
are half-open, so an instant on a boundary opens the later one. Fixed intervals are counted from
0001-01-01T00:00:00Z in 64-bit numbers, which wrap; `Interval.moment` says the same floor as an
expression of a statement that `Interval.start?` computes.
-/

namespace KustoSearch

/-- The width of a date bucket. -/
inductive Interval where
  /-- A fixed number of milliseconds. Those that can be read are at least one. -/
  | fixed (millis : Int64)
  | month
  | quarter
  | year
deriving DecidableEq, Repr

namespace Interval

open Calendar

/-- Milliseconds from 1970-01-01 back to the origin of fixed intervals, 0001-01-01. -/
def originMillis : Int := -62135596800000

/-- Interval names. -/
def named? : List Char → Option Interval
  | ['s', 'e', 'c', 'o', 'n', 'd'] => some (.fixed 1000)
  | ['m', 'i', 'n', 'u', 't', 'e'] => some (.fixed 60000)
  | ['h', 'o', 'u', 'r'] => some (.fixed 3600000)
  | ['d', 'a', 'y'] => some (.fixed 86400000)
  | ['w', 'e', 'e', 'k'] => some (.fixed 604800000)
  | ['m', 'o', 'n', 't', 'h'] => some .month
  | ['1', 'M'] => some .month
  | ['q', 'u', 'a', 'r', 't', 'e', 'r'] => some .quarter
  | ['1', 'q'] => some .quarter
  | ['y', 'e', 'a', 'r'] => some .year
  | ['1', 'y'] => some .year
  | _ => none

/-- The length of a unit in milliseconds. -/
def unitMillis? : List Char → Option Nat
  | ['m', 's'] => some 1
  | ['s'] => some 1000
  | ['m'] => some 60000
  | ['h'] => some 3600000
  | ['d'] => some 86400000
  | ['w'] => some 604800000
  | _ => none

/-- A number of units that is at least one and fits 63 bits in milliseconds. -/
def counted? (cs : List Char) : Option Interval := do
  let count ← Text.natural? (cs.takeWhile Text.isDigit)
  let unit ← unitMillis? (cs.dropWhile Text.isDigit)
  if 1 ≤ count && count * unit < Nat.pow 2 63 then some (.fixed (.ofNat (count * unit)))
  else none

/-- Reads an interval; blanks around it do not matter. -/
def parse? (s : String) : Option Interval :=
  let cs := Text.trim s.toList
  match named? cs with
  | some i => some i
  | none => counted? cs

/-- The start of the bucket that `base` falls into, as an expression. -/
def moment (interval : Interval) (base : Kql.Moment) : Kql.Moment :=
  match interval with
  | .fixed ms => .bin base (.ofMillis ms.toInt)
  | .month => .startOfMonth base
  | .quarter => .startOfQuarter base
  | .year => .startOfYear base

/-- Midnight on the first of a month. -/
def firstOfMonth? (year : Int) (month : Nat) : Option Instant :=
  (Date.ofParts? year month 1).map fun d => Instant.ofDate d 0 0

/-- The remainder of a division that rounds to the side on which the remainder is not negative;
there is none by zero. The least number has none by `-1` either, but no instant of the calendar is
that far from the origin. -/
def remainder? (a b : Int64) : Option Int64 :=
  if b = 0 then none else some (.ofInt (a.toInt % b.toInt))

/-- The start of the bucket that `t` falls into, which only a fixed interval of no length has not.
An instant whose bucket would start before the calendar does stands for itself. -/
def start? (interval : Interval) (t : Instant) : Option Instant :=
  match interval with
  | .fixed ms =>
    let offset := Int64.ofInt t.millis - Int64.ofInt originMillis
    (remainder? offset ms).map fun rest =>
      (Instant.ofMillis? (offset - rest + Int64.ofInt originMillis).toInt).getD t
  | .month => some ((firstOfMonth? t.date.year t.date.month).getD t)
  | .quarter => some ((firstOfMonth? t.date.year ((t.date.month - 1) / 3 * 3 + 1)).getD t)
  | .year => some ((firstOfMonth? t.date.year 1).getD t)

/-- The start of the bucket after the one that starts at `start`. -/
def next? (interval : Interval) (start : Instant) : Option Instant :=
  match interval with
  | .fixed ms => start.addMillis? ms.toInt
  | .month => start.addMonths? 1
  | .quarter => start.addMonths? 3
  | .year => start.addMonths? 12

end Interval

end KustoSearch
