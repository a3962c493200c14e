import KustoSearch.Kql.Quoted
import KustoSearch.Text.Numeral

/-! # Date-time expressions

The expressions of a statement whose value is a point in time, and the spans they use.
-/

namespace KustoSearch.Kql

/-- Units of a timespan literal, longest first. -/
inductive SpanUnit where
  | day
  | hour
  | minute
  | second
  | milli
deriving DecidableEq, Repr

namespace SpanUnit

/-- The length of a unit in milliseconds. -/
def millis : SpanUnit → Nat
  | .day => 86400000
  | .hour => 3600000
  | .minute => 60000
  | .second => 1000
  | .milli => 1

/-- The mark of a unit after a number. -/
def mark : SpanUnit → String
  | .day => "d"
  | .hour => "h"
  | .minute => "m"
  | .second => "s"
  | .milli => "ms"

/-- All units, longest first. -/
def all : List SpanUnit := [.day, .hour, .minute, .second, .milli]

end SpanUnit

/-- A timespan literal. -/
structure Span where
  count : Int
  unit : SpanUnit
deriving DecidableEq, Repr

namespace Span

/-- A span of milliseconds in the longest unit that divides it. -/
def ofMillis (ms : Int) : Span :=
  let unit := (SpanUnit.all.find? fun u => ms % u.millis == 0).getD .milli
  ⟨ms / unit.millis, unit⟩

/-- The length in milliseconds. -/
def millis (s : Span) : Int := s.count * s.unit.millis

/-- A span of milliseconds is as long as it is meant to be, in whatever unit it is written. -/
theorem millis_ofMillis (ms : Int) : (ofMillis ms).millis = ms := by
  unfold ofMillis millis
  dsimp only
  cases hunit : SpanUnit.all.find? fun u => ms % u.millis == 0 with
  | none => simp [SpanUnit.millis]
  | some unit =>
    have hdivides := List.find?_some hunit
    rw [beq_iff_eq] at hdivides
    exact Int.ediv_mul_cancel (Int.dvd_of_emod_eq_zero hdivides)

/-- The literal. -/
def text (s : Span) : String := Text.integerText s.count ++ s.unit.mark

end Span

/-- Units of calendar arithmetic. -/
inductive DateUnit where
  | year
  | month
  | week
  | day
  | hour
  | minute
  | second
deriving DecidableEq, Repr

/-- The name of a unit in `datetime_add`. -/
def DateUnit.name : DateUnit → String
  | .year => "year"
  | .month => "month"
  | .week => "week"
  | .day => "day"
  | .hour => "hour"
  | .minute => "minute"
  | .second => "second"

/-- An expression for a point in time. -/
inductive Moment where
  /-- Any expression, as text. -/
  | source (text : String)
  /-- A date-time text to be read. -/
  | literal (text : String)
  | now
  | since (span : Span)
  | after (span : Span)
  | add (unit : DateUnit) (count : Int) (base : Moment)
  | startOfYear (base : Moment)
  | startOfMonth (base : Moment)
  | startOfDay (base : Moment)
  | startOfQuarter (base : Moment)
  /-- The last multiple of a span, counted from 0001-01-01, that is not later. -/
  | bin (base : Moment) (span : Span)
  /-- One millisecond earlier. -/
  | justBefore (base : Moment)
deriving DecidableEq, Repr

/-- The text of a date-time expression. -/
def Moment.text : Moment → String
  | .source text => text
  | .literal text => "todatetime(" ++ textLiteral text ++ ")"
  | .now => "now()"
  | .since span => "ago(" ++ span.text ++ ")"
  | .after span => "now(" ++ span.text ++ ")"
  | .add unit count base =>
    "datetime_add('" ++ unit.name ++ "', " ++ Text.integerText count ++ ", " ++ base.text ++ ")"
  | .startOfYear base => "startofyear(" ++ base.text ++ ")"
  | .startOfMonth base => "startofmonth(" ++ base.text ++ ")"
  | .startOfDay base => "startofday(" ++ base.text ++ ")"
  | .startOfQuarter base =>
    "datetime_add('month', -((getmonth(" ++ base.text ++ ") - 1) % 3), startofmonth(" ++
      base.text ++ "))"
  | .bin base span => "bin(" ++ base.text ++ ", " ++ span.text ++ ")"
  | .justBefore base => base.text ++ " - 1ms"

end KustoSearch.Kql
