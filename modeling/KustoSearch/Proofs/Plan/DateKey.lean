import KustoSearch.Proofs.Interval
import KustoSearch.Proofs.Kql.Moment
import KustoSearch.Response.Cell

/-! # Keys of date buckets

The key of a date bucket is computed twice: by the engine, from the expression of the statement, and
once more when the key is shown. `dateKey_agrees` says that the two agree on every instant, for
every interval that can be read.
-/

namespace KustoSearch

open Calendar
open Kql (Context Moment Quantity)
open Kql.Scalar (ComesTo IsWorth evaluate?)

namespace Interval

/-- Rounding a point in time is rounding its milliseconds. -/
theorem bin_point (ms : Int64) (t : Instant) :
    Timeline.bin (ms.toInt * 1000000) t.point =
      (fixed ms).edge ((fixed ms).number t) * 1000000 := by
  have hmillis : (t.point - Timeline.origin) / 1000000 = t.millis - originMillis := by
    rw [Timeline.origin_eq]
    simp only [Instant.point, Instant.millis, originMillis, dayNanos]
    omega
  have hspans : (t.point - Timeline.origin) / (ms.toInt * 1000000) = (fixed ms).number t := by
    rw [Int.mul_comm ms.toInt, ← Int.ediv_ediv_of_nonneg (by decide), hmillis, number]
  rw [Timeline.bin, hspans, Timeline.origin_eq, edge, Int.add_mul, ← Int.mul_assoc]
  rfl

/-- The months since the last quarter began lead back to the start of the quarter. -/
theorem plusMonths_startOfQuarter (x : Int) :
    Timeline.plusMonths (-(((Timeline.date x).month : Int) - 1).tmod 3) (Timeline.startOfMonth x) =
      Timeline.monthStart ((Timeline.date x).monthNumber / 3 * 3) := by
  have hmonth := Timeline.month_bounds x
  -- the engine's remainder is that of the month of the year, which starts at one
  have hback : (Timeline.date x).monthNumber + -(((Timeline.date x).month : Int) - 1).tmod 3 =
      (Timeline.date x).monthNumber / 3 * 3 := by
    rw [Int.tmod_eq_emod_of_nonneg (by omega), Date.monthNumber]
    omega
  rw [Timeline.startOfMonth_eq, Timeline.plusMonths_monthStart, hback]

variable {context : Context} {base : Moment} {interval : Interval} {t : Instant}

/-- The expression of a bucket comes to the start of the bucket, whatever expression the instant
is. -/
theorem comesTo_moment (h : interval.Proper) (ht : InEra t) (hregular : t.nanos < 1000000000)
    (hbase : ComesTo context base.text (.point t.point)) :
    ComesTo context (interval.moment base).text (.point (interval.start t).point) := by
  have hdate := Timeline.date_point hregular
  rw [start_eq h ht]
  cases interval with
  | fixed ms =>
    have hspan : 0 < (Kql.Span.ofMillis ms.toInt).millis := by
      rw [Kql.Span.millis_ofMillis]
      exact h
    have hbin := Moment.isWorth_bin hbase hspan
    rw [Kql.Span.millis_ofMillis, bin_point, ← Timeline.point_atMillis] at hbin
    exact hbin.comesTo
  | month =>
    have hmonth := Moment.isWorth_startOfMonth hbase
    rw [Timeline.startOfMonth_eq, hdate, ← Timeline.point_atMillis_firstMillis] at hmonth
    exact hmonth.comesTo
  | quarter =>
    have hquarter := Moment.isWorth_startOfQuarter hbase
    rw [plusMonths_startOfQuarter, hdate, ← Timeline.point_atMillis_firstMillis] at hquarter
    exact hquarter.comesTo
  | year =>
    have hyear := Moment.isWorth_startOfYear hbase
    rw [Timeline.startOfYear_eq, hdate, ← Timeline.point_atMillis_firstMillis] at hyear
    exact hyear.comesTo

/-- The start of a bucket is its own start. -/
theorem start_start (h : interval.Proper) (ht : InEra t) :
    interval.start (interval.start t) = interval.start t := by
  rw [start_eq h ht]
  exact start_edge h (originMillis_le_edge h ht) ((edge_number_le h t).trans_lt ht.within)

/-- The expression of a date key comes to the start of the bucket of the row's instant. -/
theorem comesTo_expression (h : interval.Proper) (ht : InEra t) (hregular : t.nanos < 1000000000)
    {field : String} (hrow : (context.column field).bind context.point? = some t.point) :
    ComesTo context (BucketKey.date field interval).expression
      (.point (interval.start t).point) := by
  obtain ⟨q, hcolumn, hpoint⟩ := Option.bind_eq_some_iff.mp hrow
  have hsource := Moment.isWorth_todatetime (Kql.Scalar.isWorth_identifier hcolumn).comesTo hpoint
  exact @comesTo_moment _ (.source (BucketKey.dateSource field)) _ _ h ht hregular hsource.comesTo

/-- The keys that the engine computes are the starts that are shown. For every interval that can be
read and every instant of the common era outside a leap second, there is a start of the bucket, and
the expression of a bucket comes to it: over any expression for the instant, and so over a column
that holds the instant. A key that is such a start is shown as it is. -/
theorem dateKey_agrees {s : String} (h : parse? s = some interval) (ht : InEra t)
    (hregular : t.nanos < 1000000000) :
    interval.start? t = some (interval.start t) ∧
    (∀ base : Moment, ComesTo context base.text (.point t.point) →
      evaluate? context (interval.moment base).text = some (.point (interval.start t).point)) ∧
    (∀ field, (context.column field).bind context.point? = some t.point →
      evaluate? context (BucketKey.date field interval).expression =
        some (.point (interval.start t).point)) ∧
    ∀ table aggregation field shown, instant? shown = some (interval.start t) →
      Cell.bucketKey table aggregation .timestamp (.date field interval) (.string shown) =
        .ok (Json.ofInt (interval.start t).millis, some (interval.start t).text) := by
  have hproper := proper_of_parse? h
  refine ⟨start?_eq_start hproper.ne_fixed_zero t,
    fun base hbase => (comesTo_moment hproper ht hregular hbase).evaluate?_eq,
    fun field hrow => (comesTo_expression hproper ht hregular hrow).evaluate?_eq,
    fun table aggregation field shown hshown => ?_⟩
  have hnull : (Json.string shown).isNull = false := rfl
  have hinstant : (Json.string shown).string?.bind instant? = some (interval.start t) := hshown
  rw [Cell.bucketKey, hnull, hinstant]
  dsimp only
  rw [start?_eq_start hproper.ne_fixed_zero, start_start hproper ht]
  rfl

/-- A row whose column `ts` holds the text of an instant. -/
def augustRow : Context where
  now := 0
  column name := if name = "ts" then some (.text "2024-08-17T09:30:00.25Z") else none
  date
    | .text s => (instant? s).map Instant.point
    | _ => none

/-- The third quarter of the year starts on the first of July, in both ways, and its key stays what
it is. -/
theorem dateKey_agrees_quarter :
    parse? " quarter" = some .quarter ∧ InEra august ∧ august.nanos < 1000000000 ∧
      (augustRow.column "ts").bind augustRow.point? = some august.point ∧
      evaluate? augustRow (BucketKey.date "ts" .quarter).expression =
        some (.point 1719792000000000000) ∧
      Cell.bucketKey "t" "sales" .timestamp (.date "ts" .quarter) (.string "2024-07-01") =
        .ok (Json.ofInt 1719792000000, some (Instant.text ⟨1719792000, 0⟩)) := by
  have hread : parse? " quarter" = some .quarter := by decide
  have haugust : InEra august := ⟨by decide, by decide⟩
  have hrow : (augustRow.column "ts").bind augustRow.point? = some august.point := by decide
  obtain ⟨_, _, hengine, hshown⟩ := @dateKey_agrees augustRow _ _ _ hread haugust (by decide)
  have hstart : quarter.start august = ⟨1719792000, 0⟩ := by decide
  refine ⟨hread, haugust, by decide, hrow, ?_, ?_⟩
  · rw [hengine "ts" hrow, hstart]
    rfl
  · rw [hshown "t" "sales" "ts" "2024-07-01" (by decide), hstart]
    rfl

end Interval

end KustoSearch
