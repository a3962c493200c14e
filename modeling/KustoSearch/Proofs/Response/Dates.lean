import KustoSearch.Proofs.Calendar.Printed
import KustoSearch.Proofs.Response.Completion
import KustoSearch.Proofs.Response.Counts

/-! # Dates of a response

A date is reported twice, as a number of milliseconds and as a text beside it. The number is rounded
down from the instant of the cell and the text is cut off behind three digits of a fraction; both
are one instant: reading the text gives it, its milliseconds are the number, and its own text is the
text again. The key of a date bucket is the start of the bucket that the instant of the cell falls
into. Main result: `Plan.response_dates`.
-/

namespace KustoSearch

open Calendar (Instant)

/-- Whether a number and the text beside it are both an instant. -/
structure Denotes (value : Json) (text : Option String) (t : Instant) : Prop where
  /-- The number counts the milliseconds of the instant. -/
  number : ∃ n, value = .number n ∧ n.toInt? = some t.millis
  /-- The text is read as the instant, and it is how the instant is written. -/
  text : ∃ s, text = some s ∧ Calendar.instant? s = some t ∧ t.text = s

/-- The instant that a bucket is shown under when its cell holds another one; a bucket of an interval
of no length is not shown at all. -/
def BucketKey.shown? : BucketKey → Instant → Option Instant
  | .date _ interval, t => interval.start? t
  | _, t => some (.atMillis t.millis)

/-! ## Instants in milliseconds -/

/-- Between the years 1 and 9999 a number of milliseconds fits 64 bits. -/
theorem exists_number_ofInt {ms : Int} (hsince : Interval.originMillis ≤ ms)
    (hbefore : ms < Instant.fourDigitEnd) :
    ∃ n, Json.ofInt ms = .number n ∧ n.toInt? = some ms := by
  have hread : Gaps.integerKey? (Json.ofInt ms) = some ms := by
    apply Gaps.integerKey?_ofInt
    · exact le_trans (by decide) hsince
    · exact lt_trans hbefore (by decide)
  cases hvalue : Json.ofInt ms with
  | number n =>
    rw [hvalue, Gaps.integerKey?, Number.toInt64?] at hread
    exact ⟨n, rfl, (Option.filter_eq_some_iff.mp hread).1⟩
  | _ =>
    rw [hvalue] at hread
    cases hread

/-- An instant in milliseconds and what is reported of it are one. -/
theorem denotes_atMillis {ms : Int} (hsince : Interval.originMillis ≤ ms)
    (hbefore : ms < Instant.fourDigitEnd) :
    Denotes (Json.ofInt (Instant.atMillis ms).millis) (some (Instant.atMillis ms).text)
      (.atMillis ms) := by
  refine ⟨?_, _, rfl, Instant.instant?_text_atMillis hsince hbefore, rfl⟩
  rw [Instant.millis_atMillis]
  exact exists_number_ofInt hsince hbefore

/-- What is reported of an instant are its milliseconds: the text says no more than the number. -/
theorem denotes_of_inFourDigits {t : Instant} (h : t.InFourDigits) :
    Denotes (Json.ofInt t.millis) (some t.text) (.atMillis t.millis) := by
  have hdenotes := denotes_atMillis h.since h.before
  rwa [Instant.millis_atMillis, Instant.text_atMillis h.regular] at hdenotes

/-- An instant of the four-digit years is one of the common era. -/
theorem inEra_of_inFourDigits {t : Instant} (h : t.InFourDigits) : Interval.InEra t := by
  refine ⟨?_, lt_trans h.before (by decide)⟩
  have hsince := h.since
  have hregular := h.regular
  simp only [Instant.millis, Interval.originMillis] at *
  omega

/-- What is left of a number that is not negative is no more than the number. -/
theorem emod_le_self {a b : Int} (ha : 0 ≤ a) (hb : b ≠ 0) : a % b ≤ a := by
  rw [← Int.emod_abs a b]
  rcases Int.lt_or_le a |b| with hlt | hle
  · exact (Int.emod_eq_of_lt ha hlt).le
  · exact (Int.emod_lt_of_pos a (abs_pos.mpr hb)).le.trans hle

/-- Fixed intervals have starts after the origin, those of a length below zero as well. -/
theorem exists_start?_fixed {ms : Int64} (hms : ms ≠ 0) {t : Instant} (h : t.InFourDigits) :
    ∃ start, (Interval.fixed ms).start? t = some (.atMillis start) ∧
      Interval.originMillis ≤ start ∧ start ≤ t.millis := by
  have hsince := h.since
  have hbefore := h.before
  have hrange : Instant.minMillis ≤ Interval.originMillis ∧
      Instant.fourDigitEnd ≤ Instant.endMillis := by decide
  have hne : ms.toInt ≠ 0 := fun hzero => hms (Int64.toInt_inj.mp hzero)
  have hrest := Int.emod_nonneg (t.millis - Interval.originMillis) hne
  have hle := emod_le_self (a := t.millis - Interval.originMillis) (by omega) hne
  refine ⟨t.millis - Interval.originMillis - (t.millis - Interval.originMillis) % ms.toInt +
    Interval.originMillis, ?_, by omega, by omega⟩
  rw [Interval.start?_fixed hms ⟨by omega, by omega⟩, Instant.ofMillis?_eq, if_pos (by omega)]
  rfl

/-- A bucket starts at a whole millisecond, after the origin and no later than its instants. -/
theorem exists_start?_eq {interval : Interval} (hne : interval ≠ .fixed 0) {t : Instant}
    (h : t.InFourDigits) : ∃ ms, interval.start? t = some (.atMillis ms) ∧
      Interval.originMillis ≤ ms ∧ ms ≤ t.millis := by
  have hera := inEra_of_inFourDigits h
  have hproper : interval.Proper → ∃ ms, interval.start? t = some (.atMillis ms) ∧
      Interval.originMillis ≤ ms ∧ ms ≤ t.millis := fun hproper =>
    ⟨_, Interval.start?_eq hproper hera, Interval.originMillis_le_edge hproper hera,
      Interval.edge_number_le hproper t⟩
  cases interval with
  | fixed ms => exact exists_start?_fixed (fun hzero => hne (by rw [hzero])) h
  | month => exact hproper trivial
  | quarter => exact hproper trivial
  | year => exact hproper trivial

/-- What is shown of an instant under a key. -/
theorem denotes_shown? {key : BucketKey} {t u : Instant} (h : t.InFourDigits)
    (hu : (match key with
      | .date _ interval => interval.start? t
      | _ => some t) = some u) :
    ∃ shown, key.shown? t = some shown ∧ Denotes (Json.ofInt u.millis) (some u.text) shown := by
  cases key with
  | date field interval =>
    dsimp only at hu
    have hne : interval ≠ .fixed 0 := by
      rintro rfl
      rw [Interval.start?_eq_none.mpr rfl] at hu
      cases hu
    obtain ⟨ms, hstart, hsince, hle⟩ := exists_start?_eq hne h
    refine ⟨u, hu, ?_⟩
    rw [hstart, Option.some.injEq] at hu
    subst hu
    exact denotes_atMillis hsince (lt_of_le_of_lt hle h.before)
  | number field width =>
    cases hu
    exact ⟨_, rfl, denotes_of_inFourDigits h⟩
  | value field =>
    cases hu
    exact ⟨_, rfl, denotes_of_inFourDigits h⟩

/-! ## Cells -/

/-- A timestamp that is taken for the key of a bucket. -/
theorem bucketKey_timestamp {table aggregation : String} {key : BucketKey} {raw value : Json}
    {text : Option String}
    (h : Cell.bucketKey table aggregation .timestamp key raw = .ok (value, text)) :
    ∃ s t, raw = .string s ∧ Calendar.instant? s = some t ∧
      (t.InFourDigits → ∃ u, key.shown? t = some u ∧ Denotes value text u) := by
  unfold Cell.bucketKey at h
  split_ifs at h with hnull
  dsimp only at h
  split at h
  · cases h
  · rename_i t hinstant
    obtain ⟨s, hraw, hread⟩ := Option.bind_eq_some_iff.mp hinstant
    obtain rfl : raw = .string s := by
      cases raw with
      | string s' => exact congrArg Json.string (Option.some.inj hraw)
      | _ => cases hraw
    split at h
    · rename_i u hu
      cases h
      exact ⟨s, t, rfl, hread, fun hdigits => denotes_shown? hdigits hu⟩
    · cases h

/-- A timestamp that is taken for the value of a metric. -/
theorem metric_timestamp {table : String} {column : Column} {s : String} {m : Cell.Metric}
    (htype : column.type = .timestamp) (hs : s ≠ "")
    (h : Cell.metric table column (.string s) = .ok m) :
    ∃ t, Calendar.instant? s = some t ∧
      (t.InFourDigits → Denotes m.value m.asString (.atMillis t.millis)) := by
  have hempty : s.isEmpty = false := by
    simpa using hs
  unfold Cell.metric at h
  rw [htype] at h
  dsimp only at h
  rw [hempty] at h
  simp only [Bool.false_eq_true, if_false] at h
  split at h
  · rename_i t hread
    cases h
    exact ⟨t, hread, denotes_of_inFourDigits⟩
  · cases h

/-! ## Responses -/

namespace Mapper

/-- Whether the result of a metric shows the instant of its cell, where that is a timestamp. -/
def DatedMetric (plan : MetricPlan) (table : Table) (row : Row) (given : AggregationResult) :
    Prop :=
  plan.function = .min ∨ plan.function = .max ∨ plan.function = .avg →
  ∀ c i column s, plan.columns.head? = some c → table.columnIndex? c.column = some i →
    table.columns[i]? = some column → column.type = .timestamp →
    row[i]? = some (.string s) → s ≠ "" →
    ∃ t value text, Calendar.instant? s = some t ∧ given = .single value text ∧
      (t.InFourDigits → Denotes value text (.atMillis t.millis))

/-- Whether a bucket is shown under the instant of its key cell, where that is a timestamp. -/
def DatedHead (plan : BucketPlan) (rows : LevelRows) (row : Row) (head : BucketHead) : Prop :=
  ∀ column, rows.table.columns[rows.keyIndex]? = some column → column.type = .timestamp →
    ∃ s t, row[rows.keyIndex]? = some (.string s) ∧ Calendar.instant? s = some t ∧
      (t.InFourDigits → ∃ u, plan.key.shown? t = some u ∧ Denotes head.key head.keyAsString u)

/-- Dates as the cells that they are read from hold them. -/
def Reading.dated : Reading where
  metric := DatedMetric
  head := DatedHead
  level plan children delivered given := finish plan children delivered = .ok given

theorem datedHead_of_bucketHead {plan : BucketPlan} {rows : LevelRows} {row : Row}
    {head : BucketHead} {raw : Json} (h : bucketHead plan rows row = .ok (head, raw)) :
    DatedHead plan rows row head := by
  intro column hcolumn htype
  obtain ⟨cell, hcell, h⟩ := Outcome.bind_eq_ok.mp h
  rw [hcolumn] at h
  obtain ⟨type, hsame, h⟩ := Outcome.bind_eq_ok.mp h
  cases hsame
  obtain ⟨⟨key, text⟩, hkey, h⟩ := Outcome.bind_eq_ok.mp h
  obtain ⟨value, _, h⟩ := Outcome.bind_eq_ok.mp h
  rw [htype] at hkey
  obtain ⟨s, t, rfl, hread, hdenotes⟩ := bucketKey_timestamp hkey
  split at h
  · cases h
    exact ⟨s, t, cell_eq_ok.mp hcell, hread, hdenotes⟩
  · cases h

theorem datedMetric_of_metricResult {plan : MetricPlan} {table : Table} {row : Row}
    {given : AggregationResult} (h : metricResult plan table row = .ok given) :
    DatedMetric plan table row given := by
  intro hfunction c i column s hfirst hi hcolumn htype hvalue hs
  obtain ⟨cells, hcells, h⟩ := Outcome.bind_eq_ok.mp h
  cases h
  -- the result shows the first cell, which is the one of the first column
  obtain ⟨columns, hcolumns⟩ : ∃ columns, plan.columns = c :: columns :=
    ⟨_, (List.cons_head?_tail hfirst).symm⟩
  have hall := Outcome.mapM_eq_ok.mp hcells
  rw [hcolumns] at hall
  cases hall with
  | @cons _ cell _ rest hcell _ =>
    obtain ⟨_, i', column', value, hi', hcolumn', hvalue', hmetric⟩ := metricCell_eq_ok hcell
    rw [hi] at hi'
    cases hi'
    rw [hcolumn] at hcolumn'
    cases hcolumn'
    rw [hvalue] at hvalue'
    cases hvalue'
    obtain ⟨t, hread, hdenotes⟩ := metric_timestamp htype hs hmetric
    refine ⟨t, cell.2.value, cell.2.asString, hread, ?_, hdenotes⟩
    rcases hfunction with hmin | hmax | havg
    · rw [hmin]
      rfl
    · rw [hmax]
      rfl
    · rw [havg]
      rfl

theorem exact_implies_dated : Reading.exact.Implies .dated where
  metric := datedMetric_of_metricResult
  head := by
    rintro plan rows row head ⟨raw, h⟩
    exact datedHead_of_bucketHead h
  level := id

end Mapper

open Mapper (ReadFromTop)

/-- Every timestamp that is taken, between the years 1 and 9999 and outside leap seconds, is
reported as one instant. This holds for the key cells and the metric cells of every table, and so
for every result of a response: number and text denote the instant of the cell in milliseconds, and
for the key of a date bucket the start of the bucket of that instant. -/
theorem Plan.response_dates :
    (∀ table aggregation key raw value text,
      Cell.bucketKey table aggregation .timestamp key raw = .ok (value, text) →
      ∃ s t, raw = .string s ∧ Calendar.instant? s = some t ∧
        (t.InFourDigits → ∃ u, key.shown? t = some u ∧ Denotes value text u)) ∧
    (∀ table (column : Column) s m, column.type = .timestamp → s ≠ "" →
      Cell.metric table column (.string s) = .ok m →
      ∃ t, Calendar.instant? s = some t ∧
        (t.InFourDigits → Denotes m.value m.asString (.atMillis t.millis))) ∧
    ∀ (plan : Plan) layout result took ids response,
      plan.response layout result took ids = .ok response →
      plan.aggregations = [] ∧ response.aggregations = none ∨
        plan.aggregations ≠ [] ∧ ∃ given, response.aggregations = some (membersOf given) ∧
          ReadFromTop .dated layout result (layout.metrics.bind result.table?) 0
            plan.aggregations given := by
  refine ⟨?_, ?_, ?_⟩
  · intro table aggregation key raw value text h
    exact bucketKey_timestamp h
  · intro table column s m htype hs h
    exact metric_timestamp htype hs h
  · intro plan layout result took ids response h
    rcases Mapper.response_readFrom h with hnone | ⟨hplans, given, hgiven, hread⟩
    · exact Or.inl hnone
    · exact Or.inr ⟨hplans, given, hgiven, hread.imp Mapper.exact_implies_dated⟩

/-! A leap day late in the evening, one hour east, with a date before 1970 as its last one. -/

/-- Hours, and the greatest date of each. -/
def hoursPlan : Plan where
  index := "logs"
  filter := .constant true
  aggregations := [.bucket ⟨"hour", .date "ts" (.fixed 3600000), .keyAsc, none, 1⟩
    [.metric ⟨"last", .max, [⟨.value, "last", .greatest "seen"⟩]⟩]]
  hits := ⟨0, 0, [], .none, false⟩

/-- The layout of their table. -/
def hoursLayout : Layout := ⟨none, none, none, [⟨"agg0", "hour", ["hour"]⟩]⟩

/-- One hour with its greatest date. -/
def hoursResult : Result where
  tables := [⟨"agg0", [⟨"hour", .timestamp⟩, ⟨"doc_count", .number⟩, ⟨"last", .timestamp⟩],
    [[.string "2024-02-29T23:59:59.9999+01:00", Json.ofNat 1,
      .string "1969-12-31T23:59:59.9996Z"]]⟩]
  payloadBytes := 0
  engineNanos := none

/-- The response for that hour. -/
def hoursResponse : Response where
  took := 0
  total := ⟨0, false⟩
  hits := []
  aggregations := some [("hour", .buckets [
    (⟨Json.ofInt 1709244000000, some "2024-02-29T22:00:00.000Z", 1⟩,
      [("last", .single (Json.ofInt (-1)) (some "1969-12-31T23:59:59.999Z"))])])]

/-- The hour before midnight begins at ten in universal time, and the millisecond before 1970 is
the number minus one. -/
theorem Plan.response_dates_hours :
    hoursPlan.response hoursLayout hoursResult 0 (fun _ => "") = .ok hoursResponse ∧
      (∃ given, hoursResponse.aggregations = some (membersOf given) ∧
        ReadFromTop .dated hoursLayout hoursResult none 0 hoursPlan.aggregations given) ∧
      Denotes (Json.ofInt 1709244000000) (some "2024-02-29T22:00:00.000Z") ⟨1709244000, 0⟩ ∧
      Denotes (Json.ofInt (-1)) (some "1969-12-31T23:59:59.999Z") ⟨-1, 999000000⟩ := by
  obtain ⟨hkeys, hmetrics, hresponses⟩ := Plan.response_dates
  have hhour : Instant.text ⟨1709244000, 0⟩ = "2024-02-29T22:00:00.000Z" := by decide +kernel
  have hsecond : Instant.text ⟨-1, 999600000⟩ = "1969-12-31T23:59:59.999Z" := by decide +kernel
  have hkey : Cell.bucketKey "agg0" "hour" .timestamp (.date "ts" (.fixed 3600000))
      (.string "2024-02-29T23:59:59.9999+01:00") =
      .ok (Json.ofInt 1709244000000, some "2024-02-29T22:00:00.000Z") := by
    rw [← hhour]
    rfl
  have hlast : Cell.metric "agg0" ⟨"last", .timestamp⟩ (.string "1969-12-31T23:59:59.9996Z") =
      .ok ⟨Json.ofInt (-1), some "1969-12-31T23:59:59.999Z"⟩ := by
    rw [← hsecond]
    rfl
  have hresponse : hoursPlan.response hoursLayout hoursResult 0 (fun _ => "") =
      .ok hoursResponse := by
    rw [hoursResponse, ← hhour, ← hsecond]
    rfl
  refine ⟨hresponse, ?_, ?_, ?_⟩
  · rcases hresponses _ _ _ _ _ _ hresponse with ⟨hnone, _⟩ | ⟨_, given, hgiven, hread⟩
    · cases hnone
    · exact ⟨given, hgiven, hread⟩
  · obtain ⟨s, t, hraw, hread, hdenotes⟩ := hkeys _ _ _ _ _ _ hkey
    cases hraw
    obtain rfl : t = ⟨1709247599, 999900000⟩ :=
      Option.some.inj (hread.symm.trans (by decide))
    obtain ⟨u, hu, hdenotes⟩ := hdenotes ⟨by decide, by decide, by decide⟩
    obtain rfl : u = ⟨1709244000, 0⟩ := Option.some.inj (hu.symm.trans (by decide))
    exact hdenotes
  · obtain ⟨t, hread, hdenotes⟩ := hmetrics _ _ _ _ rfl (by decide) hlast
    obtain rfl : t = ⟨-1, 999600000⟩ := Option.some.inj (hread.symm.trans (by decide))
    exact hdenotes ⟨by decide, by decide, by decide⟩

end KustoSearch
