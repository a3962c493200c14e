import KustoSearch.Plan.Basic
import KustoSearch.Response.Basic

/-! # Gaps between buckets

A histogram that shows empty buckets gets the buckets between its first and its last one filled in.
Filling stops with no result when there would be more than `maxBuckets`.
-/

namespace KustoSearch.Gaps

open Calendar (Instant)

/-- The most buckets that a level may have once gaps are filled. -/
def maxBuckets : Nat := 65536

/-- A key with its text. -/
abbrev Key := Json × Option String

/-- The key of a date bucket. -/
def dateKey (t : Instant) : Key := (Json.ofInt t.millis, some t.text)

/-- The starts of buckets after `cursor` and before `stop`, put before `found` in reverse; at most
`room` of them. -/
def dateStarts? (interval : Interval) (stop : Instant) :
    (room : Nat) → (cursor : Instant) → (found : List Instant) → Option (List Instant)
  | room, cursor, found =>
    match interval.next? cursor with
    | none => none
    | some next =>
      if next.before stop then
        match room with
        | 0 => none
        | room + 1 => dateStarts? interval stop room next (next :: found)
      else some found.reverse

/-- The number of an integer key. -/
def integerKey? : Json → Option Int
  | .number n => n.toInt64?
  | _ => none

/-- The keys between two date keys. Keys that are no dates have nothing between them. -/
def dateGap? (interval : Interval) (prev next : Json) (limit : Nat) : Option (List Key) :=
  match integerKey? prev, integerKey? next with
  | some prev, some next =>
    match Instant.ofMillis? prev, Instant.ofMillis? next with
    | some cursor, some stop =>
      (dateStarts? interval stop limit cursor []).map fun starts => starts.map dateKey
    | _, _ => some []
  | _, _ => some []

/-- The whole number of intervals from one key to the next. -/
def steps? (interval prev next : Binary64) : Option Int :=
  (Binary64.ofFloat? ((next.toFloat - prev.toFloat) / interval.toFloat)).map Binary64.rounded

/-- The key some intervals after another. -/
def numberKey? (interval prev : Binary64) (step : Nat) : Option Key :=
  (Binary64.ofFloat? (prev.toFloat + Float.ofScientific step false 0 * interval.toFloat)).map
    fun x => (.number (.double x), none)

/-- The keys between two number keys. Keys that are no numbers have nothing between them. -/
def numberGap? (interval : Binary64) (prev next : Json) (limit : Nat) : Option (List Key) :=
  match prev, next with
  | .number prev, .number next =>
    let prev := prev.toBinary64
    match steps? interval prev next.toBinary64 with
    | none => none
    | some steps =>
      if limit < steps - 1 then none
      else (List.range (steps - 1).toNat).mapM fun i => numberKey? interval prev (i + 1)
  | _, _ => some []

/-- The keys between two keys of a level, or nothing when there are more than `limit`. -/
def between? (key : BucketKey) (prev next : Json) (limit : Nat) : Option (List Key) :=
  match key with
  | .date _ interval => dateGap? interval prev next limit
  | .number _ width => numberGap? width prev next limit
  | .value _ => some []

/-- What has been filled so far: the buckets, last first, and their number. -/
structure Filled where
  buckets : List Bucket
  size : Nat

/-- Adds empty buckets for keys, while there is room for one more bucket after them. -/
def addEmpty? (empty : List (String × AggregationResult)) :
    Filled → List Key → Option Filled
  | filled, [] => some filled
  | filled, (key, text) :: keys =>
    if filled.size + 1 < maxBuckets then
      addEmpty? empty ⟨(⟨key, text, 0⟩, empty) :: filled.buckets, filled.size + 1⟩ keys
    else none

/-- Adds a bucket, after the empty buckets between it and the one before. -/
def add? (key : BucketKey) (empty : List (String × AggregationResult)) (filled : Filled)
    (bucket : Bucket) : Option Filled := do
  let filled ← match filled.buckets with
    | [] => some filled
    | prev :: _ =>
      (between? key prev.1.key bucket.1.key maxBuckets).bind (addEmpty? empty filled)
  some ⟨bucket :: filled.buckets, filled.size + 1⟩

/-- The buckets of a level with the gaps between them filled. -/
def fill? (key : BucketKey) (empty : List (String × AggregationResult))
    (buckets : List Bucket) : Option (List Bucket) :=
  (buckets.foldlM (add? key empty) ⟨[], 0⟩).map fun filled => filled.buckets.reverse

/-- Whether a key is a date of the calendar. -/
def isDate (key : Json) : Bool := ((integerKey? key).bind Instant.ofMillis?).isSome

/-- Whether two dates of a level stand side by side whose gap is walked in steps that no duration
is long enough for: those of the least number of milliseconds. -/
def overlong (key : BucketKey) (buckets : List Bucket) : Bool :=
  match key with
  | .date _ (.fixed ms) =>
    ms = Int64.minValue &&
      (buckets.zip buckets.tail).any fun (prev, next) => isDate prev.1.key && isDate next.1.key
  | _ => false

/-- The failure of a level that cannot be filled. -/
def tooMany (plan : BucketPlan) : Failure :=
  .unsupported plan.key.kindName
    ("[" ++ plan.name ++ "] would produce more than " ++ Text.naturalText maxBuckets ++
      " buckets with min_doc_count 0")

end KustoSearch.Gaps
