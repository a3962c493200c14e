import KustoSearch.Calendar.Reader
import KustoSearch.Decimal.Reader
import KustoSearch.Json.Printer
import KustoSearch.Json.Reader
import KustoSearch.Plan.Basic
import KustoSearch.Response.Basic
import KustoSearch.Table
import KustoSearch.Text.Described

/-! # Cells

What single cells of result tables mean: counts, metric values, bucket keys and the columns of a
hit. A cell that means nothing in its place is a mismatch.
-/

namespace KustoSearch

/-- A mismatch between tables and statement. -/
def mismatch (detail : String) : Stop := .failure (.resultShapeMismatch detail)

namespace Cell

open Calendar (Instant)

/-- The count that a cell holds: a natural number of any kind or its digits. -/
def count? : Json → Option Nat
  | .number (.natural n) => some n.toNat
  | .number (.negative _) => none
  | .number (.double x) =>
    if x.isAtLeastZero && x.isWhole then some (min x.wholePart (Nat.pow 2 64 - 1)) else none
  | .string s => Text.uint64? s.toList
  | _ => none

/-- The value of a column of a hit. Dynamic values come as the text of a document. -/
def sourceValue (type : ColumnType) (value : Json) : Json :=
  match type, value with
  | .dynamic, .string s => (Json.read? s.toList).getD value
  | _, value => value

/-- A value of a metric, with its text where it is a date. -/
structure Metric where
  value : Json
  asString : Option String

/-- No value. -/
def Metric.none : Metric := ⟨.null, .none⟩

/-- Texts that stand for no number. -/
def noNumbers : List String := ["NaN", "Infinity", "-Infinity", "+Infinity", ""]

/-- The failure of a metric cell. -/
def notA (what column table shown : String) : Stop :=
  mismatch ("column " ++ column ++ " of table " ++ table ++ " holds " ++ what ++ " value " ++
    shown)

/-- A number, its text, or null. -/
def numeric (table column : String) (value : Json) : Except Stop Json :=
  match value with
  | .null => .ok .null
  | .number n => .ok (.number n)
  | .string s =>
    if noNumbers.contains s then .ok .null
    else
      match Decimal.finite? s.toList with
      | some x => .ok (.number (.double x))
      | none => .error (notA "non-numeric" column table (Text.described s))
  | other => .error (notA "non-numeric" column table other.text)

/-- The value of a metric cell; dates become milliseconds. -/
def metric (table : String) (column : Column) (value : Json) : Except Stop Metric :=
  let number : Except Stop Metric := do
    let v ← numeric table column.name value
    .ok ⟨v, none⟩
  match column.type, value with
  | .timestamp, .string s =>
    if s.isEmpty then number
    else
      match Calendar.instant? s with
      | some t => .ok ⟨Json.ofInt t.millis, some t.text⟩
      | none => .error (notA "non-timestamp" column.name table (Text.described s))
  | _, _ => number

/-- The failure of a key cell. -/
def keyIsNo (what aggregation : String) (raw : Json) : Stop :=
  mismatch ("key " ++ raw.text ++ " for aggregation [" ++ aggregation ++ "] is not a " ++ what)

/-- The key of a bucket, with its text where it is a date. Dates are floored once more. -/
def bucketKey (table aggregation : String) (type : ColumnType) (key : BucketKey) (raw : Json) :
    Except Stop (Json × Option String) :=
  if raw.isNull then
    .error (mismatch ("null key for aggregation [" ++ aggregation ++ "] in table " ++ table))
  else
    match type with
    | .timestamp =>
      match raw.string?.bind Calendar.instant? with
      | none => .error (keyIsNo "timestamp" aggregation raw)
      | some t =>
        let shown? := match key with
          | .date _ interval => interval.start? t
          | _ => some t
        match shown? with
        | some t => .ok (Json.ofInt t.millis, some t.text)
        | none => .error (.fault .remainderByZero)
    | .number =>
      match raw with
      | .number n => .ok (.number n, none)
      | .string s =>
        match Decimal.finite? s.toList with
        | some x => .ok (.number (.double x), none)
        | none => .error (keyIsNo "number" aggregation raw)
      | _ => .error (keyIsNo "number" aggregation raw)
    | _ => .ok (raw, none)

end Cell

end KustoSearch
