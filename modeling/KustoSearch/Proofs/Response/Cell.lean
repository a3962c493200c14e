import KustoSearch.Proofs.Interval
import KustoSearch.Proofs.Text.Numeral
import KustoSearch.Response.Cell
import Mathlib.Tactic.SplitIfs

/-! # Cells that are as their columns ask

What counts, keys and values of metrics may be in columns of each type, and that such cells are
read.
-/

namespace KustoSearch

/-- Whether the intervals of a key, where it has some, are at least a millisecond long. -/
def BucketKey.HasLength : BucketKey → Prop
  | .date _ interval => interval.Proper
  | _ => True

namespace Cell

/-- Whether a cell is a number or the text of one. -/
def IsNumber : Json → Prop
  | .number _ => True
  | .string s => ∃ x, Decimal.finite? s.toList = some x
  | _ => False

/-- Whether a cell is the text of a date. -/
def IsDate : Json → Prop
  | .string s => ∃ t, Calendar.instant? s = some t
  | _ => False

/-- Whether a cell is a number of documents: a whole number, or the digits of one. -/
def IsCount : Json → Prop
  | .number (.natural _) => True
  | .number (.negative _) => False
  | .number (.double x) => x.isAtLeastZero = true ∧ x.isWhole = true
  | .string s => ∃ n, n < 2 ^ 64 ∧ s = Text.naturalText n
  | _ => False

/-- Whether a cell is a bucket key in a column of a type. -/
def IsKey (type : ColumnType) (value : Json) : Prop :=
  match type with
  | .timestamp => IsDate value
  | .number => IsNumber value
  | _ => value ≠ .null

/-- Whether a cell is the value of a metric in a column of a type: a date in a column of dates, or
else a number, or nothing. -/
def IsMetric (type : ColumnType) (value : Json) : Prop :=
  value = .null ∨ value = .string "" ∨
    match type with
    | .timestamp => IsDate value
    | _ => IsNumber value ∨ ∃ s ∈ noNumbers, value = .string s

theorem uint64?_naturalText {n : Nat} (h : n < 2 ^ 64) :
    Text.uint64? (Text.naturalText n).toList = some n := by
  have hsign : ∀ cs, Text.decimal n ≠ '+' :: cs := by
    intro cs hcs
    have hdigit := Text.isDigit_of_mem_decimal '+' (n := n) (by rw [hcs]; simp)
    exact absurd hdigit (by decide)
  have hread : Text.unsigned? (Text.decimal n) = some n := by
    unfold Text.unsigned?
    split
    · rename_i cs hcs
      exact absurd hcs (hsign cs)
    · exact Text.natural?_decimal n
  rw [Text.toList_naturalText, Text.uint64?, hread]
  exact Option.filter_eq_some_iff.mpr ⟨rfl, by simpa using h⟩

theorem count?_of_isCount {value : Json} (h : IsCount value) : ∃ n, count? value = some n := by
  unfold IsCount at h
  split at h
  · exact ⟨_, rfl⟩
  · exact h.elim
  · rename_i x
    exact ⟨min x.wholePart (2 ^ 64 - 1), by simp [count?, h.1, h.2]⟩
  · obtain ⟨n, hn, rfl⟩ := h
    exact ⟨n, uint64?_naturalText hn⟩
  · exact h.elim

/-- A key as its column asks is read, where the intervals of dates have a length. -/
theorem bucketKey_of_isKey {table aggregation : String} {type : ColumnType} {key : BucketKey}
    {raw : Json} (hlength : key.HasLength) (h : IsKey type raw) :
    ∃ shown, bucketKey table aggregation type key raw = .ok shown := by
  have hnull : raw.isNull = false := by
    cases raw <;> cases type <;> simp_all [IsKey, IsDate, IsNumber, Json.isNull]
  unfold bucketKey
  rw [if_neg (by simp [hnull])]
  cases type with
  | timestamp =>
    cases raw with
    | string s =>
      obtain ⟨t, ht⟩ := h
      cases key with
      | date field interval =>
        have hstart := Interval.start?_eq_start (Interval.Proper.ne_fixed_zero hlength) t
        simp [Json.string?, ht, hstart]
      | _ => simp [Json.string?, ht]
    | _ => exact h.elim
  | number =>
    cases raw with
    | number n => exact ⟨_, rfl⟩
    | string s =>
      obtain ⟨x, hx⟩ := h
      simp [hx]
    | _ => exact h.elim
  | _ => exact ⟨_, rfl⟩

/-- A value that is no date is read where it is a number, or nothing. -/
theorem numeric_eq_ok (table column : String) {value : Json}
    (h : value = .null ∨ IsNumber value ∨ ∃ s ∈ noNumbers, value = .string s) :
    ∃ shown, numeric table column value = .ok shown := by
  rcases h with rfl | h | ⟨s, hs, rfl⟩
  · exact ⟨_, rfl⟩
  · cases value with
    | number n => exact ⟨_, rfl⟩
    | string s =>
      obtain ⟨x, hx⟩ := h
      by_cases hs : s ∈ noNumbers
      · exact ⟨.null, by simp [numeric, hs]⟩
      · exact ⟨.number (.double x), by simp [numeric, hs, hx]⟩
    | _ => exact h.elim
  · exact ⟨.null, by simp [numeric, hs]⟩

/-- The value of a metric as its column asks is read. -/
theorem metric_of_isMetric {table : String} {column : Column} {value : Json}
    (h : IsMetric column.type value) : ∃ shown, metric table column value = .ok shown := by
  have hnumber : (value = .null ∨ IsNumber value ∨ ∃ s ∈ noNumbers, value = .string s) →
      ∃ shown : Metric, (do
        let v ← numeric table column.name value
        .ok ⟨v, none⟩ : Except Stop Metric) = .ok shown := by
    intro hvalue
    obtain ⟨v, hv⟩ := numeric_eq_ok table column.name hvalue
    exact ⟨⟨v, none⟩, by rw [hv]; rfl⟩
  have hempty : ∃ s ∈ noNumbers, Json.string "" = .string s := ⟨"", by simp [noNumbers], rfl⟩
  unfold metric
  obtain ⟨name, type⟩ := column
  rcases h with rfl | rfl | h
  · cases type <;> exact hnumber (Or.inl rfl)
  · cases type <;> exact hnumber (Or.inr (Or.inr hempty))
  · cases type with
    | timestamp =>
      cases value with
      | string s =>
        obtain ⟨t, ht⟩ := h
        by_cases hs : s.isEmpty = true
        · obtain rfl : s = "" := String.isEmpty_iff.mp hs
          exact hnumber (Or.inr (Or.inr hempty))
        · exact ⟨⟨Json.ofInt t.millis, some t.text⟩, by simp [hs, ht]⟩
      | _ => exact h.elim
    | _ => exact hnumber (Or.inr h)

end Cell

end KustoSearch
