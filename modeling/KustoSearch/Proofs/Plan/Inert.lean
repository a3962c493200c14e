import KustoSearch.Batch
import KustoSearch.Proofs.Kql.Inert

/-! # Stages stay within their quotes

The names and values of a search are all over the stages of its statement. Outside quotes they do
not show: every stage is inert, and a pipeline has the pipes before its stages and no others.
-/

namespace KustoSearch

open Kql (Fragment Fragments Inert identifier inert_identifier inert_join)

/-! ## Keys and columns -/

theorem BucketKey.inert_dateSource (field : String) : Inert (dateSource field) :=
  (inert_identifier field).call (by decide)

theorem BucketKey.inert_numberSource (field : String) : Inert (numberSource field) :=
  (inert_identifier field).call (by decide)

theorem BucketKey.inert_guard (key : BucketKey) : Inert key.guard := by
  cases key with
  | date field interval => exact (inert_dateSource field).call (by decide)
  | number field width => exact (inert_numberSource field).call (by decide)
  | value field => exact (inert_identifier field).call (by decide)

theorem BucketKey.inert_expression (key : BucketKey) : Inert key.expression := by
  cases key with
  | date field interval =>
    have hsource : (interval.moment (.source (dateSource field))).sourceText? =
        some (dateSource field) := by
      cases interval <;> rfl
    refine Kql.Moment.inert_text fun s hs => ?_
    rw [hsource] at hs
    cases hs
    exact inert_dateSource field
  | number field width =>
    have hopening : Fragment "bin(" [] [')'] 0 0 := by decide
    have hcomma : Inert ", " := by decide
    exact (((hopening.inert (inert_numberSource field)).inert hcomma).inert
      (Kql.inert_plainText width)).close
  | value field => exact inert_identifier field

theorem inert_presence (field : String) : Inert (presence field) :=
  (inert_identifier field).call (by decide)

theorem inert_overPresent {function : String} (hopening : Fragment (function ++ "(") [] [')'] 0 0)
    (field : String) : Inert (overPresent function field) := by
  have hcomma : Inert ", " := by decide
  exact (((hopening.inert (inert_identifier field)).inert hcomma).inert
    (inert_presence field)).close

theorem Computation.inert_text (c : Computation) : Inert c.text := by
  cases c with
  | average field => exact inert_overPresent (by decide) field
  | sum field => exact inert_overPresent (by decide) field
  | least field => exact inert_overPresent (by decide) field
  | greatest field => exact inert_overPresent (by decide) field
  | distinct field => exact inert_overPresent (by decide) field
  | count field => exact (inert_presence field).call (by decide)
  | percentile field percent =>
    have hopening : Fragment "percentile(" [] [')'] 0 0 := by decide
    have hcomma : Inert ", " := by decide
    exact (((hopening.inert (inert_identifier field)).inert hcomma).inert
      (Kql.inert_plainText percent)).close

theorem OrderKey.inert_text (k : OrderKey) : Inert k.text := by
  have hdirection : Inert (if k.descending then " desc" else " asc") := by
    cases k.descending <;> decide
  have hnulls : Inert (if k.nullsLast then " nulls last" else "") := by
    cases k.nullsLast <;> decide
  exact ((inert_identifier k.column).append hdirection).append hnulls

/-- A pattern that is not quoted holds nothing that needs quotes. -/
theorem ColumnPattern.inert_text {name : String} {pattern : ColumnPattern}
    (h : Batch.columnPattern name = .ok pattern) : Inert pattern.text := by
  unfold Batch.columnPattern at h
  split_ifs at h with hstar hplain
  · cases h
    exact inert_identifier name
  · cases h
    refine Kql.inert_of_plain fun c hc => ?_
    exact Kql.isPlain_of_kind (fun c => c.isAlphanum || c = '_' || c = '*') (by decide)
      (List.all_eq_true.mp hplain c hc)

/-! ## Stages -/

theorem inert_levelVariable (number : Nat) : Inert (levelVariable number) :=
  Inert.append (by decide) (Kql.inert_naturalText number)

namespace Stage

/-- The column patterns of a stage. -/
def patterns : Stage → List ColumnPattern
  | .keepColumns patterns => patterns
  | .dropColumns patterns => patterns
  | _ => []

theorem inert_docCount : Inert docCount := inert_identifier _

theorem inert_metricText (c : MetricColumn) : Inert (metricText c) := by
  have hequals : Inert " = " := by decide
  exact ((inert_identifier c.column).append hequals).append c.computation.inert_text

/-- Texts of a list with commas between them. -/
theorem inert_list {α : Type} {text : α → String} {items : List α}
    (h : ∀ item ∈ items, Inert (text item)) : Inert (Text.join ", " (items.map text)) := by
  refine inert_join (by decide) fun part hpart => ?_
  obtain ⟨item, hitem, rfl⟩ := List.mem_map.mp hpart
  exact h item hitem

/-- The columns of a group, the number of its rows before them. -/
theorem inert_counted (columns : List MetricColumn) :
    Inert (Text.join ", " ((docCount ++ " = count()") :: columns.map metricText)) := by
  refine inert_join (by decide) fun part hpart => ?_
  rcases List.mem_cons.mp hpart with rfl | hpart
  · exact inert_docCount.append (by decide)
  · obtain ⟨c, _, rfl⟩ := List.mem_map.mp hpart
    exact inert_metricText c

theorem inert_keys (by_ : List (String × BucketKey)) :
    Inert (Text.join ", " (by_.map fun named =>
      identifier named.1 ++ " = " ++ named.2.expression)) := by
  have hequals : Inert " = " := by decide
  exact inert_list fun named _ =>
    ((inert_identifier named.1).append hequals).append named.2.inert_expression

/-- Where a column changes from one row to the next. -/
theorem inert_change (c : String) : Inert ("prev(" ++ identifier c ++ ") != " ++ identifier c) := by
  have hprev : Fragment "prev(" [] [')'] 0 0 := by decide
  have hdiffers : Fragment ") != " [')'] [] 0 0 := by decide
  exact ((hprev.inert (inert_identifier c)).append hdiffers).inert (inert_identifier c)

/-- No name or value in a stage divides the statement. -/
theorem inert_text {stage : Stage} (h : ∀ p ∈ stage.patterns, Inert p.text) :
    Inert stage.text := by
  cases stage with
  | hasKey key => exact Inert.append (by decide) key.inert_guard
  | group columns by_ =>
    have hsummarize : Inert "summarize " := by decide
    have hby : Inert " by " := by decide
    exact ((hsummarize.append (inert_counted columns)).append hby).append (inert_keys by_)
  | summarize columns =>
    exact Inert.append (by decide) (inert_list fun c _ => inert_metricText c)
  | within level columns =>
    -- the bracket that the first text opens is closed by the one behind the level
    have hopening : Fragment "join kind=leftsemi (" [] [')'] 0 0 := by decide
    have hclosing : Fragment ") on " [')'] [] 0 0 := by decide
    exact ((hopening.inert (inert_levelVariable level)).append hclosing).inert
      (inert_list fun c _ => inert_identifier c)
  | minDocCount n =>
    have hwhere : Inert "where " := by decide
    have hcomparison : Inert " >= " := by decide
    exact ((hwhere.append inert_docCount).append hcomparison).append (Kql.inert_naturalText n)
  | order keys => exact Inert.append (by decide) (inert_list fun k _ => k.inert_text)
  | take n => exact Inert.append (by decide) (Kql.inert_naturalText n)
  | rank restart =>
    have hopening : Fragment ("extend " ++ Counter.rank.column ++ " = row_number(1, ") [] [')']
        0 0 := by decide
    refine (hopening.inert (inert_join (by decide) fun part hpart => ?_)).close
    obtain ⟨c, _, rfl⟩ := List.mem_map.mp hpart
    exact inert_change c
  | rankAtMost n => exact Inert.append (by decide) (Kql.inert_naturalText n)
  | number => exact (by decide : Inert Stage.number.text)
  | numberAbove n => exact Inert.append (by decide) (Kql.inert_naturalText n)
  | drop counter =>
    have hcounter : Inert counter.column := by
      cases counter <;> decide
    exact Inert.append (by decide) hcounter
  | keepColumns patterns => exact Inert.append (by decide) (inert_list h)
  | dropColumns patterns => exact Inert.append (by decide) (inert_list h)
  | count => exact (by decide : Inert "count")

/-- A stage that does not choose columns. -/
theorem inert_of_patterns {stage : Stage} (h : stage.patterns = []) : Inert stage.text := by
  refine inert_text fun p hp => ?_
  rw [h] at hp
  cases hp

end Stage

theorem Source.inert_text (source : Source) : Inert source.text := by
  cases source with
  | rows => exact (by decide : Inert "_data")
  | level number => exact inert_levelVariable number

/-- A pipeline has one pipe before each stage. -/
theorem fragment_pipeline (source : Source) {stages : List Stage}
    (h : ∀ stage ∈ stages, Inert stage.text) :
    Fragment (pipeline source stages) [] [] 0 stages.length := by
  have hpipe : Fragment " | " [] [] 0 1 := by decide
  have hparts : ∀ part ∈ source.text :: stages.map Stage.text, Inert part := by
    intro part hpart
    rcases List.mem_cons.mp hpart with rfl | hpart
    · exact source.inert_text
    · obtain ⟨stage, hstage, rfl⟩ := List.mem_map.mp hpart
      exact h stage hstage
  have hjoin := (Fragments.of_inert hparts).join hpipe
  simpa [pipeline] using hjoin

end KustoSearch
