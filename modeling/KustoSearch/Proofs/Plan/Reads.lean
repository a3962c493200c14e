import KustoSearch.Proofs.Kql.Clauses
import KustoSearch.Proofs.Plan.Outline

/-! # What the stages of a statement read

Names and values of a search are quoted or quiet, so that they are no variables, and column
patterns hold a star. What is left are the levels that a stage looks rows up in.
-/

namespace KustoSearch

open Kql (Quiet Divides Leads bareWords variablesIn isVariable identifier quiet_identifier)

/-! ## Keys and columns -/

theorem BucketKey.quiet_dateSource (field : String) : Quiet (dateSource field) :=
  (quiet_identifier field).call (by decide)

theorem BucketKey.quiet_numberSource (field : String) : Quiet (numberSource field) :=
  (quiet_identifier field).call (by decide)

theorem BucketKey.quiet_guard (key : BucketKey) : Quiet key.guard := by
  cases key with
  | date field interval => exact (quiet_dateSource field).call (by decide)
  | number field width => exact (quiet_numberSource field).call (by decide)
  | value field => exact (quiet_identifier field).call (by decide)

theorem BucketKey.quiet_expression (key : BucketKey) : Quiet key.expression := by
  cases key with
  | date field interval =>
    have hsource : (interval.moment (.source (dateSource field))).sourceText? =
        some (dateSource field) := by
      cases interval <;> rfl
    refine Kql.Moment.quiet_text fun s hs => ?_
    rw [hsource] at hs
    cases hs
    exact quiet_dateSource field
  | number field width =>
    have hopening : Quiet "bin(" := by decide
    have hcomma : Quiet ", " := by decide
    exact (((hopening.append (quiet_numberSource field)).append hcomma).append
      (Kql.quiet_plainText width)).append (by decide)
  | value field => exact quiet_identifier field

theorem quiet_presence (field : String) : Quiet (presence field) :=
  (quiet_identifier field).call (by decide)

theorem quiet_overPresent {function : String} (hopening : Quiet (function ++ "("))
    (field : String) : Quiet (overPresent function field) := by
  have hcomma : Quiet ", " := by decide
  exact (((hopening.append (quiet_identifier field)).append hcomma).append
    (quiet_presence field)).append (by decide)

theorem Computation.quiet_text (c : Computation) : Quiet c.text := by
  cases c with
  | average field => exact quiet_overPresent (by decide) field
  | sum field => exact quiet_overPresent (by decide) field
  | least field => exact quiet_overPresent (by decide) field
  | greatest field => exact quiet_overPresent (by decide) field
  | distinct field => exact quiet_overPresent (by decide) field
  | count field => exact (quiet_presence field).call (by decide)
  | percentile field percent =>
    have hopening : Quiet "percentile(" := by decide
    have hcomma : Quiet ", " := by decide
    exact (((hopening.append (quiet_identifier field)).append hcomma).append
      (Kql.quiet_plainText percent)).append (by decide)

theorem OrderKey.quiet_text (k : OrderKey) : Quiet k.text := by
  have hdirection : Quiet (if k.descending then " desc" else " asc") := by
    cases k.descending <;> decide
  have hnulls : Quiet (if k.nullsLast then " nulls last" else "") := by
    cases k.nullsLast <;> decide
  exact ((quiet_identifier k.column).append hdirection).append hnulls

/-! ## Names with a number -/

theorem bareWords_numbered {lead : String} (hlead : lead.toList.all Kql.isWordChar = true)
    (n : Nat) : bareWords (lead ++ Text.naturalText n) = [lead ++ Text.naturalText n] := by
  have htext : (lead ++ Text.naturalText n).toList = lead.toList ++ Text.decimal n := by
    rw [String.toList_append, Text.toList_naturalText]
  apply Kql.bareWords_of_word
  · rw [htext]
    exact List.append_ne_nil_of_right_ne_nil _ (Text.decimal_ne_nil n)
  · rw [htext]
    intro c hc
    rcases List.mem_append.mp hc with hc | hc
    · exact List.all_eq_true.mp hlead c hc
    · exact Kql.isWordChar_of_isDigit (Text.isDigit_of_mem_decimal c hc)

theorem numbered_injective (lead : String) :
    Function.Injective fun n => lead ++ Text.naturalText n := by
  intro m n h
  have htext := congrArg String.toList h
  simp only [String.toList_append, Text.toList_naturalText, List.append_cancel_left_eq] at htext
  exact Text.decimal_injective htext

theorem levelVariable_injective : Function.Injective levelVariable := numbered_injective "_agg"

theorem levelVariable_ne_data (n : Nat) : levelVariable n ≠ "_data" := by
  intro h
  have htext := congrArg String.toList h
  simp [levelVariable] at htext

theorem isVariable_levelVariable (n : Nat) : isVariable (levelVariable n) = true := by
  have htext : (levelVariable n).toList = '_' :: 'a' :: 'g' :: 'g' :: Text.decimal n := by
    simp [levelVariable]
  rw [isVariable, htext]
  simp [Text.all_isDigit_decimal]

theorem variablesIn_levelVariable (n : Nat) :
    variablesIn (levelVariable n) = [levelVariable n] := by
  have hwords : bareWords (levelVariable n) = [levelVariable n] :=
    bareWords_numbered (by decide) n
  rw [variablesIn, hwords, List.filter_cons_of_pos (isVariable_levelVariable n), List.filter_nil]

/-! ## Stages -/

/-- A pattern of columns holds a star, so it is no variable. -/
theorem ColumnPattern.variablesIn_text {name : String} {pattern : ColumnPattern}
    (h : Batch.columnPattern name = .ok pattern) : variablesIn pattern.text = [] := by
  unfold Batch.columnPattern at h
  split_ifs at h with hstar hplain
  · cases h
    exact (quiet_identifier name).variablesIn_eq
  · -- the name goes into the statement as it is
    cases h
    have hmem : '*' ∈ name.toList := by
      simpa [Text.containsAny] using hstar
    have hword : bareWords name = [name] :=
      Kql.bareWords_of_word (List.ne_nil_of_mem hmem) (List.all_eq_true.mp hplain)
    show variablesIn name = []
    rw [variablesIn, hword, List.filter_cons_of_neg (by simp [Kql.isVariable_of_star hmem]),
      List.filter_nil]

namespace Stage

/-- The variables that a stage reads: rows are looked up in a level of buckets only. -/
def reads : Stage → List String
  | .within level _ => [levelVariable level]
  | _ => []

/-- Whether the columns that a stage chooses are chosen by names that may be patterns. -/
def Chosen (stage : Stage) : Prop :=
  ∀ p ∈ stage.patterns, ∃ name, Batch.columnPattern name = .ok p

theorem chosen_of_patterns {stage : Stage} (h : stage.patterns = []) : stage.Chosen := by
  intro p hp
  rw [h] at hp
  cases hp

theorem quiet_docCount : Quiet docCount := quiet_identifier _

theorem quiet_metricText (c : MetricColumn) : Quiet (metricText c) := by
  have hequals : Quiet " = " := by decide
  exact ((quiet_identifier c.column).append hequals).append c.computation.quiet_text

/-- The columns of a group, the number of its rows before them. -/
theorem quiet_counted (columns : List MetricColumn) :
    Quiet (Text.join ", " ((docCount ++ " = count()") :: columns.map metricText)) := by
  refine .join (by decide) fun part hpart => ?_
  rcases List.mem_cons.mp hpart with rfl | hpart
  · exact quiet_docCount.append (by decide)
  · obtain ⟨c, _, rfl⟩ := List.mem_map.mp hpart
    exact quiet_metricText c

theorem quiet_keys (by_ : List (String × BucketKey)) :
    Quiet (Text.join ", " (by_.map fun named =>
      identifier named.1 ++ " = " ++ named.2.expression)) := by
  have hequals : Quiet " = " := by decide
  exact .list (by decide) fun named _ =>
    ((quiet_identifier named.1).append hequals).append named.2.quiet_expression

/-- Where a column changes from one row to the next. -/
theorem quiet_change (c : String) : Quiet ("prev(" ++ identifier c ++ ") != " ++ identifier c) := by
  have hprev : Quiet "prev(" := by decide
  have hdiffers : Quiet ") != " := by decide
  exact ((hprev.append (quiet_identifier c)).append hdiffers).append (quiet_identifier c)

/-- A stage that looks nothing up and chooses no columns. -/
theorem quiet_text {stage : Stage} (hreads : stage.reads = []) (hpatterns : stage.patterns = []) :
    Quiet stage.text := by
  have hcomma : Quiet ", " := by decide
  cases stage with
  | hasKey key => exact Quiet.append (by decide) key.quiet_guard
  | group columns by_ =>
    have hsummarize : Quiet "summarize " := by decide
    have hby : Quiet " by " := by decide
    exact ((hsummarize.append (quiet_counted columns)).append hby).append (quiet_keys by_)
  | summarize columns =>
    exact Quiet.append (by decide) (.list hcomma fun c _ => quiet_metricText c)
  | within level columns => cases hreads
  | minDocCount n =>
    have hwhere : Quiet "where " := by decide
    have hcomparison : Quiet " >= " := by decide
    exact ((hwhere.append quiet_docCount).append hcomparison).append (Kql.quiet_naturalText n)
  | order keys => exact Quiet.append (by decide) (.list hcomma fun k _ => k.quiet_text)
  | take n => exact Quiet.append (by decide) (Kql.quiet_naturalText n)
  | rank restart =>
    have hopening : Quiet ("extend " ++ Counter.rank.column ++ " = row_number(1, ") := by decide
    exact (hopening.append (.list (by decide) fun c _ => quiet_change c)).append (by decide)
  | rankAtMost n => exact Quiet.append (by decide) (Kql.quiet_naturalText n)
  | number => exact (by decide : Quiet Stage.number.text)
  | numberAbove n => exact Quiet.append (by decide) (Kql.quiet_naturalText n)
  | drop counter =>
    have hcounter : Quiet counter.column := by
      cases counter <;> decide
    exact Quiet.append (by decide) hcounter
  | keepColumns patterns =>
    -- without patterns only the operator is left
    cases hpatterns
    exact (by decide : Quiet (Stage.keepColumns []).text)
  | dropColumns patterns =>
    cases hpatterns
    exact (by decide : Quiet (Stage.dropColumns []).text)
  | count => exact (by decide : Quiet "count")

/-- The columns that a stage chooses are no variables. -/
theorem variablesIn_patterns {lead : String} {patterns : List ColumnPattern}
    (hlead : Leads lead) (hnone : variablesIn lead = [])
    (h : ∀ p ∈ patterns, ∃ name, Batch.columnPattern name = .ok p) :
    variablesIn (lead ++ Text.join ", " (patterns.map ColumnPattern.text)) = [] := by
  have hclosed : ∀ part ∈ patterns.map ColumnPattern.text,
      Kql.Quotation.outside.after part.toList = .outside := by
    intro part hpart
    obtain ⟨p, hp, rfl⟩ := List.mem_map.mp hpart
    obtain ⟨name, hname⟩ := h p hp
    exact (ColumnPattern.inert_text hname).closed
  rw [Kql.variablesIn_lead hlead, hnone, Kql.variablesIn_join (by decide) (by decide) hclosed,
    List.nil_append, List.flatMap_eq_nil_iff]
  intro part hpart
  obtain ⟨p, hp, rfl⟩ := List.mem_map.mp hpart
  obtain ⟨name, hname⟩ := h p hp
  exact ColumnPattern.variablesIn_text hname

theorem inert_of_chosen {stage : Stage} (h : stage.Chosen) : Kql.Inert stage.text := by
  refine inert_text fun p hp => ?_
  obtain ⟨name, hname⟩ := h p hp
  exact ColumnPattern.inert_text hname

/-- A look-up in a level reads the level. -/
theorem variablesIn_within (level : Nat) (columns : List String) :
    variablesIn (within level columns).text = [levelVariable level] := by
  have hlead : Kql.Quotation.outside.after
      ("join kind=leftsemi (" ++ levelVariable level).toList = .outside :=
    Kql.after_append (by decide) (inert_levelVariable level).closed
  have hcolumns : Quiet (Text.join ", " (columns.map identifier)) :=
    .list (by decide) fun c _ => quiet_identifier c
  have hjoin : Leads "join kind=leftsemi (" ∧ variablesIn "join kind=leftsemi (" = [] := by
    decide
  have hon : Divides ") on " ∧ variablesIn ") on " = [] := by decide
  show variablesIn ("join kind=leftsemi (" ++ levelVariable level ++ ") on " ++
    Text.join ", " (columns.map identifier)) = _
  rw [Kql.variablesIn_divided hlead hon.1, Kql.variablesIn_lead hjoin.1,
    variablesIn_levelVariable, hcolumns.variablesIn_eq, hjoin.2, hon.2, List.nil_append,
    List.append_nil, List.append_nil]

/-- The variables in the text of a stage are those that it reads. -/
theorem variablesIn_text {stage : Stage} (h : stage.Chosen) :
    variablesIn stage.text = stage.reads := by
  cases stage with
  | within level columns => exact variablesIn_within level columns
  | keepColumns patterns => exact variablesIn_patterns (by decide) (by decide) h
  | dropColumns patterns => exact variablesIn_patterns (by decide) (by decide) h
  | _ => exact (quiet_text rfl rfl).variablesIn_eq

end Stage

end KustoSearch
