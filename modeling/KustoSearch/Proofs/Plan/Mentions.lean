import KustoSearch.Proofs.Kql.Mentions
import KustoSearch.Proofs.Plan.Scope

/-! # What the stages of a statement mention

The names of fields, aggregations and columns stand in brackets all over the stages of a statement,
each time they are used. Timespans are the widths of fixed date intervals, one for each key that
rows are grouped by. Main results: a statement has a line for each clause and the line breaks of its
names (`Search.length_lines_text`), and it has the timespans of its condition and of its levels of
buckets (`Search.spansIn_text`).
-/

namespace KustoSearch

open Kql (AllMention Divides Leads Mentions Silent breaks identifier mentions_identifier spansIn)

/-! ## Keys and columns -/

/-- The lengths of the timespans of an interval. -/
def Interval.spans : Interval → List Nat
  | .fixed millis => [millis.toInt.natAbs]
  | .month => []
  | .quarter => []
  | .year => []

namespace BucketKey

/-- The field of a key. -/
def field : BucketKey → String
  | .date field _ => field
  | .number field _ => field
  | .value field => field

/-- The names in the expression of a key; that of a quarter has its date twice. -/
def names : BucketKey → List String
  | .date field .quarter => [field, field]
  | key => [key.field]

/-- The lengths of the timespans of a key. -/
def spans : BucketKey → List Nat
  | .date _ interval => interval.spans
  | .number _ _ => []
  | .value _ => []

theorem mentions_dateSource (field : String) : Mentions (dateSource field) [field] [] :=
  (mentions_identifier field).call (by decide)

theorem mentions_numberSource (field : String) : Mentions (numberSource field) [field] [] :=
  (mentions_identifier field).call (by decide)

theorem mentions_guard (key : BucketKey) : Mentions key.guard [key.field] [] := by
  cases key with
  | date field interval => exact (mentions_dateSource field).call (by decide)
  | number field width => exact (mentions_numberSource field).call (by decide)
  | value field => exact (mentions_identifier field).call (by decide)

theorem mentions_expression (key : BucketKey) : Mentions key.expression key.names key.spans := by
  cases key with
  | date field interval =>
    have hsource : ∀ s ∈ (interval.moment (.source (dateSource field))).sourceText?,
        Mentions s [field] [] := by
      have htext : (interval.moment (.source (dateSource field))).sourceText? =
          some (dateSource field) := by
        cases interval <;> rfl
      intro s hs
      rw [htext] at hs
      cases hs
      exact mentions_dateSource field
    have hmoment := Kql.Moment.mentions_text hsource
    cases interval with
    | fixed millis =>
      have hspan : (Interval.moment (.fixed millis) (.source (dateSource field))).spans =
          [millis.toInt.natAbs] :=
        congrArg (fun n : Int => [n.natAbs]) (Kql.Span.millis_ofMillis millis.toInt)
      rw [hspan] at hmoment
      exact hmoment
    | month => exact hmoment
    | quarter => exact hmoment
    | year => exact hmoment
  | number field width =>
    have hfield := (mentions_numberSource field).lead (d := "bin(") (by decide)
    exact (hfield.divide (d := ", ") (by decide) (Kql.silent_plainText width)).close
  | value field => exact mentions_identifier field

end BucketKey

theorem mentions_presence (field : String) : Mentions (presence field) [field] [] :=
  (mentions_identifier field).call (by decide)

theorem mentions_overPresent {function : String}
    (hopening : Leads (function ++ "(") ∧ Silent (function ++ "(")) (field : String) :
    Mentions (overPresent function field) [field, field] [] := by
  have hfield := (mentions_identifier field).lead hopening
  exact (hfield.divide (d := ", ") (by decide) (mentions_presence field)).close

namespace Computation

/-- The names in a computation; the condition that the field is there has it once more. -/
def names : Computation → List String
  | .average field => [field, field]
  | .sum field => [field, field]
  | .least field => [field, field]
  | .greatest field => [field, field]
  | .distinct field => [field, field]
  | .count field => [field]
  | .percentile field _ => [field]

theorem mentions_text (c : Computation) : Mentions c.text c.names [] := by
  cases c with
  | average field => exact mentions_overPresent (by decide) field
  | sum field => exact mentions_overPresent (by decide) field
  | least field => exact mentions_overPresent (by decide) field
  | greatest field => exact mentions_overPresent (by decide) field
  | distinct field => exact mentions_overPresent (by decide) field
  | count field => exact (mentions_presence field).call (by decide)
  | percentile field percent =>
    have hfield := (mentions_identifier field).lead (d := "percentile(") (by decide)
    exact (hfield.divide (d := ", ") (by decide) (Kql.silent_plainText percent)).close

end Computation

theorem OrderKey.mentions_text (k : OrderKey) : Mentions k.text [k.column] [] := by
  have hdirection : Kql.Trails (if k.descending then " desc" else " asc") ∧
      Silent (if k.descending then " desc" else " asc") := by
    cases k.descending <;> decide
  have hordered := (mentions_identifier k.column).trail hdirection
  rw [text]
  cases k.nullsLast with
  | true => exact hordered.trail (by decide)
  | false =>
    rw [if_neg Bool.false_ne_true, String.append_empty]
    exact hordered

namespace ColumnPattern

/-- The name of a column; a pattern stands without brackets. -/
def names : ColumnPattern → List String
  | .column name => [name]
  | .pattern _ => []

/-- A pattern holds word characters and a star, so neither a line break nor a timespan. -/
theorem mentions_text {name : String} {pattern : ColumnPattern}
    (h : Batch.columnPattern name = .ok pattern) : Mentions pattern.text pattern.names [] := by
  unfold Batch.columnPattern at h
  split_ifs at h with hstar hplain
  · cases h
    exact mentions_identifier name
  · cases h
    have hmem : '*' ∈ name.toList := by
      simpa [Text.containsAny] using hstar
    have hwordChars : ∀ c ∈ name.toList, Kql.isWordChar c = true := List.all_eq_true.mp hplain
    have hword : Kql.bareWords name = [name] :=
      Kql.bareWords_of_word (List.ne_nil_of_mem hmem) hwordChars
    constructor
    · exact (Kql.inert_of_plain fun c hc =>
        Kql.isPlain_of_kind Kql.isWordChar (by decide) (hwordChars c hc)).closed
    · refine Kql.breaks_eq_zero.mpr fun c hc => ?_
      have hne (d : Char) (hd : Kql.isWordChar d = false) : c ≠ d := by
        rintro rfl
        rw [hwordChars c hc] at hd
        cases hd
      simp [Kql.isBreak, hne '\n' (by decide), hne '\r' (by decide)]
    · show spansIn name = []
      rw [spansIn, hword, List.filterMap_cons_none (Kql.spanOf?_of_star hmem)]
      rfl

end ColumnPattern

/-! ## Stages -/

/-- A name with a number behind it is one word, which does not begin with a digit. -/
theorem silent_numbered {lead : String} (hsilent : Silent lead)
    (hlead : lead.toList.all Kql.isWordChar = true)
    (hfirst : lead.toList.head?.all Text.isDigit = false) (n : Nat) :
    Silent (lead ++ Text.naturalText n) := by
  have hspan : Kql.spanOf? (lead ++ Text.naturalText n) = none := by
    obtain ⟨c, cs, hcs⟩ : ∃ c cs, lead.toList = c :: cs := by
      cases hnil : lead.toList with
      | nil => exact absurd hfirst (by simp [hnil])
      | cons c cs => exact ⟨c, cs, rfl⟩
    have hc : Text.isDigit c = false := by
      simpa [hcs] using hfirst
    have htake : (lead ++ Text.naturalText n).toList.takeWhile Text.isDigit = [] := by
      rw [String.toList_append, hcs, List.cons_append, List.takeWhile_cons, hc]
      rfl
    rw [Kql.spanOf?, htake]
    rfl
  constructor
  · exact Kql.after_append hsilent.closed (Kql.silent_naturalText n).closed
  · rw [Kql.breaks_append, hsilent.breaks_eq, (Kql.silent_naturalText n).breaks_eq]
    rfl
  · rw [spansIn, bareWords_numbered hlead n, List.filterMap_cons_none hspan]
    rfl

theorem silent_levelVariable (number : Nat) : Silent (levelVariable number) :=
  silent_numbered (by decide) (by decide) (by decide) number

theorem Source.silent_text (source : Source) : Silent source.text := by
  cases source with
  | rows => exact (by decide : Silent "_data")
  | level number => exact silent_levelVariable number

namespace Stage

/-- The names in a computed column. -/
def metricNames (c : MetricColumn) : List String := c.column :: c.computation.names

/-- The names in a stage, each as often as it is written. -/
def names : Stage → List String
  | .hasKey key => [key.field]
  | .group columns by_ =>
    (Aggregation.docCountColumn :: columns.flatMap metricNames) ++
      by_.flatMap fun named => named.1 :: named.2.names
  | .summarize columns => columns.flatMap metricNames
  | .within _ columns => columns
  | .minDocCount _ => [Aggregation.docCountColumn]
  | .order keys => keys.flatMap fun k => [k.column]
  | .take _ => []
  | .rank restart => restart.flatMap fun c => [c, c]
  | .rankAtMost _ => []
  | .number => []
  | .numberAbove _ => []
  | .drop _ => []
  | .keepColumns patterns => patterns.flatMap ColumnPattern.names
  | .dropColumns patterns => patterns.flatMap ColumnPattern.names
  | .count => []

/-- The lengths of the timespans of a stage: those of the keys that rows are grouped by. -/
def spans : Stage → List Nat
  | .group _ by_ => by_.flatMap fun named => named.2.spans
  | _ => []

theorem mentions_docCount : Mentions docCount [Aggregation.docCountColumn] [] :=
  mentions_identifier _

theorem mentions_metricText (c : MetricColumn) : Mentions (metricText c) (metricNames c) [] :=
  (mentions_identifier c.column).divide (d := " = ") (by decide) c.computation.mentions_text

/-- The texts of a list that have no timespans, with commas between them. -/
theorem mentions_list {α : Type} {text : α → String} {names : α → List String} {items : List α}
    (h : ∀ item ∈ items, Mentions (text item) (names item) []) :
    Mentions (Text.join ", " (items.map text)) (items.flatMap names) [] :=
  (AllMention.map_untimed h).join (by decide)

theorem mentions_group (columns : List MetricColumn) (by_ : List (String × BucketKey)) :
    Mentions (group columns by_).text (group columns by_).names (group columns by_).spans := by
  have hcount := mentions_docCount.finish (d := " = count()") (by decide)
  have hcolumns : Mentions
      (Text.join ", " ((docCount ++ " = count()") :: columns.map metricText))
      ([Aggregation.docCountColumn] ++ columns.flatMap metricNames) ([] ++ []) :=
    (AllMention.cons hcount (.map_untimed fun c _ => mentions_metricText c)).join (by decide)
  have hkeys : Mentions
      (Text.join ", " (by_.map fun named => identifier named.1 ++ " = " ++ named.2.expression))
      (by_.flatMap fun named => named.1 :: named.2.names)
      (by_.flatMap fun named => named.2.spans) :=
    .list (by decide) fun named _ =>
      (mentions_identifier named.1).divide (by decide) named.2.mentions_expression
  have hleft := hcolumns.lead (d := "summarize ") (by decide)
  exact hleft.divide (d := " by ") (by decide) hkeys

theorem mentions_within (level : Nat) (columns : List String) :
    Mentions (within level columns).text columns [] := by
  have hlevel := (silent_levelVariable level).lead (d := "join kind=leftsemi (") (by decide)
  have hcolumns := mentions_list fun (c : String) (_ : c ∈ columns) => mentions_identifier c
  rw [List.flatMap_singleton'] at hcolumns
  exact hlevel.divide (d := ") on ") (by decide) hcolumns

theorem mentions_rank (restart : List String) :
    Mentions (rank restart).text (rank restart).names [] := by
  have hchange (c : String) :
      Mentions ("prev(" ++ identifier c ++ ") != " ++ identifier c) [c, c] [] := by
    have hprev := (mentions_identifier c).lead (d := "prev(") (by decide)
    exact hprev.divide (d := ") != ") (by decide) (mentions_identifier c)
  have hchanges : Mentions
      (Text.join " or " (restart.map fun c => "prev(" ++ identifier c ++ ") != " ++ identifier c))
      (restart.flatMap fun c => [c, c]) [] :=
    (AllMention.map_untimed fun c _ => hchange c).join (by decide)
  exact hchanges.call (by decide)

/-- What a stage mentions, whatever names are in it. -/
theorem mentions_text {stage : Stage} (h : stage.Chosen) :
    Mentions stage.text stage.names stage.spans := by
  have hpatterns : ∀ p ∈ stage.patterns, Mentions p.text p.names [] := by
    intro p hp
    obtain ⟨name, hname⟩ := h p hp
    exact ColumnPattern.mentions_text hname
  cases stage with
  | hasKey key => exact key.mentions_guard.lead (d := "where ") (by decide)
  | group columns by_ => exact mentions_group columns by_
  | summarize columns =>
    exact (mentions_list fun c _ => mentions_metricText c).lead (d := "summarize ") (by decide)
  | within level columns => exact mentions_within level columns
  | minDocCount n =>
    have hcolumn := mentions_docCount.lead (d := "where ") (by decide)
    exact hcolumn.divide (d := " >= ") (by decide) (Kql.silent_naturalText n)
  | order keys =>
    exact (mentions_list fun k _ => k.mentions_text).lead (d := "order by ") (by decide)
  | take n => exact (Kql.silent_naturalText n).lead (d := "take ") (by decide)
  | rank restart => exact mentions_rank restart
  | rankAtMost n => exact (Kql.silent_naturalText n).lead (by decide)
  | number => exact (by decide : Silent Stage.number.text)
  | numberAbove n => exact (Kql.silent_naturalText n).lead (by decide)
  | drop counter => cases counter <;> decide
  | keepColumns patterns => exact (mentions_list hpatterns).lead (d := "project-keep ") (by decide)
  | dropColumns patterns => exact (mentions_list hpatterns).lead (d := "project-away ") (by decide)
  | count => exact (by decide : Silent "count")

theorem mentions_pipeline (source : Source) {stages : List Stage}
    (h : ∀ stage ∈ stages, stage.Chosen) :
    Mentions (pipeline source stages) (stages.flatMap names) (stages.flatMap spans) := by
  have hstages : AllMention (stages.map text) (stages.flatMap names) (stages.flatMap spans) :=
    .map fun stage hstage => mentions_text (h stage hstage)
  exact (AllMention.cons source.silent_text hstages).join (by decide)

end Stage

/-! ## Clauses -/

namespace Level

/-- The names in the binding of a level. -/
def names (level : Level) : List String := level.stages.flatMap Stage.names

/-- The lengths of the timespans of a level. -/
def spans (level : Level) : List Nat := level.stages.flatMap Stage.spans

theorem mentions_binding {level : Level} (h : ∀ stage ∈ level.stages, stage.Chosen) :
    Mentions level.binding level.names level.spans := by
  have hname := (silent_levelVariable level.number).lead (d := "let ") (by decide)
  exact hname.divide (d := " = ") (by decide) (Stage.mentions_pipeline .rows h)

end Level

namespace Output

/-- The names in a named result, besides its own. -/
def names (o : Output) : List String := o.stages.flatMap Stage.names

theorem mentions_text {o : Output} (h : ∀ stage ∈ o.stages, stage.Chosen) (hname : Silent o.name) :
    Mentions o.text o.names (o.stages.flatMap Stage.spans) := by
  have hresult := (Stage.mentions_pipeline o.source h).divide (d := " | as ") (by decide) hname
  rwa [List.append_nil, List.append_nil] at hresult

end Output

namespace Batch

/-- The names that a statement has in brackets, each as often as it is written. -/
def names (batch : Batch) : List String :=
  batch.table :: batch.filter.names ++ batch.levels.flatMap Level.names ++
    batch.outputs.flatMap Output.names

theorem mentions_rowsBinding {batch : Batch} (h : batch.filter.Readable) :
    Mentions batch.rowsBinding (batch.table :: batch.filter.names) batch.filter.spans := by
  have hdatabase := (Kql.silent_textLiteral batch.database).lead (d := "let _data = database(")
    (by decide)
  have htable := hdatabase.divide (d := ").") (by decide) (mentions_identifier batch.table)
  exact htable.divide (d := " | where ") (by decide) (Kql.Predicate.mentions_text h)

/-- The clauses of a statement, without the semicolons between them. -/
def clauseTexts (batch : Batch) : List String :=
  batch.rowsBinding :: batch.levels.map Level.binding ++ batch.outputs.map Output.text

theorem clauseTexts_ne_nil (batch : Batch) : batch.clauseTexts ≠ [] :=
  List.append_ne_nil_of_left_ne_nil (List.cons_ne_nil _ _) _

theorem length_clauseTexts (batch : Batch) :
    batch.clauseTexts.length = 1 + batch.levels.length + batch.outputs.length := by
  simp only [clauseTexts, List.length_append, List.length_cons, List.length_map]
  omega

end Batch

/-! ## Results -/

namespace Batch

theorem spans_sourceStages {source : SourceSelection} {stages : List Stage}
    (h : sourceStages source = .ok stages) : stages.flatMap Stage.spans = [] := by
  cases source with
  | all =>
    cases h
    rfl
  | none =>
    cases h
    rfl
  | only includes excludes =>
    obtain ⟨keep, _, h⟩ := Outcome.bind_eq_ok.mp h
    obtain ⟨drop, _, h⟩ := Outcome.bind_eq_ok.mp h
    cases h
    rw [List.flatMap_append]
    split_ifs <;> rfl

/-- Hits are ordered, numbered and chosen from, and grouped by no key. -/
theorem spans_hitStages {hits : HitSelection} {stages : List Stage}
    (h : hitStages hits = .ok stages) : stages.flatMap Stage.spans = [] := by
  obtain ⟨source, hsource, h⟩ := Outcome.bind_eq_ok.mp h
  cases h
  rw [List.flatMap_append, spans_sourceStages hsource, List.append_nil, List.flatMap_append,
    List.flatMap_append]
  split_ifs <;> rfl

theorem spans_hitOutputs {hits : HitSelection} {others : Bool} {outputs : List Output}
    {layout : Layout} (h : hitOutputs hits others = .ok (outputs, layout)) :
    ∀ o ∈ outputs, o.stages.flatMap Stage.spans = [] := by
  have htotal : totalOutput.stages.flatMap Stage.spans = [] := rfl
  unfold hitOutputs at h
  split_ifs at h
  · cases h
    exact List.forall_mem_singleton.mpr htotal
  · cases h
    exact List.forall_mem_nil _
  · obtain ⟨stages, hstages, h⟩ := Outcome.bind_eq_ok.mp h
    cases h
    exact List.forall_mem_cons.mpr
      ⟨htotal, List.forall_mem_singleton.mpr (spans_hitStages hstages)⟩
  · obtain ⟨stages, hstages, h⟩ := Outcome.bind_eq_ok.mp h
    cases h
    exact List.forall_mem_singleton.mpr (spans_hitStages hstages)

theorem spans_metricOutputs {metrics : List MetricPlan} {outputs : List Output}
    (h : metricOutputs metrics = .ok outputs) :
    ∀ o ∈ outputs, o.stages.flatMap Stage.spans = [] := by
  unfold metricOutputs at h
  split_ifs at h
  · cases h
    exact List.forall_mem_nil _
  · obtain ⟨_, _, h⟩ := Outcome.bind_eq_ok.mp h
    cases h
    exact List.forall_mem_singleton.mpr rfl

end Batch

/-- Timespans are in the condition and in the levels of buckets only. -/
theorem Plan.spans_outputs {plan : Plan} {database : String} {batch : Batch}
    (h : plan.batch database = .ok batch) :
    ∀ o ∈ batch.outputs, o.stages.flatMap Stage.spans = [] := by
  obtain ⟨⟨_, _⟩, _, h⟩ := Outcome.bind_eq_ok.mp h
  obtain ⟨levels, _, h⟩ := Outcome.bind_eq_ok.mp h
  obtain ⟨metrics, hmetrics, h⟩ := Outcome.bind_eq_ok.mp h
  obtain ⟨⟨hits, layout⟩, hhits, h⟩ := Outcome.bind_eq_ok.mp h
  cases h
  show ∀ o ∈ levels.map Batch.levelOutput ++ metrics ++ hits, _
  rw [List.forall_mem_append, List.forall_mem_append, List.forall_mem_map]
  exact ⟨⟨fun _ _ => rfl, Batch.spans_metricOutputs hmetrics⟩, Batch.spans_hitOutputs hhits⟩

/-- The name of a result is that of a level's table or of another table of the layout. -/
theorem Batch.OutputsAre.silent_name {batch : Batch} {others : List Output} {names : List String}
    (h : batch.OutputsAre others names) : ∀ o ∈ batch.outputs, Silent o.name := by
  rw [h.outputs_eq, List.forall_mem_append, List.forall_mem_map]
  constructor
  · intro level _
    exact silent_numbered (by decide) (by decide) (by decide) level.number
  · intro o ho
    have hname : o.name ∈ names := by
      rw [← h.rows.names_eq]
      exact List.mem_map_of_mem ho
    have hall : ∀ name ∈ [Layout.metricsTable, Layout.totalTable, Layout.hitsTable],
        Silent name := by
      decide
    exact hall o.name (h.sublist.subset hname)

/-! ## The whole statement -/

namespace Search

variable {search : Search} {plan : Plan} {database : String} {batch : Batch}

theorem readable_filter (h : search.plan = .ok plan) : plan.filter.Readable := by
  obtain ⟨filter, hfilter, h⟩ := Outcome.bind_eq_ok.mp h
  obtain ⟨aggregations, _, h⟩ := Outcome.bind_eq_ok.mp h
  cases h
  exact (search.query.says_predicate hfilter).readable

theorem chosen_levels (h : plan.batch database = .ok batch) :
    ∀ level ∈ batch.levels, ∀ stage ∈ level.stages, stage.Chosen := by
  rw [(plan.levels_of_batch h).levels_eq, List.forall_mem_map]
  exact fun node _ stage hstage => BucketNode.chosen_of_mem_stages hstage

/-- What the clauses of a statement mention. -/
theorem clauses_mention (hplan : search.plan = .ok plan)
    (hbatch : plan.batch database = .ok batch) :
    AllMention batch.clauseTexts batch.names
      (batch.filter.spans ++ batch.levels.flatMap Level.spans) := by
  obtain ⟨others, names, houtputs⟩ := plan.exists_outputs hbatch
  have hrows : Mentions batch.rowsBinding (batch.table :: batch.filter.names) batch.filter.spans :=
    Batch.mentions_rowsBinding (plan.filter_of_batch hbatch ▸ readable_filter hplan)
  have hlevels : AllMention (batch.levels.map Level.binding) (batch.levels.flatMap Level.names)
      (batch.levels.flatMap Level.spans) :=
    .map fun level hlevel => Level.mentions_binding (chosen_levels hbatch level hlevel)
  have hresults : AllMention (batch.outputs.map Output.text) (batch.outputs.flatMap Output.names)
      [] := by
    refine .map_untimed fun o ho => ?_
    have hresult := Output.mentions_text (houtputs.of_mem ho).1 (houtputs.silent_name o ho)
    rwa [plan.spans_outputs hbatch o ho] at hresult
  have hall := (AllMention.cons hrows hlevels).append hresults
  rwa [List.append_nil] at hall

/-- The lines of a statement: one for each clause, and one more for each line break that a name
brings with it. -/
theorem length_lines_text (hplan : search.plan = .ok plan)
    (hbatch : plan.batch database = .ok batch) :
    (Kql.lines batch.text).length = batch.clauseTexts.length + (batch.names.map breaks).sum := by
  have hpositive : batch.clauseTexts.length ≠ 0 :=
    List.length_eq_zero_iff.not.mpr batch.clauseTexts_ne_nil
  have hseparator : breaks ";
" = 1 := by decide
  rw [Kql.length_lines, Batch.text_eq_join (plan.fragments_outputs hbatch).1]
  show breaks (Text.join ";
" batch.clauseTexts) + 1 = _
  rw [Kql.breaks_join, (clauses_mention hplan hbatch).breaks_eq, hseparator]
  omega

/-- The timespans of a statement: those of its condition, and those of its levels of buckets. -/
theorem spansIn_text (hplan : search.plan = .ok plan) (hbatch : plan.batch database = .ok batch) :
    spansIn batch.text = batch.filter.spans ++ batch.levels.flatMap Level.spans := by
  have hseparator : Divides ";
" ∧ spansIn ";
" = [] := by decide
  have hclauses := clauses_mention hplan hbatch
  rw [Batch.text_eq_join (plan.fragments_outputs hbatch).1]
  show spansIn (Text.join ";
" batch.clauseTexts) = _
  rw [Kql.spansIn_join hseparator.1 hseparator.2 hclauses.closed, hclauses.spans_eq]

end Search

end KustoSearch
