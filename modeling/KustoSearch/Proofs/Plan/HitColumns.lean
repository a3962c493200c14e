import KustoSearch.Proofs.Plan.ColumnSteps
import KustoSearch.Proofs.Plan.Scope
import KustoSearch.Proofs.Plan.Shape

/-! # The columns of a hit

Read as the engine reads it, the output for hits shows the columns that the request includes and
does not exclude, with two exceptions. A lone star among other included patterns is left out, so
that only the others count, and a column that has the name of the helper column is lost where hits
are skipped. Main result: `Search.hit_columns`.
-/

namespace KustoSearch

/-! ## Hits -/

/-- Whether a column looks like an included pattern, where there are any, and like no excluded
one. -/
def Chooses (includes excludes : List String) (column : String) : Prop :=
  (includes = [] ∨ ∃ pattern ∈ includes, LooksLike pattern column) ∧
    ∀ pattern ∈ excludes, ¬LooksLike pattern column

/-- Whether a selection of columns has a column. -/
def SourceSelection.Chooses : SourceSelection → String → Prop
  | .only includes excludes, column => KustoSearch.Chooses includes excludes column
  | .all, _ => True
  | .none, _ => True

namespace Batch

/-- Of some patterns one selects a column when the column looks like one of their names. -/
theorem any_selects_iff {names : List String} {patterns : List ColumnPattern}
    (h : names.mapM columnPattern = .ok patterns) (column : String) :
    (patterns.any fun p => p.selects column) = true ↔ ∃ name ∈ names, LooksLike name column := by
  -- on names and patterns side by side
  have hall := Outcome.mapM_eq_ok.mp h
  clear h
  induction hall with
  | nil => simp
  | cons hname _ ih =>
    rw [List.any_cons, Bool.or_eq_true, List.exists_mem_cons_iff]
    exact or_congr (ColumnPattern.selects_iff hname column) ih

theorem ofHits_sourceStages {source : SourceSelection} {stages : List Stage}
    (h : sourceStages source = .ok stages) : ∀ stage ∈ stages, stage.OfHits := by
  cases source with
  | all =>
    cases h
    exact List.forall_mem_nil _
  | none =>
    cases h
    exact List.forall_mem_nil _
  | only includes excludes =>
    obtain ⟨keep, hkeep, h⟩ := Outcome.bind_eq_ok.mp h
    obtain ⟨drop, hdrop, h⟩ := Outcome.bind_eq_ok.mp h
    cases h
    have hwritten : ∀ {names : List String} {patterns : List ColumnPattern},
        names.mapM columnPattern = .ok patterns → ∀ p ∈ patterns, p.Written := by
      intro names patterns hpatterns p hp
      obtain ⟨name, hname⟩ := chosen_of_columnPatterns hpatterns p hp
      exact ColumnPattern.written_of_columnPattern hname
    intro stage hstage
    rcases List.mem_append.mp hstage with hstage | hstage
    · split_ifs at hstage with hnone
      · cases hstage
      · rw [List.mem_singleton.mp hstage]
        exact .keepColumns (by simpa using hnone) (hwritten hkeep)
    · split_ifs at hstage with hnone
      · cases hstage
      · rw [List.mem_singleton.mp hstage]
        exact .dropColumns (by simpa using hnone) (hwritten hdrop)

theorem ofHits_hitStages {hits : HitSelection} {stages : List Stage}
    (h : hitStages hits = .ok stages) : ∀ stage ∈ stages, stage.OfHits := by
  obtain ⟨source, hsource, h⟩ := Outcome.bind_eq_ok.mp h
  cases h
  intro stage hstage
  simp only [List.mem_append] at hstage
  rcases hstage with ((hstage | hstage) | hstage) | hstage
  · split_ifs at hstage
    · cases hstage
    · rw [List.mem_singleton.mp hstage]
      exact .order _
  · split_ifs at hstage
    · cases hstage
    · simp only [List.mem_cons, List.not_mem_nil, or_false] at hstage
      rcases hstage with rfl | rfl | rfl
      · exact .number
      · exact .numberAbove hits.skip
      · exact .drop
  · rw [List.mem_singleton.mp hstage]
    exact .take hits.size
  · exact ofHits_sourceStages hsource stage hstage

end Batch

namespace ColumnStep

theorem mem_add {column added : String} {columns : List String} :
    column ∈ (add added).apply columns ↔ column ∈ columns ∨ column = added := by
  rw [apply]
  split_ifs with hmem
  · constructor
    · intro h
      exact Or.inl h
    · rintro (h | rfl)
      · exact h
      · exact hmem
  · rw [List.mem_append, List.mem_singleton]

/-- The name of the helper column has no star, so that it drops this one column. -/
theorem mem_drop_rowNumber {column : String} {columns : List String} :
    column ∈ (drop [.pattern Counter.rowNumber.column]).apply columns ↔
      column ∈ columns ∧ column ≠ Counter.rowNumber.column := by
  have hselects : (ColumnPattern.pattern Counter.rowNumber.column).selects column = true ↔
      column = Counter.rowNumber.column := by
    rw [ColumnPattern.selects, Text.matchesStars_of_no_star (by decide), String.toList_inj]
    exact eq_comm
  rw [apply, List.mem_filter, List.any_cons, List.any_nil, Bool.or_false, Bool.not_eq_true',
    ← Bool.not_eq_true, hselects]

end ColumnStep

namespace Batch

open Stage (columnsBehind)

theorem columnsBehind_append (stages more : List Stage) (columns : List String) :
    columnsBehind (stages ++ more) columns = columnsBehind more (columnsBehind stages columns) :=
  List.foldl_append

/-- The stage of included patterns, when there are any. -/
theorem mem_columnsBehind_kept {includes : List String} {keep : List ColumnPattern}
    (h : includes.mapM columnPattern = .ok keep) (columns : List String) (column : String) :
    column ∈ columnsBehind (if keep.isEmpty then [] else [.keepColumns keep]) columns ↔
      column ∈ columns ∧ (includes = [] ∨ ∃ name ∈ includes, LooksLike name column) := by
  have hlength := (columnPatterns_eq_ok h).2
  cases keep with
  | nil =>
    obtain rfl : includes = [] := List.length_eq_zero_iff.mp hlength.symm
    simp [columnsBehind]
  | cons pattern patterns =>
    have hne : includes ≠ [] := by
      rintro rfl
      cases hlength
    rw [← any_selects_iff h]
    simp [columnsBehind, Stage.columnStep, ColumnStep.apply, hne]

/-- The stage of excluded patterns, when there are any. -/
theorem mem_columnsBehind_dropped {excludes : List String} {drop : List ColumnPattern}
    (h : excludes.mapM columnPattern = .ok drop) (columns : List String) (column : String) :
    column ∈ columnsBehind (if drop.isEmpty then [] else [.dropColumns drop]) columns ↔
      column ∈ columns ∧ ∀ name ∈ excludes, ¬LooksLike name column := by
  have hlength := (columnPatterns_eq_ok h).2
  have hiff := any_selects_iff h column
  cases drop with
  | nil =>
    obtain rfl : excludes = [] := List.length_eq_zero_iff.mp hlength.symm
    simp [columnsBehind]
  | cons pattern patterns =>
    have hnone : (∀ name ∈ excludes, ¬LooksLike name column) ↔
        ((pattern :: patterns).any fun p => p.selects column) = false := by
      rw [← Bool.not_eq_true, hiff]
      simp
    rw [hnone]
    simp [columnsBehind, Stage.columnStep, ColumnStep.apply]

/-- The stages that skip hits, when there are any. -/
theorem mem_columnsBehind_skipped (skip : Nat) (columns : List String) (column : String) :
    column ∈ columnsBehind
        (if skip = 0 then [] else [.number, .numberAbove skip, .drop .rowNumber]) columns ↔
      column ∈ columns ∧ (skip = 0 ∨ column ≠ Counter.rowNumber.column) := by
  split_ifs with hskip
  · simp [columnsBehind, hskip]
  · -- the helper column is put in, and everything of its name is dropped again
    show column ∈ (ColumnStep.drop [.pattern Counter.rowNumber.column]).apply
      ((ColumnStep.add Counter.rowNumber.column).apply columns) ↔ _
    rw [ColumnStep.mem_drop_rowNumber, ColumnStep.mem_add]
    constructor
    · rintro ⟨hmem | hsame, hne⟩
      · exact ⟨hmem, Or.inr hne⟩
      · exact absurd hsame hne
    · rintro ⟨hmem, hzero | hne⟩
      · exact absurd hzero hskip
      · exact ⟨Or.inl hmem, hne⟩

/-- The stages of the source show the columns that it chooses. -/
theorem mem_columnsBehind_sourceStages {source : SourceSelection} {stages : List Stage}
    (h : sourceStages source = .ok stages) (columns : List String) (column : String) :
    column ∈ columnsBehind stages columns ↔ column ∈ columns ∧ source.Chooses column := by
  cases source with
  | all =>
    cases h
    exact (and_iff_left trivial).symm
  | none =>
    cases h
    exact (and_iff_left trivial).symm
  | only includes excludes =>
    obtain ⟨keep, hkeep, h⟩ := Outcome.bind_eq_ok.mp h
    obtain ⟨drop, hdrop, h⟩ := Outcome.bind_eq_ok.mp h
    cases h
    rw [columnsBehind_append, mem_columnsBehind_dropped hdrop, mem_columnsBehind_kept hkeep,
      and_assoc]
    rfl

/-- The stages of hits show the columns that the source chooses, but for one with the name of the
helper column where hits are skipped. -/
theorem mem_columnsBehind_hitStages {hits : HitSelection} {stages : List Stage}
    (h : hitStages hits = .ok stages) (columns : List String) (column : String) :
    column ∈ columnsBehind stages columns ↔
      column ∈ columns ∧ (hits.skip = 0 ∨ column ≠ Counter.rowNumber.column) ∧
        hits.source.Chooses column := by
  obtain ⟨source, hsource, h⟩ := Outcome.bind_eq_ok.mp h
  cases h
  have hordered : ∀ keys : List OrderKey,
      columnsBehind (if keys.isEmpty then [] else [.order keys]) columns = columns := by
    intro keys
    split_ifs <;> rfl
  have htaken : ∀ columns, columnsBehind [.take hits.size] columns = columns := fun _ => rfl
  rw [columnsBehind_append, columnsBehind_append, columnsBehind_append,
    mem_columnsBehind_sourceStages hsource, hordered, htaken, mem_columnsBehind_skipped, and_assoc]

end Batch

/-- The output for hits has the stages of hits. -/
theorem Plan.hitStages_of_output {plan : Plan} {database : String} {batch : Batch} {output : Output}
    (h : plan.batch database = .ok batch) (houtput : output ∈ batch.outputs)
    (hname : output.name = Layout.hitsTable) :
    Batch.hitStages plan.hits = .ok output.stages := by
  obtain ⟨⟨_, _⟩, _, h⟩ := Outcome.bind_eq_ok.mp h
  obtain ⟨levels, _, h⟩ := Outcome.bind_eq_ok.mp h
  obtain ⟨metrics, hmetrics, h⟩ := Outcome.bind_eq_ok.mp h
  obtain ⟨⟨hits, layout⟩, hhits, h⟩ := Outcome.bind_eq_ok.mp h
  cases h
  rcases List.mem_append.mp houtput with hbefore | hmem
  · -- neither the table of a level nor that of the metrics has the name of the hits
    rcases List.mem_append.mp hbefore with hlevel | hmetric
    · obtain ⟨level, _, rfl⟩ := List.mem_map.mp hlevel
      exact absurd hname (Level.table_ne (by simp))
    · unfold Batch.metricOutputs at hmetrics
      split_ifs at hmetrics
      · cases hmetrics
        cases hmetric
      · obtain ⟨_, _, hmetrics⟩ := Outcome.bind_eq_ok.mp hmetrics
        cases hmetrics
        have hother : ¬Layout.metricsTable = Layout.hitsTable := by decide
        rw [List.mem_singleton.mp hmetric] at hname
        exact absurd hname hother
  · -- nor has the table of their number, so that only the one with the stages is left
    unfold Batch.hitOutputs at hhits
    have htotal : ¬Batch.totalOutput.name = Layout.hitsTable := by decide
    split_ifs at hhits
    · cases hhits
      rw [List.mem_singleton.mp hmem] at hname
      exact absurd hname htotal
    · cases hhits
      cases hmem
    · obtain ⟨stages, hstages, hhits⟩ := Outcome.bind_eq_ok.mp hhits
      cases hhits
      rcases List.mem_pair.mp hmem with rfl | rfl
      · exact absurd hname htotal
      · exact hstages
    · obtain ⟨stages, hstages, hhits⟩ := Outcome.bind_eq_ok.mp hhits
      cases hhits
      rw [List.mem_singleton.mp hmem]
      exact hstages

/-- Where hits are asked for there is an output for them. -/
theorem Plan.exists_hitsOutput {plan : Plan} {database : String} {batch : Batch}
    (h : plan.batch database = .ok batch) (hsize : plan.hits.size ≠ 0) :
    ∃ output ∈ batch.outputs, output.name = Layout.hitsTable := by
  obtain ⟨⟨_, _⟩, _, h⟩ := Outcome.bind_eq_ok.mp h
  obtain ⟨levels, _, h⟩ := Outcome.bind_eq_ok.mp h
  obtain ⟨metrics, _, h⟩ := Outcome.bind_eq_ok.mp h
  obtain ⟨⟨hits, layout⟩, hhits, h⟩ := Outcome.bind_eq_ok.mp h
  cases h
  unfold Batch.hitOutputs at hhits
  rw [if_neg hsize] at hhits
  obtain ⟨stages, _, hhits⟩ := Outcome.bind_eq_ok.mp hhits
  split_ifs at hhits
  · cases hhits
    exact ⟨⟨.rows, stages, Layout.hitsTable⟩, by simp, rfl⟩
  · cases hhits
    exact ⟨⟨.rows, stages, Layout.hitsTable⟩, by simp, rfl⟩

/-! ## Requests -/

namespace Request

/-- Whether a request asks for a column. -/
def Wants : Option SourceParams → String → Prop
  | some (.patterns includes excludes), column => Chooses includes excludes column
  | some (.bool _), _ => True
  | none, _ => True

/-- A request without the lone stars among its included patterns. -/
def withoutStars : Option SourceParams → Option SourceParams
  | some (.patterns includes excludes) =>
    some (.patterns (includes.filter fun pattern => pattern != "*") excludes)
  | source => source

/-- Whether a lone star stands among other included patterns. -/
def StarAmongOthers : Option SourceParams → Prop
  | some (.patterns includes _) => "*" ∈ includes ∧ ∃ pattern ∈ includes, pattern ≠ "*"
  | _ => False

/-- The selection of a request chooses what the request asks for without its lone stars. -/
theorem chooses_source (params : Option SourceParams) (column : String) :
    (source params).Chooses column ↔ Wants (withoutStars params) column := by
  cases params with
  | none => exact Iff.rfl
  | some params =>
    cases params with
    | bool b => cases b <;> exact Iff.rfl
    | patterns includes excludes =>
      rw [source, withoutStars, Wants]
      split_ifs with hnone
      · simp only [Bool.and_eq_true, List.isEmpty_iff] at hnone
        rw [hnone.1, hnone.2]
        simp [SourceSelection.Chooses, Chooses]
      · exact Iff.rfl

/-- Lone stars may be left out where nothing else is included beside them. -/
theorem wants_withoutStars {params : Option SourceParams} (h : ¬StarAmongOthers params)
    (column : String) : Wants (withoutStars params) column ↔ Wants params column := by
  cases params with
  | none => exact Iff.rfl
  | some params =>
    cases params with
    | bool b => exact Iff.rfl
    | patterns includes excludes =>
      rw [withoutStars, Wants, Wants]
      by_cases hstar : "*" ∈ includes
      · -- nothing but stars: with them and without them any column is included
        have hall : ∀ pattern ∈ includes, pattern = "*" := by
          intro pattern hpattern
          by_contra hne
          exact h ⟨hstar, pattern, hpattern, hne⟩
        have hnone : includes.filter (fun pattern => pattern != "*") = [] := by
          rw [List.filter_eq_nil_iff]
          intro pattern hpattern
          simp [hall pattern hpattern]
        rw [hnone]
        constructor
        · rintro ⟨_, hexcluded⟩
          exact ⟨Or.inr ⟨"*", hstar, looksLike_star column⟩, hexcluded⟩
        · rintro ⟨_, hexcluded⟩
          exact ⟨Or.inl rfl, hexcluded⟩
      · have hsame : includes.filter (fun pattern => pattern != "*") = includes := by
          rw [List.filter_eq_self]
          intro pattern hpattern
          rw [bne_iff_ne]
          rintro rfl
          exact hstar hpattern
        rw [hsame]

end Request

/-- The output for the hits of an accepted request, read as the engine reads it, shows the columns
that the request asks for without the lone stars among its included patterns, but for a column that
has the name of the helper column where hits are skipped. Where no lone star stands among other
patterns, and no column is lost that way, these are the columns that the request asks for. -/
theorem Search.hit_columns {index database : String} {body : Json} {search : Search} {plan : Plan}
    {batch : Batch} (hread : Search.read index body = .ok search)
    (hplan : search.plan = .ok plan) (hbatch : plan.batch database = .ok batch) :
    ∃ document, Request.Document.read? body = some document ∧
      (document.size.getD 10 ≠ 0 → ∃ output ∈ batch.outputs, output.name = Layout.hitsTable) ∧
      ∀ output ∈ batch.outputs, output.name = Layout.hitsTable → ∀ columns,
        ∃ shown, columnsShown? output.text columns = some shown ∧
          (∀ column, column ∈ shown ↔ column ∈ columns ∧
            (document.skip.getD 0 = 0 ∨ column ≠ Counter.rowNumber.column) ∧
              Request.Wants (Request.withoutStars document.source) column) ∧
          (¬Request.StarAmongOthers document.source →
            (document.skip.getD 0 = 0 ∨ Counter.rowNumber.column ∉ columns) →
            ∀ column, column ∈ shown ↔
              column ∈ columns ∧ Request.Wants document.source column) := by
  obtain ⟨document, hdocument, _, _, hhits⟩ := Search.parts_of_read hread
  -- planning and reading leave the selection of hits as the document has it
  obtain ⟨filter, _, hplan⟩ := Outcome.bind_eq_ok.mp hplan
  obtain ⟨aggregations, _, hplan⟩ := Outcome.bind_eq_ok.mp hplan
  cases hplan
  unfold Request.hits at hhits
  dsimp only at hhits
  split_ifs at hhits
  obtain ⟨sort, _, hhits⟩ := Outcome.bind_eq_ok.mp hhits
  have hselection := (Except.ok.inj hhits).symm
  refine ⟨document, hdocument, ?_, ?_⟩
  · intro hsize
    refine Plan.exists_hitsOutput hbatch ?_
    show search.hits.size ≠ 0
    rw [hselection]
    exact hsize
  · intro output houtput hname columns
    have hstages := Plan.hitStages_of_output hbatch houtput hname
    rw [hselection] at hstages
    have hmem := Batch.mem_columnsBehind_hitStages hstages columns
    refine ⟨_, Output.columnsShown?_text (Batch.ofHits_hitStages hstages) hname columns, ?_, ?_⟩
    · intro column
      rw [hmem, Request.chooses_source]
    · intro hstar hlost column
      rw [hmem, Request.chooses_source, Request.wants_withoutStars hstar]
      constructor
      · rintro ⟨hcolumn, _, hwants⟩
        exact ⟨hcolumn, hwants⟩
      · rintro ⟨hcolumn, hwants⟩
        refine ⟨hcolumn, ?_, hwants⟩
        rcases hlost with hzero | hnone
        · exact Or.inl hzero
        · refine Or.inr ?_
          rintro rfl
          exact hnone hcolumn

/-- A request for every column, and for one column by its name. -/
def starBody : Json := .object [("_source", .array [.string "*", .string "a b"])]

/-- The search that it asks for. -/
def starSearch : Search where
  index := "logs"
  query := .matchAll
  aggregations := []
  hits := ⟨0, 10, [], .only ["a b"] [], true⟩

/-- Its plan. -/
def starPlan : Plan where
  index := "logs"
  filter := .constant true
  aggregations := []
  hits := starSearch.hits

/-- Of the columns that are asked for only the named one is shown. -/
theorem Search.hit_columns_star :
    ∃ batch output, Search.read "logs" starBody = .ok starSearch ∧
      starSearch.plan = .ok starPlan ∧ starPlan.batch "db" = .ok batch ∧
      output ∈ batch.outputs ∧ output.name = Layout.hitsTable ∧
      (∀ column, Request.Wants (some (.patterns ["*", "a b"] [])) column) ∧
      ∃ shown, columnsShown? output.text ["a b", "c"] = some shown ∧
        ∀ column, column ∈ shown ↔ column = "a b" := by
  have hread : Search.read "logs" starBody = .ok starSearch := rfl
  have hplan : starSearch.plan = .ok starPlan := rfl
  obtain ⟨batch, hbatch⟩ : ∃ batch, starPlan.batch "db" = .ok batch := ⟨_, rfl⟩
  obtain ⟨document, hdocument, houtputs, hshown⟩ := Search.hit_columns hread hplan hbatch
  have hfields : document.size = none ∧ document.skip = none ∧
      document.source = some (.patterns ["*", "a b"] []) := by
    cases hdocument
    exact ⟨rfl, rfl, rfl⟩
  obtain ⟨hsize, hskip, hsource⟩ := hfields
  obtain ⟨output, houtput, hname⟩ := houtputs (by rw [hsize]; decide)
  obtain ⟨shown, htext, hcolumns, _⟩ := hshown output houtput hname ["a b", "c"]
  refine ⟨batch, output, hread, hplan, hbatch, houtput, hname, ?_, shown, htext, ?_⟩
  · intro column
    refine ⟨Or.inr ⟨"*", List.mem_cons_self, looksLike_star column⟩, ?_⟩
    intro pattern hpattern
    cases hpattern
  · intro column
    have hplain : LooksLike "a b" column ↔ column = "a b" := by
      rw [LooksLike, Text.matchesStars_of_no_star (by decide), String.toList_inj]
      exact eq_comm
    rw [hcolumns, hskip, hsource]
    constructor
    · rintro ⟨_, _, hincluded | ⟨pattern, hpattern, hlooks⟩, _⟩
      · cases hincluded
      · obtain rfl : pattern = "a b" := by simpa using hpattern
        exact hplain.mp hlooks
    · rintro rfl
      refine ⟨List.mem_cons_self, Or.inl rfl, Or.inr ⟨"a b", by simp, hplain.mpr rfl⟩, ?_⟩
      intro pattern hpattern
      cases hpattern

end KustoSearch
