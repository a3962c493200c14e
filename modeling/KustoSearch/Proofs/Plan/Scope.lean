import KustoSearch.Proofs.Plan.Reads
import Mathlib.Data.List.Nodup

/-! # The variables of a statement

A statement binds the selected rows and then each level of buckets, a nested one after its parent.
The outputs read each level once, and their names are the tables of the layout:
`Search.statement_scoped`.
-/

namespace KustoSearch

open Kql (Quiet Divides Leads bareWords variablesIn isVariable identifier quiet_identifier Clause)

/-! ## Clauses -/

theorem Source.bareWords_text (source : Source) : bareWords source.text = [source.text] := by
  cases source with
  | rows => exact (by decide : bareWords "_data" = ["_data"])
  | level number => exact bareWords_numbered (by decide) number

theorem Source.isVariable_text (source : Source) : isVariable source.text = true := by
  cases source with
  | rows => exact (by decide : isVariable "_data" = true)
  | level number => exact isVariable_levelVariable number

/-- An expression starts with its source and reads what its stages read. -/
theorem exists_bareWords_pipeline (source : Source) {stages : List Stage}
    (h : ∀ stage ∈ stages, stage.Chosen) : ∃ more,
      bareWords (pipeline source stages) = source.text :: more ∧
        more.filter isVariable = stages.flatMap Stage.reads := by
  cases stages with
  | nil => exact ⟨[], source.bareWords_text, rfl⟩
  | cons stage stages =>
    have hpipe : Divides " | " ∧ bareWords " | " = [] := by decide
    have hclosed : ∀ part ∈ (stage :: stages).map Stage.text,
        Kql.Quotation.outside.after part.toList = .outside := by
      intro part hpart
      obtain ⟨s, hs, rfl⟩ := List.mem_map.mp hpart
      exact (Stage.inert_of_chosen (h s hs)).closed
    -- the first bar ends the source, and the other ones stand between the stages
    refine ⟨bareWords (Text.join " | " ((stage :: stages).map Stage.text)), ?_, ?_⟩
    · show bareWords (source.text ++ " | " ++
        Text.join " | " ((stage :: stages).map Stage.text)) = _
      rw [Kql.bareWords_divided source.inert_text.closed hpipe.1, source.bareWords_text, hpipe.2]
      rfl
    · show variablesIn (Text.join " | " ((stage :: stages).map Stage.text)) = _
      rw [Kql.variablesIn_join hpipe.1 (by decide) hclosed, List.flatMap_map]
      exact List.flatMap_congr fun s hs => Stage.variablesIn_text (h s hs)

namespace Level

/-- The binding of a level without its semicolon. -/
def binding (level : Level) : String :=
  "let " ++ levelVariable level.number ++ " = " ++ pipeline .rows level.stages

/-- The binding of a level as a clause. -/
def clause (level : Level) : Clause :=
  ⟨some (levelVariable level.number), "_data" :: level.stages.flatMap Stage.reads, none⟩

theorem fragment_binding {level : Level} (h : ∀ stage ∈ level.stages, stage.Chosen) :
    Kql.Fragment level.binding [] [] 0 level.stages.length := by
  have hlet : Kql.Inert "let " := by decide
  have hequals : Kql.Inert " = " := by decide
  have hhead := (hlet.append (inert_levelVariable level.number)).append hequals
  have hline := Kql.Fragment.append hhead
    (fragment_pipeline .rows fun stage hstage => Stage.inert_of_chosen (h stage hstage))
  simpa [binding] using hline

theorem ofText_binding {level : Level} (h : ∀ stage ∈ level.stages, stage.Chosen) :
    Clause.ofText level.binding = level.clause := by
  have hlet : Leads "let " ∧ bareWords "let " = ["let"] := by decide
  have hequals : Divides " = " ∧ bareWords " = " = [] := by decide
  have hhead : Kql.Quotation.outside.after ("let " ++ levelVariable level.number).toList =
      .outside := Kql.after_append (by decide) (inert_levelVariable level.number).closed
  have hvariable : bareWords (levelVariable level.number) = [levelVariable level.number] :=
    bareWords_numbered (by decide) level.number
  obtain ⟨more, hwords, hreads⟩ := exists_bareWords_pipeline .rows h
  have hrows : isVariable Source.rows.text = true := Source.isVariable_text .rows
  rw [Clause.ofText, binding, Kql.bareWords_divided hhead hequals.1, Kql.bareWords_lead hlet.1,
    hlet.2, hvariable, hequals.2, hwords]
  show (⟨some (levelVariable level.number), (Source.rows.text :: more).filter isVariable, none⟩ :
    Clause) = _
  rw [List.filter_cons_of_pos hrows, hreads]
  rfl

end Level

namespace Output

/-- A named result as a clause. -/
def clause (o : Output) : Clause :=
  ⟨none, o.source.text :: o.stages.flatMap Stage.reads, some o.name⟩

theorem ofText_text {o : Output} (h : ∀ stage ∈ o.stages, stage.Chosen)
    (hname : bareWords o.name = [o.name]) (hnone : isVariable o.name = false) :
    Clause.ofText o.text = o.clause := by
  have has : Divides " | as " ∧ bareWords " | as " = ["as"] := by decide
  have hclosed := (fragment_pipeline o.source fun stage hstage =>
    Stage.inert_of_chosen (h stage hstage)).closed
  obtain ⟨more, hwords, hreads⟩ := exists_bareWords_pipeline o.source h
  have hsource := o.source.isVariable_text
  -- the clause is no binding, for a source is a variable
  have hlet : o.source.text ≠ "let" := by
    intro heq
    rw [heq] at hsource
    exact absurd hsource (by decide)
  have htail : ["as", o.name].filter isVariable = [] := by
    rw [List.filter_cons_of_neg (by decide), List.filter_cons_of_neg (by simp [hnone]),
      List.filter_nil]
  rw [Clause.ofText, text, Kql.bareWords_divided hclosed has.1, hwords, has.2, hname,
    List.cons_append, List.singleton_append, Clause.ofWords_result more o.name hlet,
    List.filter_cons_of_pos hsource, List.filter_append, hreads, htail, List.append_nil]
  rfl

end Output

namespace Batch

/-- The binding of the selected rows without its semicolon. -/
def rowsBinding (batch : Batch) : String :=
  "let _data = database(" ++ Kql.textLiteral batch.database ++ ")." ++
    identifier batch.table ++ " | where " ++ batch.filter.text

theorem fragment_rowsBinding {batch : Batch} (h : Kql.Inert batch.filter.text) :
    Kql.Fragment batch.rowsBinding [] [] 0 1 := by
  have hopening : Kql.Fragment "let _data = database(" [] [')'] 0 0 := by decide
  have hclosing : Kql.Fragment ")." [')'] [] 0 0 := by decide
  have hwhere : Kql.Fragment " | where " [] [] 0 1 := by decide
  have htable := ((hopening.inert (Kql.inert_textLiteral batch.database)).append hclosing).inert
    (Kql.inert_identifier batch.table)
  exact (htable.append hwhere).inert h

theorem ofText_rows {rest : String} (h : Quiet rest) :
    Clause.ofText ("let _data = database(" ++ rest) = ⟨some "_data", [], none⟩ := by
  have hlead : Leads "let _data = database(" ∧
      bareWords "let _data = database(" = ["let", "_data", "database"] := by decide
  have hnone : (bareWords rest).filter isVariable = [] := h.variablesIn_eq
  -- the rows are selected from a table of the database, and from no variable
  have hreads : ("database" :: bareWords rest).filter isVariable = [] := by
    rw [List.filter_cons_of_neg (by decide), hnone]
  rw [Clause.ofText, Kql.bareWords_lead hlead.1, hlead.2]
  exact congrArg (fun reads => (⟨some "_data", reads, none⟩ : Clause)) hreads

theorem ofText_rowsBinding {batch : Batch} (h : Quiet batch.filter.text) :
    Clause.ofText batch.rowsBinding = ⟨some "_data", [], none⟩ := by
  have hmiddle : Quiet ")." := by decide
  have hwhere : Quiet " | where " := by decide
  have htable := ((Kql.quiet_textLiteral batch.database).append hmiddle).append
    (quiet_identifier batch.table)
  have hassoc (a b c : String) : "let _data = database(" ++ a ++ ")." ++ b ++ " | where " ++ c =
      "let _data = database(" ++ (a ++ ")." ++ b ++ " | where " ++ c) := by
    simp only [String.append_assoc]
  have htext : batch.rowsBinding = "let _data = database(" ++
      (Kql.textLiteral batch.database ++ ")." ++ identifier batch.table ++ " | where " ++
        batch.filter.text) := hassoc _ _ _
  exact (congrArg Clause.ofText htext).trans
    (ofText_rows ((htable.append hwhere).append h))

/-- Bindings on lines of their own and results behind them, with semicolons between all. -/
theorem join_bindings {results : List String} (hne : results ≠ []) :
    (first : String) → (bindings : List String) →
    Text.join "\n" ((first :: bindings).map fun b => b ++ ";") ++ "\n" ++
      Text.join ";\n" results = Text.join ";\n" (first :: bindings ++ results)
  | first, [] => by
    obtain ⟨result, results, rfl⟩ := List.exists_cons_of_ne_nil hne
    simp only [List.map_cons, List.map_nil, List.cons_append, List.nil_append, Text.join,
      String.append_assoc]
    rfl
  | first, next :: bindings => by
    have ih := join_bindings hne next bindings
    simp only [List.map_cons, List.cons_append, Text.join, String.append_assoc] at ih ⊢
    rw [← ih]
    rfl

/-- The statement as its clauses. -/
theorem text_eq_join {batch : Batch} (h : batch.outputs ≠ []) : batch.text = Text.join ";\n"
    (batch.rowsBinding :: batch.levels.map Level.binding ++ batch.outputs.map Output.text) := by
  have hresults : batch.outputs.map Output.text ≠ [] := by
    simpa using h
  rw [← join_bindings hresults, List.map_cons, List.map_map]
  rfl

end Batch

/-! ## Levels -/

namespace BucketNode

theorem chosen_of_mem_stages {node : BucketNode} {stage : Stage} (h : stage ∈ node.stages) :
    stage.Chosen := Stage.chosen_of_patterns (patterns_of_mem_stages h)

/-- A level reads the level of its parent. -/
theorem reads_stages (node : BucketNode) :
    node.stages.flatMap Stage.reads = node.parent.toList.map levelVariable := by
  -- rows are looked up in the parent when there is one, and nowhere else
  have hwithin : node.withinStages.flatMap Stage.reads =
      node.parent.toList.map levelVariable := by
    unfold withinStages
    cases node.parent <;> rfl
  have hcount : node.countStages.flatMap Stage.reads = [] := by
    unfold countStages
    split_ifs <;> rfl
  have horder : (Batch.orderStages node.plan node.ancestorColumns).flatMap Stage.reads = [] := by
    unfold Batch.orderStages
    cases node.plan.limit with
    | none => rfl
    | some n => cases node.ancestorColumns <;> rfl
  rw [stages, List.flatMap_append, List.flatMap_append, List.flatMap_append, hwithin, hcount,
    horder, List.append_nil, List.append_nil]
  rfl

end BucketNode

/-! ## Outputs -/

namespace Batch

/-- Outputs of the selected rows alone, with their names. -/
structure RowOutputs (outputs : List Output) (names : List String) : Prop where
  source : ∀ o ∈ outputs, o.source = .rows
  staged : ∀ o ∈ outputs, o.stages ≠ []
  chosen : ∀ o ∈ outputs, ∀ stage ∈ o.stages, stage.Chosen
  reads : ∀ o ∈ outputs, o.stages.flatMap Stage.reads = []
  names_eq : outputs.map Output.name = names

theorem RowOutputs.nil : RowOutputs [] [] :=
  ⟨List.forall_mem_nil _, List.forall_mem_nil _, List.forall_mem_nil _, List.forall_mem_nil _,
    rfl⟩

theorem RowOutputs.append {outputs more : List Output} {names moreNames : List String}
    (h : RowOutputs outputs names) (h' : RowOutputs more moreNames) :
    RowOutputs (outputs ++ more) (names ++ moreNames) where
  source := List.forall_mem_append.mpr ⟨h.source, h'.source⟩
  staged := List.forall_mem_append.mpr ⟨h.staged, h'.staged⟩
  chosen := List.forall_mem_append.mpr ⟨h.chosen, h'.chosen⟩
  reads := List.forall_mem_append.mpr ⟨h.reads, h'.reads⟩
  names_eq := by rw [List.map_append, h.names_eq, h'.names_eq]

theorem RowOutputs.single {stages : List Stage} (name : String) (hne : stages ≠ [])
    (hchosen : ∀ stage ∈ stages, stage.Chosen) (hreads : stages.flatMap Stage.reads = []) :
    RowOutputs [⟨.rows, stages, name⟩] [name] :=
  ⟨List.forall_mem_singleton.mpr rfl, List.forall_mem_singleton.mpr hne,
    List.forall_mem_singleton.mpr hchosen, List.forall_mem_singleton.mpr hreads, rfl⟩

theorem rowOutputs_metricOutputs {metrics : List MetricPlan} {outputs : List Output}
    (h : metricOutputs metrics = .ok outputs) :
    RowOutputs outputs (if outputs.isEmpty then [] else [Layout.metricsTable]) := by
  unfold metricOutputs at h
  split_ifs at h
  · cases h
    exact .nil
  · obtain ⟨_, _, h⟩ := Outcome.bind_eq_ok.mp h
    cases h
    have hchosen : (Stage.summarize (columnsOf metrics)).Chosen := Stage.chosen_of_patterns rfl
    exact .single Layout.metricsTable (List.cons_ne_nil _ _)
      (List.forall_mem_singleton.mpr hchosen) rfl

/-- The columns that a hit has are chosen by names. -/
theorem chosen_of_columnPatterns {names : List String} {patterns : List ColumnPattern}
    (h : names.mapM columnPattern = .ok patterns) :
    ∀ p ∈ patterns, ∃ name, columnPattern name = .ok p := by
  have hall := Outcome.mapM_eq_ok.mp h
  clear h
  induction hall with
  | nil => exact fun p hp => nomatch hp
  | cons hname _ ih => exact List.forall_mem_cons.mpr ⟨⟨_, hname⟩, ih⟩

theorem chosen_sourceStages {source : SourceSelection} {stages : List Stage}
    (h : sourceStages source = .ok stages) :
    (∀ stage ∈ stages, stage.Chosen) ∧ stages.flatMap Stage.reads = [] := by
  cases source with
  | all =>
    cases h
    exact ⟨List.forall_mem_nil _, rfl⟩
  | none =>
    cases h
    exact ⟨List.forall_mem_nil _, rfl⟩
  | only includes excludes =>
    obtain ⟨keep, hkeep, h⟩ := Outcome.bind_eq_ok.mp h
    obtain ⟨drop, hdrop, h⟩ := Outcome.bind_eq_ok.mp h
    cases h
    have hkept : (Stage.keepColumns keep).Chosen := chosen_of_columnPatterns hkeep
    have hdropped : (Stage.dropColumns drop).Chosen := chosen_of_columnPatterns hdrop
    constructor
    · refine List.forall_mem_append.mpr ⟨?_, ?_⟩
      · split_ifs
        · exact List.forall_mem_nil _
        · exact List.forall_mem_singleton.mpr hkept
      · split_ifs
        · exact List.forall_mem_nil _
        · exact List.forall_mem_singleton.mpr hdropped
    · rw [List.flatMap_append]
      split_ifs <;> rfl

theorem chosen_hitStages {hits : HitSelection} {stages : List Stage}
    (h : hitStages hits = .ok stages) :
    (∀ stage ∈ stages, stage.Chosen) ∧ stages.flatMap Stage.reads = [] := by
  obtain ⟨source, hsource, h⟩ := Outcome.bind_eq_ok.mp h
  cases h
  obtain ⟨hchosen, hreads⟩ := chosen_sourceStages hsource
  constructor
  · refine List.forall_mem_append.mpr ⟨List.forall_mem_append.mpr
      ⟨List.forall_mem_append.mpr ⟨?_, ?_⟩, ?_⟩, hchosen⟩
    · split_ifs
      · exact List.forall_mem_nil _
      · exact List.forall_mem_singleton.mpr (Stage.chosen_of_patterns rfl)
    · split_ifs
      · exact List.forall_mem_nil _
      · intro stage hstage
        simp only [List.mem_cons, List.not_mem_nil, or_false] at hstage
        rcases hstage with rfl | rfl | rfl <;> exact Stage.chosen_of_patterns rfl
    · exact List.forall_mem_singleton.mpr (Stage.chosen_of_patterns rfl)
  · rw [List.flatMap_append, hreads, List.append_nil, List.flatMap_append, List.flatMap_append]
    split_ifs <;> rfl

/-- Hits are always limited in number. -/
theorem ne_nil_of_hitStages {hits : HitSelection} {stages : List Stage}
    (h : hitStages hits = .ok stages) : stages ≠ [] := by
  obtain ⟨source, _, h⟩ := Outcome.bind_eq_ok.mp h
  cases h
  simp

/-- The outputs for hits and for their number are those of the layout. -/
theorem rowOutputs_hitOutputs {hits : HitSelection} {others : Bool} {outputs : List Output}
    {layout : Layout} (h : hitOutputs hits others = .ok (outputs, layout)) :
    RowOutputs outputs (layout.total.toList ++ layout.hits.toList) ∧
      (layout.total.toList ++ layout.hits.toList).Sublist
        [Layout.totalTable, Layout.hitsTable] := by
  have htotal : RowOutputs [totalOutput] [Layout.totalTable] :=
    .single Layout.totalTable (List.cons_ne_nil _ _)
      (List.forall_mem_singleton.mpr (Stage.chosen_of_patterns rfl)) rfl
  unfold hitOutputs at h
  split_ifs at h with hnone hcounted hboth
  · cases h
    exact ⟨htotal, by decide⟩
  · cases h
    exact ⟨.nil, by decide⟩
  · obtain ⟨stages, hstages, h⟩ := Outcome.bind_eq_ok.mp h
    cases h
    obtain ⟨hchosen, hreads⟩ := chosen_hitStages hstages
    have hne := ne_nil_of_hitStages hstages
    exact ⟨htotal.append (.single Layout.hitsTable hne hchosen hreads), by decide⟩
  · obtain ⟨stages, hstages, h⟩ := Outcome.bind_eq_ok.mp h
    cases h
    obtain ⟨hchosen, hreads⟩ := chosen_hitStages hstages
    exact ⟨.single Layout.hitsTable (ne_nil_of_hitStages hstages) hchosen hreads, by decide⟩

end Batch

/-! ## The whole statement -/

/-- The tables of a layout: those of the buckets, of metrics, of the number of hits and of hits. -/
def Layout.tables (layout : Layout) : List String :=
  layout.buckets.map BucketTable.table ++ layout.metrics.toList ++ layout.total.toList ++
    layout.hits.toList

theorem Level.isVariable_table (level : Level) : isVariable level.table = false := by
  have htext : level.table.toList = 'a' :: 'g' :: 'g' :: Text.decimal level.number := by
    simp [table]
  rw [isVariable, htext]
  rfl

/-- The table of a level has a digit where other tables have a letter. -/
theorem Level.table_ne {level : Level} {name : String}
    (h : name ∈ [Layout.metricsTable, Layout.totalTable, Layout.hitsTable]) :
    level.table ≠ name := by
  intro heq
  have htext : 'a' :: 'g' :: 'g' :: Text.decimal level.number = name.toList := by
    rw [← heq]
    simp [table]
  obtain ⟨digit, digits, hdigits⟩ := List.exists_cons_of_ne_nil (Text.decimal_ne_nil level.number)
  have hdigit : Text.isDigit digit = true :=
    Text.isDigit_of_mem_decimal digit (by rw [hdigits]; exact List.mem_cons_self)
  rw [hdigits] at htext
  simp only [List.mem_cons, List.not_mem_nil, or_false] at h
  rcases h with rfl | rfl | rfl
  · cases htext
    exact absurd hdigit (by decide)
  · cases htext
  · cases htext

namespace Batch

/-- The outputs of a statement: one for each level, and those of the selected rows alone. -/
structure OutputsAre (batch : Batch) (others : List Output) (names : List String) : Prop where
  outputs_eq : batch.outputs = batch.levels.map levelOutput ++ others
  rows : RowOutputs others names
  sublist : names.Sublist [Layout.metricsTable, Layout.totalTable, Layout.hitsTable]
  tables_eq : batch.layout.tables = batch.levels.map Level.table ++ names

end Batch

theorem Plan.exists_outputs {plan : Plan} {database : String} {batch : Batch}
    (h : plan.batch database = .ok batch) : ∃ others names, batch.OutputsAre others names := by
  obtain ⟨⟨_, _⟩, _, h⟩ := Outcome.bind_eq_ok.mp h
  obtain ⟨levels, _, h⟩ := Outcome.bind_eq_ok.mp h
  obtain ⟨metrics, hmetrics, h⟩ := Outcome.bind_eq_ok.mp h
  obtain ⟨⟨hits, layout⟩, hhits, h⟩ := Outcome.bind_eq_ok.mp h
  cases h
  obtain ⟨hrows, hsublist⟩ := Batch.rowOutputs_hitOutputs hhits
  refine ⟨metrics ++ hits, _, ?_, (Batch.rowOutputs_metricOutputs hmetrics).append hrows, ?_, ?_⟩
  · exact List.append_assoc _ _ _
  · split_ifs
    · exact hsublist.cons Layout.metricsTable
    · exact hsublist.cons_cons Layout.metricsTable
  · have hmetricsTable : (if metrics.isEmpty then none else some Layout.metricsTable).toList =
        if metrics.isEmpty then [] else [Layout.metricsTable] := by
      split_ifs <;> rfl
    simp only [Layout.tables, List.map_map, hmetricsTable, List.append_assoc]
    rfl

namespace Batch

variable {levels : List Level} {others : List Output} {names : List String}

/-- The clauses of some levels and outputs. -/
def clausesOf (levels : List Level) (outputs : List Output) : List Clause :=
  ⟨some "_data", [], none⟩ :: (levels.map Level.clause ++ outputs.map Output.clause)

/-- Behind the selected rows the levels are bound in their order. -/
theorem bindings_take (hnumbers : levels.map Level.number = List.range levels.length)
    (outputs : List Output) (i : Nat) :
    ((clausesOf levels outputs).take (i + 1)).filterMap Clause.binds =
      "_data" :: (List.range (min i levels.length)).map levelVariable := by
  have hlevels : ((levels.map Level.clause).take i).filterMap Clause.binds =
      (List.range (min i levels.length)).map levelVariable := by
    rw [← List.take_range, ← hnumbers, ← List.map_take, ← List.map_take, List.filterMap_map,
      List.map_map]
    exact congrFun List.filterMap_eq_map _
  have houtputs (j : Nat) : ((outputs.map Output.clause).take j).filterMap Clause.binds = [] := by
    refine List.filterMap_eq_nil_iff.mpr fun clause hclause => ?_
    obtain ⟨o, _, rfl⟩ := List.mem_map.mp (List.mem_of_mem_take hclause)
    rfl
  rw [clausesOf, List.take_succ_cons, List.take_append]
  refine congrArg ("_data" :: ·) ?_
  rw [List.filterMap_append, hlevels, houtputs, List.append_nil]

theorem bindings_clausesOf (hnumbers : levels.map Level.number = List.range levels.length)
    (outputs : List Output) : (clausesOf levels outputs).filterMap Clause.binds =
      "_data" :: (List.range levels.length).map levelVariable := by
  have hall := bindings_take hnumbers outputs (levels.length + outputs.length)
  rwa [List.take_of_length_le (by simp [clausesOf]), Nat.min_eq_right (by omega)] at hall

theorem nodup_bindings (n : Nat) : ("_data" :: (List.range n).map levelVariable).Nodup := by
  have hnodup := List.Nodup.map levelVariable_injective (List.nodup_range (n := n))
  refine List.nodup_cons.mpr ⟨fun hmem => ?_, hnodup⟩
  obtain ⟨k, _, hk⟩ := List.mem_map.mp hmem
  exact levelVariable_ne_data k hk

/-- The results of a statement are its outputs. -/
theorem results_clausesOf (levels : List Level) (outputs : List Output) :
    (clausesOf levels outputs).filter (fun c => c.binds.isNone) = outputs.map Output.clause := by
  have hlevels : (levels.map Level.clause).filter (fun c => c.binds.isNone) = [] := by
    refine List.filter_eq_nil_iff.mpr fun clause hclause => ?_
    obtain ⟨level, _, rfl⟩ := List.mem_map.mp hclause
    exact Bool.false_ne_true
  have houtputs : (outputs.map Output.clause).filter (fun c => c.binds.isNone) =
      outputs.map Output.clause := by
    refine List.filter_eq_self.mpr fun clause hclause => ?_
    obtain ⟨o, _, rfl⟩ := List.mem_map.mp hclause
    rfl
  rw [clausesOf, List.filter_cons_of_neg Bool.false_ne_true, List.filter_append, hlevels,
    houtputs, List.nil_append]

/-- What the outputs read: each level, and the selected rows. -/
theorem reads_outputs (levels : List Level) (hothers : RowOutputs others names) :
    ((levels.map levelOutput ++ others).map Output.clause).flatMap Clause.reads =
      levels.map (fun level => levelVariable level.number) ++
        List.replicate others.length "_data" := by
  have hlevels : ((levels.map levelOutput).map Output.clause).flatMap Clause.reads =
      levels.map (fun level => levelVariable level.number) := by
    rw [List.map_map, List.flatMap_map]
    exact List.flatMap_pure_eq_map _ _
  have hrows : (others.map Output.clause).flatMap Clause.reads =
      others.map fun _ => "_data" := by
    rw [List.flatMap_map, List.map_eq_flatMap]
    refine List.flatMap_congr fun o ho => ?_
    rw [Output.clause, hothers.source o ho, hothers.reads o ho]
    rfl
  rw [List.map_append, List.flatMap_append, hlevels, hrows, List.map_const']

/-- What a clause reads are the selected rows, or a level that is bound before it. -/
theorem reads_bound (hnumbers : levels.map Level.number = List.range levels.length)
    (hreads : ∀ i level, levels[i]? = some level → ∀ v ∈ level.stages.flatMap Stage.reads,
      ∃ k < i, v = levelVariable k)
    (hothers : RowOutputs others names) {i : Nat} {clause : Clause}
    (hclause : (levels.map Level.clause ++
      (levels.map levelOutput ++ others).map Output.clause)[i]? = some clause)
    {v : String} (hv : v ∈ clause.reads) :
    v = "_data" ∨ ∃ k ∈ List.range (min i levels.length), levelVariable k = v := by
  by_cases hi : i < levels.length
  · rw [List.getElem?_append_left (by simpa using hi), List.getElem?_map,
      Option.map_eq_some_iff] at hclause
    -- a level, which reads the selected rows and the level of its parent
    obtain ⟨level, hlevel, rfl⟩ := hclause
    rcases List.mem_cons.mp hv with hv | hv
    · exact Or.inl hv
    · obtain ⟨k, hk, rfl⟩ := hreads i level hlevel v hv
      exact Or.inr ⟨k, List.mem_range.mpr (by omega), rfl⟩
  · -- an output, behind all levels
    rw [List.getElem?_append_right (by simpa using hi)] at hclause
    have hmem : v ∈ ((levels.map levelOutput ++ others).map Output.clause).flatMap
        Clause.reads := List.mem_flatMap.mpr ⟨clause, List.mem_of_getElem? hclause, hv⟩
    rw [reads_outputs levels hothers, List.mem_append] at hmem
    rcases hmem with hmem | hmem
    · obtain ⟨level, hlevel, rfl⟩ := List.mem_map.mp hmem
      have hnumber : level.number ∈ List.range levels.length := by
        rw [← hnumbers]
        exact List.mem_map_of_mem hlevel
      rw [Nat.min_eq_right (by omega)]
      exact Or.inr ⟨level.number, hnumber, rfl⟩
    · exact Or.inl (List.eq_of_mem_replicate hmem)

/-- A level that is bound is read by one output. -/
theorem count_reads_outputs (hnumbers : levels.map Level.number = List.range levels.length)
    (hothers : RowOutputs others names) {v : String} (hdata : v ≠ "_data")
    (hv : v ∈ (List.range levels.length).map levelVariable) :
    (((levels.map levelOutput ++ others).map Output.clause).flatMap Clause.reads).count v = 1 := by
  rw [reads_outputs levels hothers, List.count_append,
    List.count_eq_zero.mpr fun hmem => hdata (List.eq_of_mem_replicate hmem)]
  -- the numbers of the levels are different, so that no level is read twice
  have hmap : levels.map (fun level => levelVariable level.number) =
      (List.range levels.length).map levelVariable := by
    rw [← hnumbers, List.map_map]
    rfl
  have hnodup := (List.nodup_cons.mp (nodup_bindings levels.length)).2
  rw [hmap, List.count_eq_one_of_mem hnodup hv]

/-- The names of the outputs are different. -/
theorem nodup_tables (hnumbers : levels.map Level.number = List.range levels.length)
    (hnames : names.Sublist [Layout.metricsTable, Layout.totalTable, Layout.hitsTable]) :
    (levels.map Level.table ++ names).Nodup := by
  refine List.nodup_append.mpr ⟨?_, hnames.nodup (by decide), ?_⟩
  · have hmap : levels.map Level.table =
        (List.range levels.length).map fun number => "agg" ++ Text.naturalText number := by
      rw [← hnumbers, List.map_map]
      rfl
    rw [hmap]
    exact List.Nodup.map (numbered_injective "agg") List.nodup_range
  · intro table htable name hname
    obtain ⟨level, _, rfl⟩ := List.mem_map.mp htable
    exact Level.table_ne (hnames.subset hname)

/-- Levels in the order of their numbers, each below an earlier one, are well scoped. -/
theorem wellScoped_clausesOf (hnumbers : levels.map Level.number = List.range levels.length)
    (hreads : ∀ i level, levels[i]? = some level → ∀ v ∈ level.stages.flatMap Stage.reads,
      ∃ k < i, v = levelVariable k)
    (hothers : RowOutputs others names)
    (hnames : names.Sublist [Layout.metricsTable, Layout.totalTable, Layout.hitsTable])
    (hne : levels.map levelOutput ++ others ≠ []) :
    Kql.WellScoped (clausesOf levels (levels.map levelOutput ++ others))
      (levels.map Level.table ++ names) := by
  have htables : (levels.map levelOutput ++ others).map Output.name =
      levels.map Level.table ++ names := by
    rw [List.map_append, List.map_map, hothers.names_eq]
    rfl
  constructor
  case bound =>
    intro i clause hclause v hv
    cases i with
    | zero =>
      -- the selected rows, which read nothing
      cases hclause
      cases hv
    | succ i =>
      rw [bindings_take hnumbers]
      refine List.count_eq_one_of_mem (nodup_bindings _) ?_
      rw [clausesOf, List.getElem?_cons_succ] at hclause
      rw [List.mem_cons, List.mem_map]
      exact reads_bound hnumbers hreads hothers hclause hv
  case output =>
    intro v hv hdata
    rw [bindings_clausesOf hnumbers] at hv
    rw [results_clausesOf]
    exact count_reads_outputs hnumbers hothers hdata (List.mem_of_ne_of_mem hdata hv)
  case names => rw [results_clausesOf, List.map_map, ← htables, List.map_map]; rfl
  case distinct => exact nodup_tables hnumbers hnames
  case nonempty =>
    rw [← htables]
    simpa using hne

/-- What the outputs of a statement look like. -/
theorem OutputsAre.of_mem {batch : Batch} (h : batch.OutputsAre others names) {o : Output}
    (ho : o ∈ batch.outputs) : (∀ stage ∈ o.stages, stage.Chosen) ∧ Kql.Inert o.name ∧
      bareWords o.name = [o.name] ∧ isVariable o.name = false := by
  rw [h.outputs_eq, List.mem_append] at ho
  rcases ho with ho | ho
  · -- an output of a level has no stages, and its name is numbered
    obtain ⟨level, _, rfl⟩ := List.mem_map.mp ho
    have hname : Kql.Inert (levelOutput level).name :=
      Kql.Inert.append (by decide) (Kql.inert_naturalText level.number)
    exact ⟨List.forall_mem_nil _, hname, bareWords_numbered (by decide) level.number,
      level.isVariable_table⟩
  · have hname : o.name ∈ names := by
      rw [← h.rows.names_eq]
      exact List.mem_map_of_mem ho
    have hall : ∀ name ∈ [Layout.metricsTable, Layout.totalTable, Layout.hitsTable],
        Kql.Inert name ∧ bareWords name = [name] ∧ isVariable name = false := by
      decide
    exact ⟨h.rows.chosen o ho, hall o.name (h.sublist.subset hname)⟩

/-- No clause has a semicolon of its own. -/
theorem OutputsAre.exists_fragment {batch : Batch} (h : batch.OutputsAre others names)
    (hfilter : Kql.Inert batch.filter.text)
    (hlevels : ∀ level ∈ batch.levels, ∀ stage ∈ level.stages, stage.Chosen) :
    ∀ part ∈ batch.rowsBinding :: batch.levels.map Level.binding ++ batch.outputs.map Output.text,
      ∃ pipes, Kql.Fragment part [] [] 0 pipes := by
  rw [List.forall_mem_append, List.forall_mem_cons, List.forall_mem_map, List.forall_mem_map]
  refine ⟨⟨⟨_, fragment_rowsBinding hfilter⟩, fun level hlevel => ?_⟩, fun o ho => ?_⟩
  · exact ⟨_, Level.fragment_binding (hlevels level hlevel)⟩
  · obtain ⟨hstages, hname, _⟩ := h.of_mem ho
    exact ⟨_, Output.fragment_text
      (fun stage hstage => Stage.inert_of_chosen (hstages stage hstage)) hname⟩

/-- A statement is read as its bindings and named results. -/
theorem clauses_text {batch : Batch} (h : batch.OutputsAre others names)
    (hne : batch.outputs ≠ []) (hfilter : Kql.Inert batch.filter.text)
    (hquiet : Quiet batch.filter.text)
    (hlevels : ∀ level ∈ batch.levels, ∀ stage ∈ level.stages, stage.Chosen) :
    Kql.clauses batch.text = clausesOf batch.levels batch.outputs := by
  have hpartsNe : batch.rowsBinding :: batch.levels.map Level.binding ++
      batch.outputs.map Output.text ≠ [] :=
    List.append_ne_nil_of_left_ne_nil (List.cons_ne_nil _ _) _
  have hlevelClauses : (batch.levels.map Level.binding).map Clause.ofText =
      batch.levels.map Level.clause := by
    rw [List.map_map]
    refine List.map_congr_left fun level hlevel => ?_
    rw [Function.comp_apply, Level.ofText_binding (hlevels level hlevel)]
  have houtputClauses : (batch.outputs.map Output.text).map Clause.ofText =
      batch.outputs.map Output.clause := by
    rw [List.map_map]
    refine List.map_congr_left fun o ho => ?_
    obtain ⟨hstages, _, hwords, hnone⟩ := h.of_mem ho
    rw [Function.comp_apply, Output.ofText_text hstages hwords hnone]
  rw [text_eq_join hne, Kql.clauses_join hpartsNe (h.exists_fragment hfilter hlevels),
    List.map_append, List.map_cons, hlevelClauses, houtputClauses, ofText_rowsBinding hquiet]
  rfl

end Batch

theorem Search.quiet_filter {search : Search} {plan : Plan} (h : search.plan = .ok plan) :
    Quiet plan.filter.text := by
  obtain ⟨filter, hfilter, h⟩ := Outcome.bind_eq_ok.mp h
  obtain ⟨aggregations, _, h⟩ := Outcome.bind_eq_ok.mp h
  cases h
  exact Kql.Predicate.quiet_text (search.query.says_predicate hfilter).readable

/-- Each variable that the statement of a search reads is bound before it, once. Each level of
buckets that is bound is read by one output. The names of the outputs are different, and they are
the tables of the layout, of which there is at least one; the tables of the buckets are those of
the bucket aggregations of the search in pre-order. -/
theorem Search.statement_scoped {search : Search} {plan : Plan} {database : String}
    {batch : Batch} (hplan : search.plan = .ok plan) (hbatch : plan.batch database = .ok batch) :
    Kql.WellScoped (Kql.clauses batch.text) batch.layout.tables ∧
      batch.layout.buckets = (Aggregation.levelColumnsOfAll [] search.aggregations).mapIdx
        fun number level => level.table number := by
  have hnodes := plan.levels_of_batch hbatch
  have hne := (plan.fragments_outputs hbatch).1
  have hfilter := plan.filter_of_batch hbatch
  obtain ⟨others, names, houtputs⟩ := plan.exists_outputs hbatch
  have hchosen : ∀ level ∈ batch.levels, ∀ stage ∈ level.stages, stage.Chosen := by
    rw [hnodes.levels_eq, List.forall_mem_map]
    exact fun node _ stage hstage => BucketNode.chosen_of_mem_stages hstage
  have hnumbers : batch.levels.map Level.number = List.range batch.levels.length := by
    rw [hnodes.length, AggregationPlan.length_nodesOfAll, List.range_eq_range',
      ← AggregationPlan.map_number_nodesOfAll 0 none [] plan.aggregations, hnodes.levels_eq,
      List.map_map]
    rfl
  have hreads : ∀ i level, batch.levels[i]? = some level →
      ∀ v ∈ level.stages.flatMap Stage.reads, ∃ k < i, v = levelVariable k := by
    intro i level hlevel v hv
    rw [hnodes.levels_eq, List.getElem?_map, Option.map_eq_some_iff] at hlevel
    obtain ⟨node, hnode, rfl⟩ := hlevel
    rw [show node.level.stages = node.stages from rfl, node.reads_stages, List.mem_map] at hv
    obtain ⟨k, hk, rfl⟩ := hv
    -- the number of a node is its place, and its parent has a lower one
    have hlt := Plan.parent_lt (List.mem_of_getElem? hnode) (Option.mem_toList.mp hk)
    rw [AggregationPlan.number_of_getElem? hnode] at hlt
    exact ⟨k, hlt, rfl⟩
  refine ⟨?_, ?_⟩
  · rw [Batch.clauses_text houtputs hne (hfilter ▸ inert_filter hplan)
      (hfilter ▸ quiet_filter hplan) hchosen, houtputs.tables_eq, houtputs.outputs_eq]
    exact Batch.wellScoped_clausesOf hnumbers hreads houtputs.rows houtputs.sublist
      (houtputs.outputs_eq ▸ hne)
  · rw [(plan.laidOut_of_batch hbatch).buckets, map_table_nodes hplan]

/-- A search whose names and column patterns look like variables. -/
def lookalikeSearch : Search where
  index := "_data"
  query := .term "_agg0" (.string "_agg1") false
  aggregations := [.node "_agg0" (.terms "_data" 10 .countDesc 2)
    [.node "_agg1" (.terms "user" 5 .keyAsc 1) []], .node "_data" (.metric "cpu" .avg none) []]
  hits := ⟨0, 3, [⟨"_agg2", true⟩], .only ["_agg0*", "_data"] ["*_data"], true⟩

theorem Search.statement_scoped_lookalike :
    ∃ plan batch, lookalikeSearch.plan = .ok plan ∧ plan.batch "telemetry" = .ok batch ∧
      Kql.WellScoped (Kql.clauses batch.text) ["agg0", "agg1", "aggs", "hitsTotal", "hits"] := by
  have hplan : ∃ plan, lookalikeSearch.plan = .ok plan := ⟨_, rfl⟩
  obtain ⟨plan, hplan⟩ := hplan
  have hbatch : ∃ batch, plan.batch "telemetry" = .ok batch ∧ batch.layout.tables =
      ["agg" ++ Text.naturalText 0, "agg" ++ Text.naturalText 1, "aggs", "hitsTotal", "hits"] := by
    cases hplan
    exact ⟨_, rfl, rfl⟩
  obtain ⟨batch, hbatch, htables⟩ := hbatch
  have hzero : "agg" ++ Text.naturalText 0 = "agg0" := by
    rw [Text.naturalText, Text.decimal_of_lt (by decide)]
    rfl
  have hone : "agg" ++ Text.naturalText 1 = "agg1" := by
    rw [Text.naturalText, Text.decimal_of_lt (by decide)]
    rfl
  have hscoped := (statement_scoped hplan hbatch).1
  rw [htables, hzero, hone] at hscoped
  exact ⟨plan, batch, hplan, hbatch, hscoped⟩

end KustoSearch
