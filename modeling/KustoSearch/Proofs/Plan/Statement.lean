import KustoSearch.Proofs.Plan.Mentions
import KustoSearch.Proofs.Plan.StageSteps

/-! # The statement of a search, read back

The text of a statement is read as the rows that it selects, one binding for each level of buckets
with the steps of the level, and the results that show these bindings: `Search.read?_text`.
-/

namespace KustoSearch

open Kql (Binding Padded Scans Selection Statement Step StepText Whole identifier pieces)

/-! ## Levels -/

/-- What the level of a node is read as. -/
def BucketNode.binding (node : BucketNode) : Binding :=
  ⟨levelVariable node.number, "_data", node.steps⟩

/-- What is read of the result that shows the level of a node. -/
def BucketNode.result (node : BucketNode) : String × String :=
  (levelVariable node.number, node.table.table)

/-- A first part that is longer at its beginning. -/
theorem Text.append_join (separator start first : String) (rest : List String) :
    start ++ join separator (first :: rest) = join separator ((start ++ first) :: rest) := by
  cases rest with
  | nil => rfl
  | cons next rest => simp only [join, String.append_assoc]

/-- The binding of a level is read as its steps. -/
theorem BucketNode.read?_binding {plans : List AggregationPlan} {node : BucketNode}
    (h : node ∈ AggregationPlan.nodesOfAll 0 none [] plans) :
    Binding.read? node.level.binding.toList = some node.binding := by
  have hhead : Scans ("let " ++ levelVariable node.number ++ " = " ++ "_data").toList
      [.name "let", .name (levelVariable node.number), .mark "=", .name "_data"] := by
    have hscan := Kql.scans_blank (Kql.scans_blank (Kql.scans_blank
      (Kql.Scalar.scans_word "let" (by decide)) (Stage.scans_levelVariable node.number))
      (Kql.scans_operator "=" (by decide) (by decide))) (Kql.Scalar.scans_word "_data" (by decide))
    have htext (name : String) : "let" ++ " " ++ name ++ " " ++ "=" ++ " " ++ "_data" =
        "let " ++ name ++ " = " ++ "_data" := by
      rw [← String.toList_inj]
      simp
    rw [htext] at hscan
    exact hscan
  have hwhole : Whole '|' ("let " ++ levelVariable node.number ++ " = " ++ "_data").toList := by
    have hlet : Kql.Inert "let " := by decide
    have hequals : Kql.Inert " = " := by decide
    have hdata : Kql.Inert "_data" := by decide
    exact (((hlet.append (inert_levelVariable node.number)).append hequals).append hdata).whole
  -- a pipe in the text of a stage stands in quotes
  have hstages : ∀ s ∈ node.stages.map Stage.text, Whole '|' s.toList :=
    List.forall_mem_map.mpr fun stage hstage =>
      (Stage.inert_of_chosen (chosen_of_mem_stages hstage)).whole
  obtain ⟨first, parts, hpieces, hpadded, hsteps⟩ := Kql.exists_pieces_join hwhole hstages
    (stepTexts (ancestorColumns_ne_nil h))
  rw [← Text.append_join] at hpieces
  have htext : node.level.binding = "let " ++ levelVariable node.number ++ " = " ++
      Text.join " | " ("_data" :: node.stages.map Stage.text) := rfl
  rw [Binding.read?, htext, hpieces]
  simp only [hhead.tokens?_padded hpadded, hsteps]
  rfl

/-! ## The selected rows -/

namespace Batch

/-- What the selected rows are read as. -/
def selection (batch : Batch) : Selection :=
  ⟨"_data", batch.database, batch.table, [.filter (Kql.tokensOf batch.filter.text)]⟩

/-- The table that rows are selected from, in front of the point. -/
def databaseText (database : String) : String :=
  "let _data = database(" ++ Kql.textLiteral database ++ ")"

theorem scans_databaseText (database : String) : Scans (databaseText database).toList
    [.name "let", .name "_data", .mark "=", .name "database", .opening, .text database,
      .closing] := by
  have htext (literal : String) : "let" ++ " " ++ "_data" ++ " " ++ "=" ++ " " ++
      ("database" ++ ("(" ++ literal ++ ")")) = "let _data = database(" ++ literal ++ ")" := by
    rw [← String.toList_inj]
    simp
  have hbracket : Scans ("(" ++ Kql.textLiteral database ++ ")").toList
      [.opening, .text database, .closing] := by
    have hscan := (Kql.scans_textLiteral database).group
    simpa using hscan
  have hcall : Scans ("database" ++ ("(" ++ Kql.textLiteral database ++ ")")).toList
      [.name "database", .opening, .text database, .closing] := by
    rw [String.toList_append]
    refine (Kql.Scalar.scans_word "database" (by decide)).append hbracket fun rest _ => ?_
    simpa using Kql.atEnd_opening _
  have hscan := Kql.scans_blank (Kql.scans_blank (Kql.scans_blank
    (Kql.Scalar.scans_word "let" (by decide)) (Kql.Scalar.scans_word "_data" (by decide)))
    (Kql.scans_operator "=" (by decide) (by decide))) hcall
  rw [htext] at hscan
  exact hscan

theorem whole_databaseText (database : String) : Whole '.' (databaseText database).toList := by
  have hopening : Whole '.' "let _data = database(".toList := by decide
  have hclosing : Whole '.' ")".toList := by decide
  have hliteral : Whole '.' (Kql.textLiteral database).toList := by
    obtain ⟨hclosed, hbare⟩ := Kql.outside_textLiteral database
    refine ⟨hclosed, ?_⟩
    rw [hbare]
    exact List.not_mem_nil
  have hwhole := (hopening.append hliteral).append hclosing
  rw [← String.toList_append, ← String.toList_append] at hwhole
  exact hwhole

/-- The table that rows are selected from. -/
theorem tokens?_tableText (database table : String) {cs : List Char}
    (h : Padded (Text.join "." [databaseText database, identifier table]).toList cs) :
    (pieces '.' cs).mapM Kql.tokens? =
      some [[.name "let", .name "_data", .mark "=", .name "database", .opening, .text database,
        .closing], [.column table]] := by
  obtain ⟨before, after, hbefore, hafter, rfl⟩ := h
  have hwhole : ∀ part ∈ [databaseText database, identifier table], Whole '.' part.toList :=
    List.forall_mem_cons.mpr ⟨whole_databaseText database,
      List.forall_mem_singleton.mpr (Kql.whole_identifier table (by decide))⟩
  have hpieces := Kql.pieces_join Kql.separator_point (List.cons_ne_nil _ _) hwhole hbefore hafter
  generalize pieces '.' _ = found at hpieces ⊢
  obtain _ | ⟨hdatabase, _ | ⟨htable, _ | _⟩⟩ := hpieces
  simp [List.mapM_cons, (scans_databaseText database).tokens?_padded hdatabase,
    (Kql.scans_identifier table).tokens?_padded htable]

theorem inert_tableText (database table : String) :
    Kql.Inert (Text.join "." [databaseText database, identifier table]) := by
  have hopening : Kql.Fragment "let _data = database(" [] [')'] 0 0 := by decide
  have hpoint : Kql.Inert "." := by decide
  have hdatabase : Kql.Inert (databaseText database) :=
    (hopening.inert (Kql.inert_textLiteral database)).close
  exact (hdatabase.append hpoint).append (Kql.inert_identifier table)

/-- The tokens of a condition. -/
theorem scans_filter {filter : Kql.Predicate} (h : filter.Readable) :
    Scans filter.text.toList (Kql.tokensOf filter.text) := by
  obtain ⟨_, ⟨ts, hscan, _⟩, _⟩ := Kql.Predicate.conditionText h
  rw [Kql.tokensOf, hscan.tokens?_eq, Option.getD_some]
  exact hscan

/-- The selected rows are read as the table and the condition. -/
theorem read?_rowsBinding {batch : Batch} (h : batch.filter.Readable)
    (hinert : Kql.Inert batch.filter.text) :
    Selection.read? batch.rowsBinding.toList = some batch.selection := by
  have hwhere : Kql.Inert "where" := by decide
  have hblank : Kql.Inert " " := by decide
  obtain ⟨first, parts, hpieces, hpadded, hsteps⟩ := Kql.exists_pieces_join
    (inert_tableText batch.database batch.table).whole
    (List.forall_mem_singleton.mpr ((hwhere.append hblank).append hinert).whole)
    (.cons (Stage.stepText_filter (scans_filter h)) .nil)
  have htext (literal table filter : String) :
      Text.join " | " [Text.join "." ["let _data = database(" ++ literal ++ ")", table],
        "where" ++ " " ++ filter] =
      "let _data = database(" ++ literal ++ ")." ++ table ++ " | where " ++ filter := by
    rw [← String.toList_inj]
    simp [Text.join]
  have hbinding : batch.rowsBinding = Text.join " | "
      [Text.join "." [databaseText batch.database, identifier batch.table],
        "where" ++ " " ++ batch.filter.text] := (htext _ _ _).symm
  rw [Selection.read?, hbinding, hpieces]
  simp only [tokens?_tableText batch.database batch.table hpadded, hsteps]
  rfl

end Batch

/-! ## Results -/

namespace Output

/-- A result starts with its source. -/
theorem exists_toList_text (o : Output) : ∃ cs, o.text.toList = '_' :: cs := by
  have hsource : ∃ cs, o.source.text.toList = '_' :: cs := by
    cases o.source with
    | rows => exact ⟨_, rfl⟩
    | level number => exact ⟨_, String.toList_append⟩
  have hjoin : ∃ more, o.text = o.source.text ++ more := by
    rw [text, pipeline]
    cases o.stages with
    | nil => exact ⟨_, String.append_assoc⟩
    | cons stage stages =>
      rw [List.map_cons, Text.join, String.append_assoc, String.append_assoc, String.append_assoc]
      exact ⟨_, rfl⟩
  obtain ⟨cs, hcs⟩ := hsource
  obtain ⟨more, hmore⟩ := hjoin
  refine ⟨cs ++ more.toList, ?_⟩
  rw [hmore, String.toList_append, hcs, List.cons_append]

/-- The result of a level shows the table of the level. -/
theorem shown?_level (level : Level) :
    Kql.shown? (Batch.levelOutput level).text.toList =
      some (levelVariable level.number, level.table) := by
  have has : Kql.Inert ("as" ++ " " ++ level.table) :=
    Kql.Inert.append (by decide)
      (Kql.Inert.append (by decide) (Kql.inert_naturalText level.number))
  have hpieces := Kql.pieces_join Kql.separator_pipe (List.cons_ne_nil _ _)
    (List.forall_mem_cons.mpr ⟨(inert_levelVariable level.number).whole,
      List.forall_mem_singleton.mpr has.whole⟩) Kql.blanks_nil Kql.blanks_nil
  have hname : Scans ("as" ++ " " ++ level.table).toList [.name "as", .name level.table] :=
    Kql.scans_blank (Kql.Scalar.scans_word "as" (by decide))
      (Stage.scans_numbered (by decide) level.number)
  have htext : (Batch.levelOutput level).text =
      Text.join " | " [levelVariable level.number, "as" ++ " " ++ level.table] := by
    have hall (source name : String) : source ++ " | as " ++ name =
        Text.join " | " [source, "as" ++ " " ++ name] := by
      rw [← String.toList_inj]
      simp [Text.join]
    exact hall _ _
  rw [List.nil_append, List.append_nil, ← htext] at hpieces
  rw [Kql.shown?]
  generalize pieces '|' _ = found at hpieces ⊢
  obtain _ | ⟨hsource, _ | ⟨hresult, _ | _⟩⟩ := hpieces
  simp [List.mapM_cons, (Stage.scans_levelVariable level.number).tokens?_padded hsource,
    hname.tokens?_padded hresult]

/-- A result with stages shows something else. -/
theorem shown?_of_stages {o : Output} (hne : o.stages ≠ [])
    (hchosen : ∀ stage ∈ o.stages, stage.Chosen) (hname : Kql.Inert o.name) :
    Kql.shown? o.text.toList = none := by
  have hpipes := (fragment_text (fun stage hstage =>
    Stage.inert_of_chosen (hchosen stage hstage)) hname).pipes
  have hpositive := List.length_pos_iff.mpr hne
  refine Kql.shown?_eq_none ?_
  rw [Kql.pieces, Kql.length_piecesFrom (by decide), hpipes]
  omega

end Output

/-! ## The whole statement -/

/-- What the statement of a plan is read as. -/
def Plan.statement (plan : Plan) (batch : Batch) : Statement :=
  let nodes := AggregationPlan.nodesOfAll 0 none [] plan.aggregations
  ⟨batch.selection, nodes.map BucketNode.binding, nodes.map BucketNode.result⟩

namespace Search

variable {search : Search} {plan : Plan} {database : String} {batch : Batch}

/-- The text of a statement is divided into its clauses. -/
theorem clauses_of_text (hplan : search.plan = .ok plan)
    (hbatch : plan.batch database = .ok batch) :
    (pieces ';' batch.text.toList).map (List.dropWhile (· = '\n')) =
      batch.clauseTexts.map String.toList := by
  obtain ⟨others, names, houtputs⟩ := plan.exists_outputs hbatch
  have hfilter : Kql.Inert batch.filter.text := plan.filter_of_batch hbatch ▸ inert_filter hplan
  have hwhole : ∀ part ∈ batch.clauseTexts, Whole ';' part.toList := by
    intro part hpart
    obtain ⟨pipes, hfragment⟩ := houtputs.exists_fragment hfilter (chosen_levels hbatch) part hpart
    exact hfragment.whole
  -- so no clause loses a line end of its own with that in front of it
  have hstart : ∀ part ∈ batch.clauseTexts, part.toList.head? ≠ some '\n' := by
    rw [Batch.clauseTexts, List.forall_mem_append, List.forall_mem_cons, List.forall_mem_map,
      List.forall_mem_map]
    have hrows (a b c : String) : ("let _data = database(" ++ a ++ ")." ++ b ++ " | where " ++
        c).toList.head? ≠ some '\n' := by
      simp
    have hlevel (a b : String) : ("let " ++ a ++ " = " ++ b).toList.head? ≠ some '\n' := by
      simp
    refine ⟨⟨hrows _ _ _, fun level _ => hlevel _ _⟩, fun o _ => ?_⟩
    · obtain ⟨cs, hcs⟩ := o.exists_toList_text
      simp [hcs]
  rw [Batch.text_eq_join (plan.fragments_outputs hbatch).1]
  exact Kql.pieces_lines batch.clauseTexts_ne_nil hwhole hstart

/-- Levels are bound, and results are not. -/
theorem isBinding_clauses (batch : Batch) :
    (∀ cs ∈ batch.levels.map fun level => level.binding.toList, Kql.isBinding cs = true) ∧
      ∀ cs ∈ batch.outputs.map fun o => o.text.toList, Kql.isBinding cs = false := by
  rw [List.forall_mem_map, List.forall_mem_map]
  have hlevel (a b : String) : Kql.isBinding ("let " ++ a ++ " = " ++ b).toList = true := by
    simp [Kql.isBinding]
  refine ⟨fun level _ => hlevel _ _, fun o _ => ?_⟩
  obtain ⟨cs, hcs⟩ := o.exists_toList_text
  rw [hcs]
  rfl

/-- The bindings of a statement are read as those of its levels. -/
theorem mapM_bindings (hbatch : plan.batch database = .ok batch) :
    (batch.levels.map fun level => level.binding.toList).mapM Binding.read? =
      some ((AggregationPlan.nodesOfAll 0 none [] plan.aggregations).map BucketNode.binding) := by
  rw [(plan.levels_of_batch hbatch).levels_eq, List.map_map]
  refine Kql.mapM_eq_some ?_
  rw [List.forall₂_map_right_iff, List.forall₂_same]
  exact fun node hnode => node.read?_binding hnode

/-- The levels of a statement are shown, and nothing else is shown as it is bound. -/
theorem filterMap_shown? (hbatch : plan.batch database = .ok batch) :
    (batch.outputs.map fun o => o.text.toList).filterMap Kql.shown? =
      (AggregationPlan.nodesOfAll 0 none [] plan.aggregations).map BucketNode.result := by
  obtain ⟨others, names, houtputs⟩ := plan.exists_outputs hbatch
  have hlevels : ((batch.levels.map Batch.levelOutput).map fun o => o.text.toList).filterMap
      Kql.shown? = batch.levels.map fun level => (levelVariable level.number, level.table) := by
    rw [List.map_map, List.filterMap_map]
    have hshown (level : Level) : (Kql.shown? ∘ (fun o : Output => o.text.toList) ∘
        Batch.levelOutput) level = some (levelVariable level.number, level.table) :=
      Output.shown?_level level
    rw [funext hshown]
    exact congrFun List.filterMap_eq_map _
  -- hits, their number and the metrics come out of stages of their own
  have hothers : (others.map fun o => o.text.toList).filterMap Kql.shown? = [] := by
    rw [List.filterMap_eq_nil_iff, List.forall_mem_map]
    intro o ho
    have hmem : o ∈ batch.outputs := houtputs.outputs_eq ▸ List.mem_append_right _ ho
    exact Output.shown?_of_stages (houtputs.rows.staged o ho) (houtputs.rows.chosen o ho)
      (houtputs.of_mem hmem).2.1
  rw [houtputs.outputs_eq, List.map_append, List.filterMap_append, hlevels, hothers,
    List.append_nil, (plan.levels_of_batch hbatch).levels_eq, List.map_map]
  rfl

/-- The text of a statement is read as the rows that it selects, its levels and its results. -/
theorem read?_text (hplan : search.plan = .ok plan) (hbatch : plan.batch database = .ok batch) :
    Statement.read? batch.text = some (plan.statement batch) := by
  have hfilter := plan.filter_of_batch hbatch
  have hrows : Selection.read? batch.rowsBinding.toList = some batch.selection :=
    Batch.read?_rowsBinding (hfilter ▸ readable_filter hplan) (hfilter ▸ inert_filter hplan)
  obtain ⟨hbindings, hresults⟩ := isBinding_clauses batch
  -- the first result ends the bindings
  obtain ⟨htake, hdrop⟩ := Text.takeWhile_append_of_head hbindings fun cs hcs =>
    hresults cs (List.mem_of_mem_head? hcs)
  have hclauses : batch.clauseTexts.map String.toList = batch.rowsBinding.toList ::
      ((batch.levels.map fun level => level.binding.toList) ++
        batch.outputs.map fun o => o.text.toList) := by
    rw [Batch.clauseTexts, List.map_append, List.map_cons, List.map_map, List.map_map]
    rfl
  rw [Statement.read?, clauses_of_text hplan hbatch, hclauses]
  simp only [hrows, htake, hdrop, mapM_bindings hbatch, filterMap_shown? hbatch]
  rfl

end Search

end KustoSearch
