import KustoSearch.Proofs.Json.Members
import KustoSearch.Proofs.Plan.Buckets
import KustoSearch.Proofs.Response.Levels

/-! # The columns that a level delivers

What the steps that are read of a level do to columns. A level groups rows into key columns, the
number of documents and the columns of metrics; of the steps behind that only those that rank
buckets below one parent touch columns, with a helper column that they add and drop again. So a
level delivers what it was grouped into, but for a column that has the name of the helper:
`Plan.columns_delivered`.
-/

namespace KustoSearch

open Relational
open Kql (Binding Statement Step Token)

/-! ## Headers -/

/-- What the cells of a column are. -/
inductive Content where
  /-- The cells of a column of the table that the query selects from. -/
  | source (column : String)
  /-- What an expression comes to. -/
  | expression (tokens : List Token)
  /-- The numbers of rows. -/
  | number
deriving DecidableEq

/-- The columns of a table, with what is in them. -/
abbrev Header := List (String × Content)

namespace Kql.Step

/-- What a step does to the columns of a row that it hands on; `number` is put in a helper
column. -/
def carry {α : Type} (number : α) : Step → List (String × α) → List (String × α)
  | .number column _, columns => putMember column number columns
  | .drop column, columns => columns.filter fun c => c.1 ≠ column
  | _, columns => columns

/-- The columns that a step hands on. A step that puts rows together defines all of them. -/
def header : Step → Header → Header
  | .summarize columns keys, _ => (keys ++ columns).map fun c => (c.1, .expression c.2)
  | step, columns => step.carry .number columns

/-- Whether a step hands rows on one by one. -/
def isRowWise : Step → Bool
  | .summarize .. => false
  | _ => true

/-- Whether a step chooses or orders rows and leaves their columns alone. -/
def keepsColumns : Step → Bool
  | .filter _ => true
  | .within .. => true
  | .order _ => true
  | .take _ => true
  | _ => false

theorem header_of_isRowWise {step : Step} (h : step.isRowWise = true) (columns : Header) :
    step.header columns = step.carry .number columns := by
  cases step with
  | summarize => cases h
  | _ => rfl

theorem isRowWise_of_keepsColumns {step : Step} (h : step.keepsColumns = true) :
    step.isRowWise = true := by
  cases step <;> first | rfl | cases h

theorem carry_of_keepsColumns {α : Type} {step : Step} (h : step.keepsColumns = true) (number : α)
    (columns : List (String × α)) : step.carry number columns = columns := by
  cases step <;> first | rfl | cases h

/-- Columns that steps one after another make of the columns of a row. -/
inductive Carried {α : Type} : List Step → (columns out : List (String × α)) → Prop where
  | done (columns : List (String × α)) : Carried [] columns columns
  | step {step : Step} {steps : List Step} {columns out : List (String × α)} (number : α)
      (rest : Carried steps (step.carry number columns) out) :
      Carried (step :: steps) columns out

section Carried

variable {α : Type} {steps more : List Step} {columns out : List (String × α)}

theorem carried_append :
    Carried (steps ++ more) columns out ↔
      ∃ middle, Carried steps columns middle ∧ Carried more middle out := by
  induction steps generalizing columns with
  | nil =>
    constructor
    · intro h
      exact ⟨columns, .done columns, h⟩
    · rintro ⟨middle, hdone, h⟩
      cases hdone
      exact h
  | cons step steps ih =>
    constructor
    · intro h
      cases h with
      | step number rest =>
        obtain ⟨middle, hsteps, hmore⟩ := ih.mp rest
        exact ⟨middle, .step number hsteps, hmore⟩
    · rintro ⟨middle, hsteps, hmore⟩
      cases hsteps with
      | step number rest => exact .step number (ih.mpr ⟨middle, rest, hmore⟩)

theorem Carried.eq_of_keepsColumns (h : Carried steps columns out)
    (hkeeps : ∀ step ∈ steps, step.keepsColumns = true) : out = columns := by
  induction h with
  | done columns => rfl
  | step number rest ih =>
    rw [ih fun step hstep => hkeeps step (List.mem_cons_of_mem _ hstep)]
    exact carry_of_keepsColumns (hkeeps _ List.mem_cons_self) number _

end Carried

/-- The columns behind some steps. -/
def headerBehind (steps : List Step) (columns : Header) : Header :=
  steps.foldl (fun columns step => step.header columns) columns

/-- The header behind steps that hand rows on one by one. -/
theorem carried_header {steps : List Step} (h : ∀ step ∈ steps, step.isRowWise = true)
    (columns : Header) : Carried steps columns (headerBehind steps columns) := by
  induction steps generalizing columns with
  | nil => exact .done columns
  | cons step steps ih =>
    refine .step .number ?_
    rw [← header_of_isRowWise (h step List.mem_cons_self), headerBehind, List.foldl_cons]
    exact ih (fun other hother => h other (List.mem_cons_of_mem _ hother)) _

end Kql.Step

namespace Relational

variable {Cell : Type} [LinearOrder Cell] [OrderBot Cell] {engine : Relational.Engine Cell}
  {env : Environment Cell}

theorem mem_numbered {column : String} {restart : List String}
    {before : Option (Record Cell × Nat)} {rows : List (Record Cell)} {row : Record Cell}
    (h : row ∈ numbered engine column restart before rows) :
    ∃ r ∈ rows, ∃ n, row = putMember column (engine.natural n) r := by
  induction rows generalizing before with
  | nil => cases h
  | cons first rows ih =>
    rw [numbered, List.mem_cons] at h
    rcases h with rfl | h
    · exact ⟨first, List.mem_cons_self, _, rfl⟩
    · obtain ⟨r, hr, hrow⟩ := ih h
      exact ⟨r, List.mem_cons_of_mem _ hr, hrow⟩

/-- The rows that a step hands on one by one are rows that it was given, but for the columns that
it adds or drops. -/
theorem exists_carry {step : Step} {rows out : List (Record Cell)}
    (h : Gives engine env step rows out) (hrowWise : step.isRowWise = true) :
    ∀ row ∈ out, ∃ r ∈ rows, ∃ number, row = step.carry number r := by
  intro row hrow
  cases h with
  | filter => exact ⟨row, (List.mem_filter.mp hrow).1, ⊥, rfl⟩
  | summarize => cases hrowWise
  | within _ _ hperm => exact ⟨row, (List.mem_filter.mp (hperm.mem_iff.mp hrow)).1, ⊥, rfl⟩
  | order hperm => exact ⟨row, hperm.mem_iff.mp hrow, ⊥, rfl⟩
  | take => exact ⟨row, List.mem_of_mem_take hrow, ⊥, rfl⟩
  | number =>
    obtain ⟨r, hr, n, hrow⟩ := mem_numbered hrow
    exact ⟨r, hr, engine.natural n, hrow⟩
  | drop =>
    obtain ⟨r, hr, hrow⟩ := List.mem_map.mp hrow
    exact ⟨r, hr, ⊥, hrow.symm⟩

theorem exists_carried {steps : List Step} {rows out : List (Record Cell)}
    (h : Pipeline engine env steps rows out) (hrowWise : ∀ step ∈ steps, step.isRowWise = true) :
    ∀ row ∈ out, ∃ r ∈ rows, Step.Carried steps r row := by
  induction h with
  | done rows => exact fun row hrow => ⟨row, hrow, .done row⟩
  | step first _ ih =>
    intro row hrow
    obtain ⟨r, hr, hcarried⟩ :=
      ih (fun step hstep => hrowWise step (List.mem_cons_of_mem _ hstep)) row hrow
    -- the row is followed back from the last step to the first
    obtain ⟨r', hr', number, rfl⟩ := exists_carry first (hrowWise _ List.mem_cons_self) r hr
    exact ⟨r', hr', .step number hcarried⟩

end Relational

/-! ## Levels -/

namespace BucketNode

/-- The steps behind those that put rows together. -/
def later (node : BucketNode) : List Step :=
  node.withinSteps ++ node.countSteps ++ (.order node.orderKeys :: node.limitSteps)

/-- The columns that rows are grouped into. -/
def contents (node : BucketNode) : Header :=
  (node.keyTerms ++ node.columnTerms).map fun c => (c.1, .expression c.2)

/-- Whether the level has a helper column: it stands below another level, and its buckets are
limited. -/
def Ranks (node : BucketNode) : Prop := node.ancestors ≠ [] ∧ node.plan.limit ≠ none

/-- Whether a column has the name of the helper column on a level that has one. -/
def Loses (node : BucketNode) (column : String) : Prop :=
  column = Counter.rank.column ∧ node.Ranks

instance (node : BucketNode) (column : String) : Decidable (node.Loses column) :=
  inferInstanceAs (Decidable (_ ∧ _ ∧ _))

theorem steps_eq (node : BucketNode) : node.steps = node.groupSteps ++ node.later := by
  rw [steps, later, List.append_assoc, List.append_assoc, List.append_assoc]

theorem map_fst_contents (node : BucketNode) : node.contents.map Prod.fst = node.columns := by
  rw [columns_eq_terms, ← List.map_append, contents, List.map_map]
  rfl

theorem keepsColumns_of_mem_withinSteps {node : BucketNode} :
    ∀ step ∈ node.withinSteps, step.keepsColumns = true := by
  intro step hstep
  unfold withinSteps at hstep
  split at hstep
  · rw [List.mem_singleton.mp hstep]
    rfl
  · cases hstep

theorem keepsColumns_of_mem_countSteps {node : BucketNode} :
    ∀ step ∈ node.countSteps, step.keepsColumns = true := by
  intro step hstep
  unfold countSteps at hstep
  split_ifs at hstep
  · rw [List.mem_singleton.mp hstep]
    rfl
  · cases hstep

/-- The helper column is added to sorted rows, and dropped at the end. -/
theorem limitSteps_of_ranks {node : BucketNode} (h : node.Ranks) :
    ∃ restart condition, node.limitSteps =
      [.number Counter.rank.column restart, .filter condition, .drop Counter.rank.column] := by
  obtain ⟨hnested, hlimit⟩ := h
  obtain ⟨n, hn⟩ := Option.ne_none_iff_exists'.mp hlimit
  have hsome : ¬node.ancestorColumns.isEmpty = true := by
    simpa [ancestorColumns] using hnested
  simp only [limitSteps, hn]
  rw [if_neg hsome]
  exact ⟨_, _, rfl⟩

theorem keepsColumns_of_not_ranks {node : BucketNode} (h : ¬node.Ranks) :
    ∀ step ∈ node.limitSteps, step.keepsColumns = true := by
  intro step hstep
  unfold limitSteps at hstep
  cases hn : node.plan.limit with
  | none => simp [hn] at hstep
  | some n =>
    -- an outermost level is limited without a helper column
    have htop : node.ancestors = [] := by
      by_contra hnested
      exact h ⟨hnested, by simp [hn]⟩
    simp only [hn, ancestorColumns, htop, List.map_nil, List.isEmpty_nil, if_true] at hstep
    rw [List.mem_singleton.mp hstep]
    rfl

theorem isRowWise_of_mem_later {node : BucketNode} :
    ∀ step ∈ node.later, step.isRowWise = true := by
  intro step hstep
  rw [later, List.mem_append, List.mem_append, List.mem_cons] at hstep
  rcases hstep with (hstep | hstep) | rfl | hstep
  · exact Step.isRowWise_of_keepsColumns (keepsColumns_of_mem_withinSteps step hstep)
  · exact Step.isRowWise_of_keepsColumns (keepsColumns_of_mem_countSteps step hstep)
  · rfl
  · by_cases hranks : node.Ranks
    · obtain ⟨restart, condition, hlimit⟩ := limitSteps_of_ranks hranks
      rw [hlimit] at hstep
      simp only [List.mem_cons, List.not_mem_nil, or_false] at hstep
      rcases hstep with rfl | rfl | rfl <;> rfl
    · exact Step.isRowWise_of_keepsColumns (keepsColumns_of_not_ranks hranks step hstep)

/-- Behind all steps of a level every column is as it was grouped, and one that has the name of
the helper column is gone where there is a helper column. -/
theorem member?_of_carried {α : Type} {node : BucketNode} {columns out : List (String × α)}
    (h : Step.Carried node.later columns out) (column : String) :
    member? column out = if node.Loses column then none else member? column columns := by
  obtain ⟨middle, h, horder⟩ := Step.carried_append.mp h
  obtain ⟨within, hwithin, hcount⟩ := Step.carried_append.mp h
  -- before the rows are ordered no step touches columns
  have hsame : middle = columns := by
    rw [hcount.eq_of_keepsColumns keepsColumns_of_mem_countSteps,
      hwithin.eq_of_keepsColumns keepsColumns_of_mem_withinSteps]
  rw [hsame] at horder
  obtain _ | ⟨_, hlimit⟩ := horder
  by_cases hranks : node.Ranks
  · obtain ⟨restart, condition, hsteps⟩ := limitSteps_of_ranks hranks
    rw [hsteps] at hlimit
    obtain _ | ⟨number, hlimit⟩ := hlimit
    obtain _ | ⟨_, hlimit⟩ := hlimit
    obtain _ | ⟨_, hlimit⟩ := hlimit
    cases hlimit
    -- what is left: the helper column was put in, and then everything of its name was dropped
    show member? column ((putMember Counter.rank.column number columns).filter
      fun c => c.1 ≠ Counter.rank.column) = _
    rw [member?_filter_ne]
    by_cases hcolumn : column = Counter.rank.column
    · rw [if_pos hcolumn, if_pos ⟨hcolumn, hranks⟩]
    · rw [if_neg hcolumn, if_neg fun h => hcolumn h.1, member?_putMember_of_ne hcolumn]
  · rw [if_neg fun h => hranks h.2,
      hlimit.eq_of_keepsColumns (keepsColumns_of_not_ranks hranks)]
    rfl

theorem member?_header (node : BucketNode) (source : Header) (column : String) :
    member? column (Step.headerBehind node.binding.steps source) =
      if node.Loses column then none else member? column node.contents := by
  have hcarried := Step.carried_header node.isRowWise_of_mem_later node.contents
  have hsteps : node.binding.steps = node.groupSteps ++ node.later := node.steps_eq
  rw [Step.headerBehind, hsteps, List.foldl_append]
  exact member?_of_carried hcarried column

section

variable {Cell : Type} [LinearOrder Cell] [OrderBot Cell] {engine : Relational.Engine Cell}
  {selected : List (Record Cell)}

/-- The row of a group has all columns of the level. -/
theorem map_fst_group {node : BucketNode} {keys : List Cell}
    (h : node.Occurs engine selected keys) :
    (node.group engine selected keys).map Prod.fst = node.columns := by
  have hlength : (node.keyTerms.map Prod.fst).length = keys.length := by
    rw [List.length_map, h.length]
  rw [group, Relational.Engine.group, List.map_append, List.map_fst_zip hlength.le, List.map_map,
    columns_eq_terms]
  rfl

/-- Behind the steps of a level each row has the cells of a group, but for the column that the
helper column took. -/
theorem exists_group_of_pipeline {node : BucketNode} {env : Environment Cell}
    {out : List (Record Cell)} (h : Pipeline engine env node.steps selected out) :
    ∀ row ∈ out, ∃ keys, node.Occurs engine selected keys ∧ ∀ column, member? column row =
      if node.Loses column then none else member? column (node.group engine selected keys) := by
  intro row hrow
  rw [steps_eq, pipeline_append] at h
  -- rows are put together once, and handed on one by one behind that
  obtain ⟨grouped, hgroup, hlater⟩ := h
  obtain ⟨r, hr, hcarried⟩ := exists_carried hlater isRowWise_of_mem_later row hrow
  obtain ⟨groups, _, hmem, rfl⟩ := areGroups_of_group hgroup
  obtain ⟨keys, hkeys, rfl⟩ := List.mem_map.mp hr
  exact ⟨keys, (hmem keys).mp hkeys, member?_of_carried hcarried⟩

end

/-- What becomes of the columns that buckets are read from: the keys of a level, the number of
documents and the metrics. -/
structure Delivered (node : BucketNode) (batch : Batch) : Prop where
  level : batch.levels[node.number]? = some node.level
  /-- The steps are read from the text of the level. -/
  read : Binding.read? node.level.binding.toList = some node.binding
  listed : batch.layout.buckets[node.number]? = some node.table
  /-- The table of the level has each column as it was grouped, unless the helper column took it. -/
  header : ∀ source, ∀ c ∈ node.contents,
    member? c.1 (Step.headerBehind node.binding.steps source) = some c.2 ↔ ¬node.Loses c.1
  /-- A response finds the columns that were not taken, and no others. -/
  found : ∀ source (table : Table),
    table.columns.map Column.name =
        (Step.headerBehind node.binding.steps source).map Prod.fst →
      ∀ column ∈ node.columns,
        (∃ i, Mapper.requireColumn table column = .ok i) ↔ ¬node.Loses column
  /-- Each row has the cells of a group of rows in the columns that were not taken. -/
  rows : ∀ {Cell : Type} [LinearOrder Cell] [OrderBot Cell] (engine : Relational.Engine Cell)
    (env : Environment Cell) (selected out : List (Record Cell)),
    Pipeline engine env node.binding.steps selected out → ∀ row ∈ out,
      ∃ keys, node.Occurs engine selected keys ∧ ∀ column ∈ node.columns,
        member? column row = member? column (node.group engine selected keys) ↔
          ¬node.Loses column

end BucketNode

/-- A column is found in a table that has one of its name. -/
theorem Mapper.exists_requireColumn {table : Table} {column : String} :
    (∃ i, requireColumn table column = .ok i) ↔ column ∈ table.columns.map Column.name := by
  simp only [requireColumn_eq_ok, Table.columnIndex?]
  rw [← Option.isSome_iff_exists, List.findIdx?_isSome, List.any_eq_true, List.mem_map]
  simp

/-- Every level delivers the columns that its buckets are read from, with what its rows were
grouped into. There is one exception: below another level a limited level has a helper column, and
a key or metric with the name of that column is lost. The levels are what is read of the text of
the statement, when the plan is that of a search. -/
theorem Plan.columns_delivered {plan : Plan} {database : String} {batch : Batch}
    (h : plan.batch database = .ok batch) :
    (∀ node ∈ AggregationPlan.nodesOfAll 0 none [] plan.aggregations, node.Delivered batch) ∧
      ∀ search : Search, search.plan = .ok plan →
        ∃ statement, Statement.read? batch.text = some statement ∧ statement.bindings =
          (AggregationPlan.nodesOfAll 0 none [] plan.aggregations).map BucketNode.binding := by
  refine ⟨fun node hnode => ?_, fun search hplan => ?_⟩
  swap
  · exact ⟨plan.statement batch, Search.read?_text hplan h, rfl⟩
  have hplace := AggregationPlan.getElem?_number hnode
  have hdistinct := (levels_of_batch h).distinct node hnode
  constructor
  case level => rw [(levels_of_batch h).levels_eq, List.getElem?_map, hplace, Option.map_some]
  case read => exact node.read?_binding hnode
  case listed => rw [(laidOut_of_batch h).buckets, List.getElem?_map, hplace, Option.map_some]
  case header =>
    intro source c hc
    have hnodup : (node.contents.map Prod.fst).Nodup := by
      rw [node.map_fst_contents]
      exact hdistinct
    rw [node.member?_header, member?_of_mem hnodup hc]
    simp
  case found =>
    intro source table htable column hcolumn
    -- every column is grouped, so that it is missing only where it was taken
    have hgrouped : member? column node.contents ≠ none := by
      rw [ne_eq, member?_eq_none, node.map_fst_contents]
      exact not_not_intro hcolumn
    rw [Mapper.exists_requireColumn, htable, ← not_iff_not, not_not, ← member?_eq_none,
      node.member?_header]
    simp [hgrouped]
  case rows =>
    intro Cell _ _ engine env selected out hpipeline row hrow
    obtain ⟨keys, hoccurs, hcells⟩ := BucketNode.exists_group_of_pipeline hpipeline row hrow
    refine ⟨keys, hoccurs, fun column hcolumn => ?_⟩
    have hgrouped : member? column (node.group engine selected keys) ≠ none := by
      rw [ne_eq, member?_eq_none, BucketNode.map_fst_group hoccurs]
      exact not_not_intro hcolumn
    rw [hcells column]
    by_cases hloses : node.Loses column
    · simp [hloses, Ne.symm hgrouped]
    · simp [hloses]

/-- The greatest load of the busiest users of each host, under the name of the helper column. -/
def rankedUsers : Search where
  index := "logs"
  query := .matchAll
  aggregations := [.node "host" (.terms "host" 10 .countDesc 1)
    [.node "user" (.terms "user" 5 .countDesc 2)
      [.node "_rank" (.metric "load" .max none) []]]]
  hits := ⟨0, 0, [], .none, false⟩

/-- The level of the users. -/
def rankedUsersNode : BucketNode where
  number := 1
  parent := some 0
  ancestors := [⟨"host", .value "host", .countDesc, some 10, 1⟩]
  plan := ⟨"user", .value "user", .countDesc, some 5, 2⟩
  children := [.metric ⟨"_rank", .max, [⟨.value, "_rank", .greatest "load"⟩]⟩]

theorem Plan.columns_delivered_rankedUsers :
    ∃ plan batch, rankedUsers.plan = .ok plan ∧ plan.batch "db" = .ok batch ∧
      rankedUsersNode ∈ AggregationPlan.nodesOfAll 0 none [] plan.aggregations ∧
      rankedUsersNode.Delivered batch ∧
      (∃ statement, Statement.read? batch.text = some statement ∧
        rankedUsersNode.binding ∈ statement.bindings) ∧
      ∀ source,
        member? "user" (Step.headerBehind rankedUsersNode.binding.steps source) =
          some (.expression (BucketKey.value "user").tokens) ∧
        member? "_rank" (Step.headerBehind rankedUsersNode.binding.steps source) ≠
          some (.expression (Computation.greatest "load").tokens) := by
  obtain ⟨plan, hplan, haggregations⟩ : ∃ plan, rankedUsers.plan = .ok plan ∧
      plan.aggregations = [.bucket ⟨"host", .value "host", .countDesc, some 10, 1⟩
        [.bucket rankedUsersNode.plan rankedUsersNode.children]] := ⟨_, rfl, rfl⟩
  obtain ⟨batch, hbatch⟩ : ∃ batch, plan.batch "db" = .ok batch := by
    cases hplan
    exact ⟨_, rfl⟩
  have hnode : rankedUsersNode ∈ AggregationPlan.nodesOfAll 0 none [] plan.aggregations := by
    rw [haggregations]
    exact List.mem_cons_of_mem _ List.mem_cons_self
  obtain ⟨hall, hread⟩ := columns_delivered hbatch
  have hdelivered := hall rankedUsersNode hnode
  obtain ⟨statement, hstatement, hbindings⟩ := hread rankedUsers hplan
  refine ⟨plan, batch, hplan, hbatch, hnode, hdelivered,
    ⟨statement, hstatement, hbindings ▸ List.mem_map_of_mem hnode⟩, fun source => ⟨?_, fun h => ?_⟩⟩
  · refine (hdelivered.header source
      ("user", .expression (BucketKey.value "user").tokens) ?_).mpr ?_
    · simp [BucketNode.contents, BucketNode.keyTerms, BucketNode.keys, rankedUsersNode]
    · decide
  · refine (hdelivered.header source
      ("_rank", .expression (Computation.greatest "load").tokens) ?_).mp h ?_
    · simp [BucketNode.contents, BucketNode.columnTerms, rankedUsersNode, AggregationPlan.metrics,
        Batch.columnsOf]
    · decide

end KustoSearch
