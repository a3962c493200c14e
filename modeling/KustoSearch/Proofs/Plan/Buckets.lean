import KustoSearch.Proofs.Plan.Groups
import KustoSearch.Proofs.Plan.Statement
import Mathlib.Data.List.Dedup

/-! # The buckets that a statement computes

What the table of a level contains, said with counts of rows and an order of keys alone:
`BucketNode.Computed`. Every table that the text of a statement may compute for a level is like
this, and there are such tables for all source rows: `Search.buckets_computed`.
-/

namespace KustoSearch

open Relational
open Kql (Binding Statement Step)

variable {Cell : Type} [LinearOrder Cell] [OrderBot Cell]

/-- Whether the bucket with a key comes before another one, by the numbers of their rows. The key
breaks ties. -/
def BucketOrder.Before (order : BucketOrder) (count : Cell → Nat) (k l : Cell) : Prop :=
  match order with
  | .countDesc => count l < count k ∨ count k = count l ∧ k < l
  | .countAsc => count k < count l ∨ count k = count l ∧ k < l
  | .keyAsc => k < l
  | .keyDesc => l < k

/-- What the table of a level contains, for the selected rows and the tables of the levels before
it. -/
structure BucketNode.Computed (node : BucketNode) (engine : Relational.Engine Cell)
    (selected : List (Record Cell)) (tables : Nat → List (Record Cell)) : Prop where
  /-- No two rows have the same keys. -/
  distinct : ((tables node.number).map (cells node.keyColumns)).Nodup
  counted : ∀ row ∈ tables node.number, cell Aggregation.docCountColumn row =
    engine.natural (node.count engine selected (cells node.keyColumns row))
  /-- Where having a key is seen from the key, all selected rows with the keys are counted. -/
  countedAll :
    (∀ r s, engine.key node.plan.key r = engine.key node.plan.key s →
      engine.hasKey node.plan.key r = engine.hasKey node.plan.key s) →
    ∀ row ∈ tables node.number, node.count engine selected (cells node.keyColumns row) =
      (engine.members node.keyTerms selected (cells node.keyColumns row)).length
  /-- The ancestors have the key columns of the parent. -/
  nested : ∀ row ∈ tables node.number, ∀ parent, node.parent = some parent →
    cells node.ancestorColumns row ∈ (tables parent).map (cells node.ancestorColumns)
  enough : ∀ row ∈ tables node.number,
    node.plan.minDocCount ≤ node.count engine selected (cells node.keyColumns row)
  /-- Below each bucket of the parent there are the first buckets in the level's own order. -/
  kept : ∀ above : List Cell, ∃ keys : List Cell,
    keys.Nodup ∧
    (∀ key, key ∈ keys ↔ node.Eligible engine selected tables (above ++ [key])) ∧
    keys.Pairwise
      (node.plan.order.Before fun key => node.count engine selected (above ++ [key])) ∧
    ((tables node.number).filter fun row => cells node.ancestorColumns row = above).map
      (cell node.plan.name) = node.plan.limit.elim keys keys.take

namespace BucketNode

variable {node : BucketNode} {engine : Relational.Engine Cell} {selected : List (Record Cell)}
  {tables : Nat → List (Record Cell)} {sorted : List (Record Cell)}

/-! ## The first rows -/

theorem sublist_firstRows (node : BucketNode) (sorted : List (Record Cell)) :
    (node.firstRows sorted).Sublist sorted := by
  unfold firstRows
  cases node.plan.limit with
  | none => exact List.Sublist.refl _
  | some n =>
    show (if node.ancestorColumns.isEmpty then sorted.take n
      else firsts node.ancestorColumns n none sorted).Sublist sorted
    split_ifs
    · exact List.take_sublist n sorted
    · exact sublist_firsts _ n none sorted

/-- Below each parent the first rows are the first ones of the rows below it. -/
theorem filter_firstRows {keys : List OrderKey} (above : List Cell)
    (hsorted : sorted.Pairwise (inOrder (ascending node.ancestorColumns ++ keys))) :
    (node.firstRows sorted).filter (fun row => cells node.ancestorColumns row = above) =
      node.plan.limit.elim (sorted.filter fun row => cells node.ancestorColumns row = above)
        (sorted.filter fun row => cells node.ancestorColumns row = above).take := by
  unfold firstRows
  cases node.plan.limit with
  | none => rfl
  | some n =>
    show (if node.ancestorColumns.isEmpty then sorted.take n
      else firsts node.ancestorColumns n none sorted).filter _ = List.take n _
    split_ifs with htop
    · -- at the top there is one parent, without keys
      rw [List.isEmpty_iff] at htop
      rw [htop]
      by_cases habove : above = []
      · simp [cells, habove]
      · simp [cells, Ne.symm habove]
    · exact filter_firsts above (hsorted.imp inOrder_left)

/-! ## Rows of eligible groups -/

/-- A row of the eligible groups is that of its keys. -/
theorem eligible_of_mem (hcolumns : node.columns.Nodup)
    (h : AreGroups (node.group engine selected) (node.Eligible engine selected tables) sorted)
    {row : Record Cell} (hrow : row ∈ sorted) :
    node.Eligible engine selected tables (cells node.keyColumns row) ∧
      row = node.group engine selected (cells node.keyColumns row) := by
  obtain ⟨groups, _, hmem, rfl⟩ := h
  obtain ⟨keys, hkeys, rfl⟩ := List.mem_map.mp hrow
  have heligible := (hmem keys).mp hkeys
  rw [cells_group_keyColumns hcolumns heligible.occurs]
  exact ⟨heligible, rfl⟩

theorem mem_of_eligible
    (h : AreGroups (node.group engine selected) (node.Eligible engine selected tables) sorted)
    {keys : List Cell} (hkeys : node.Eligible engine selected tables keys) :
    node.group engine selected keys ∈ sorted := by
  obtain ⟨groups, _, hmem, rfl⟩ := h
  exact List.mem_map_of_mem ((hmem keys).mpr hkeys)

theorem nodup_of_areGroups (hcolumns : node.columns.Nodup)
    (h : AreGroups (node.group engine selected) (node.Eligible engine selected tables) sorted) :
    (sorted.map (cells node.keyColumns)).Nodup := by
  obtain ⟨groups, hnodup, hmem, rfl⟩ := h
  have hkeys : (groups.map (node.group engine selected)).map (cells node.keyColumns) = groups := by
    rw [List.map_map]
    refine Eq.trans (List.map_congr_left fun keys hkeys => ?_) (List.map_id groups)
    exact cells_group_keyColumns hcolumns ((hmem keys).mp hkeys).occurs
  rw [hkeys]
  exact hnodup

theorem docCount_of_mem (hcolumns : node.columns.Nodup)
    (h : AreGroups (node.group engine selected) (node.Eligible engine selected tables) sorted)
    {row : Record Cell} (hrow : row ∈ sorted) :
    cell Aggregation.docCountColumn row =
      engine.natural (node.count engine selected (cells node.keyColumns row)) := by
  have hgroup := (eligible_of_mem hcolumns h hrow).2
  rw [hgroup, cell_group_docCount hcolumns, ← hgroup]

/-- Where having a key is seen from the key, no row with the keys of a group is left out. -/
theorem Occurs.count_eq {keys : List Cell} (h : node.Occurs engine selected keys)
    (hkey : ∀ r s, engine.key node.plan.key r = engine.key node.plan.key s →
      engine.hasKey node.plan.key r = engine.hasKey node.plan.key s) :
    node.count engine selected keys = (engine.members node.keyTerms selected keys).length := by
  obtain ⟨row, hrow, hkeys⟩ := h
  have hhas : engine.hasKey node.plan.key row = true := (List.mem_filter.mp hrow).2
  have hown : ∀ r, engine.keys node.keyTerms r =
      node.ancestors.map (fun b => engine.key b.key r) ++ [engine.key node.plan.key r] := by
    intro r
    simp [Relational.Engine.keys, Relational.Engine.key, keyTerms, BucketNode.keys]
  have hall : ∀ r, engine.keys node.keyTerms r = keys →
      engine.hasKey node.plan.key r = true := by
    intro r hr
    have hsame := hr.trans hkeys.symm
    rw [hown, hown] at hsame
    rw [hkey r row (List.singleton_inj.mp (List.append_inj' hsame rfl).2)]
    exact hhas
  unfold count Relational.Engine.members rows
  rw [List.filter_filter]
  congr 2
  funext r
  by_cases hr : engine.keys node.keyTerms r = keys
  · simp [hr, hall r hr]
  · simp [hr]

/-! ## The own order -/

theorem key_of_inOrder {plan : BucketPlan} {descending : Bool} {r s : Record Cell}
    (hne : cell plan.name r ≠ cell plan.name s)
    (h : inOrder [⟨plan.name, descending, false⟩] r s) :
    if descending then cell plan.name s < cell plan.name r
    else cell plan.name r < cell plan.name s := by
  rcases h with h | ⟨hkey, _⟩
  · exact precedes_iff.mp h
  · exact absurd hkey hne

/-- Where the number of rows is the first sort key, the key breaks ties. -/
theorem count_of_inOrder {plan : BucketPlan} {engine : Relational.Engine Cell}
    {count : Cell → Nat} {descending : Bool} {r s : Record Cell}
    (hr : cell Aggregation.docCountColumn r = engine.natural (count (cell plan.name r)))
    (hs : cell Aggregation.docCountColumn s = engine.natural (count (cell plan.name s)))
    (hne : cell plan.name r ≠ cell plan.name s)
    (h : inOrder [⟨Aggregation.docCountColumn, descending, false⟩, ⟨plan.name, false, false⟩] r s) :
    (if descending then count (cell plan.name s) < count (cell plan.name r)
      else count (cell plan.name r) < count (cell plan.name s)) ∨
    count (cell plan.name r) = count (cell plan.name s) ∧
      cell plan.name r < cell plan.name s := by
  rcases h with h | ⟨hcount, h⟩
  · rw [hr, hs, precedes_iff, engine.natural_strictMono.lt_iff_lt,
      engine.natural_strictMono.lt_iff_lt] at h
    exact Or.inl h
  · rw [hr, hs] at hcount
    exact Or.inr ⟨engine.natural_strictMono.injective hcount, key_of_inOrder hne h⟩

/-- The sort keys of a level put buckets in its own order. -/
theorem before_of_inOrder (plan : BucketPlan) (engine : Relational.Engine Cell)
    {count : Cell → Nat} {r s : Record Cell}
    (hr : cell Aggregation.docCountColumn r = engine.natural (count (cell plan.name r)))
    (hs : cell Aggregation.docCountColumn s = engine.natural (count (cell plan.name s)))
    (hne : cell plan.name r ≠ cell plan.name s) (h : inOrder (Batch.ownOrder plan) r s) :
    plan.order.Before count (cell plan.name r) (cell plan.name s) := by
  unfold Batch.ownOrder at h
  unfold BucketOrder.Before
  cases horder : plan.order with
  | countDesc =>
    rw [horder] at h
    exact count_of_inOrder hr hs hne h
  | countAsc =>
    rw [horder] at h
    exact count_of_inOrder hr hs hne h
  | keyAsc =>
    rw [horder] at h
    exact key_of_inOrder hne h
  | keyDesc =>
    rw [horder] at h
    exact key_of_inOrder hne h

theorem cells_of_mem_below {above : List Cell} {row : Record Cell}
    (h : row ∈ sorted.filter fun row => cells node.ancestorColumns row = above) :
    row ∈ sorted ∧ cells node.ancestorColumns row = above ∧
      cells node.keyColumns row = above ++ [cell node.plan.name row] := by
  obtain ⟨hrow, habove⟩ := List.mem_filter.mp h
  rw [decide_eq_true_iff] at habove
  exact ⟨hrow, habove, by rw [cells_keyColumns, habove]⟩

/-- The rows below some keys have different keys. -/
theorem nodup_keys_below (hcolumns : node.columns.Nodup)
    (h : AreGroups (node.group engine selected) (node.Eligible engine selected tables) sorted)
    (above : List Cell) :
    ((sorted.filter fun row => cells node.ancestorColumns row = above).map
      (cell node.plan.name)).Nodup := by
  have hall : ((sorted.filter fun row => cells node.ancestorColumns row = above).map
      (cells node.keyColumns)).Nodup :=
    (nodup_of_areGroups hcolumns h).sublist (List.filter_sublist.map _)
  rw [List.map_congr_left fun row hrow => (cells_of_mem_below hrow).2.2] at hall
  refine List.Nodup.of_map (fun key => above ++ [key]) ?_
  rw [List.map_map]
  exact hall

/-- The rows below some keys have the keys of all eligible groups below them. -/
theorem mem_keys_below (hcolumns : node.columns.Nodup)
    (h : AreGroups (node.group engine selected) (node.Eligible engine selected tables) sorted)
    (above : List Cell) (key : Cell) :
    key ∈ (sorted.filter fun row => cells node.ancestorColumns row = above).map
      (cell node.plan.name) ↔ node.Eligible engine selected tables (above ++ [key]) := by
  rw [List.mem_map]
  constructor
  · rintro ⟨row, hrow, rfl⟩
    obtain ⟨hmem, _, hcells⟩ := cells_of_mem_below hrow
    rw [← hcells]
    exact (eligible_of_mem hcolumns h hmem).1
  · intro heligible
    have hcells := cells_group_keyColumns hcolumns heligible.occurs
    rw [cells_keyColumns] at hcells
    obtain ⟨habove, hkey⟩ := List.append_inj' hcells rfl
    exact ⟨_, List.mem_filter.mpr ⟨mem_of_eligible h heligible, decide_eq_true habove⟩,
      List.singleton_inj.mp hkey⟩

/-- Rows in the order of the sort keys have keys in the own order of the level below each parent. -/
theorem pairwise_keys_below (hcolumns : node.columns.Nodup)
    (h : AreGroups (node.group engine selected) (node.Eligible engine selected tables) sorted)
    (hsorted : sorted.Pairwise (inOrder node.orderKeys)) (above : List Cell) :
    ((sorted.filter fun row => cells node.ancestorColumns row = above).map
      (cell node.plan.name)).Pairwise
      (node.plan.order.Before fun key => node.count engine selected (above ++ [key])) := by
  have hnodup := nodup_keys_below hcolumns h above
  rw [List.Nodup, List.pairwise_map] at hnodup
  rw [List.pairwise_map]
  refine List.Pairwise.imp_of_mem ?_ ((hsorted.filter _).and hnodup)
  rintro r s hr hs ⟨hin, hne⟩
  obtain ⟨hr, hrabove, hrcells⟩ := cells_of_mem_below hr
  obtain ⟨hs, hsabove, hscells⟩ := cells_of_mem_below hs
  refine before_of_inOrder node.plan engine ?_ ?_ hne (inOrder_right hin ?_)
  · rw [docCount_of_mem hcolumns h hr, hrcells]
  · rw [docCount_of_mem hcolumns h hs, hscells]
  · -- below one parent the keys of the ancestors are the same
    intro k hk
    obtain ⟨c, hc, rfl⟩ := List.mem_map.mp hk
    have hsame := hrabove.trans hsabove.symm
    exact List.map_inj_left.mp hsame c hc

/-- What the steps of a level compute. -/
theorem computed_of_pipeline (hcolumns : node.columns.Nodup)
    (hrank : Counter.rank.column ∉ node.columns) {env : Environment Cell}
    (henv : ∀ parent, node.parent = some parent →
      env (levelVariable parent) = some (tables parent))
    (h : Pipeline engine env node.steps selected (tables node.number)) :
    node.Computed engine selected tables := by
  obtain ⟨sorted, hgroups, hsorted, hout⟩ := exists_sorted hcolumns hrank henv h
  have hsublist := sublist_firstRows node sorted
  rw [← hout] at hsublist
  have heligible : ∀ row ∈ tables node.number,
      node.Eligible engine selected tables (cells node.keyColumns row) := fun row hrow =>
    (eligible_of_mem hcolumns hgroups (hsublist.subset hrow)).1
  constructor
  case distinct => exact (nodup_of_areGroups hcolumns hgroups).sublist (hsublist.map _)
  case counted => exact fun row hrow => docCount_of_mem hcolumns hgroups (hsublist.subset hrow)
  case countedAll => exact fun hkey row hrow => (heligible row hrow).occurs.count_eq hkey
  case nested =>
    intro row hrow parent hparent
    have hnested := (heligible row hrow).nested parent hparent
    rw [cells_keyColumns, List.dropLast_concat] at hnested
    exact hnested
  case enough => exact fun row hrow => (heligible row hrow).enough
  case kept =>
    intro above
    refine ⟨_, nodup_keys_below hcolumns hgroups above, mem_keys_below hcolumns hgroups above,
      pairwise_keys_below hcolumns hgroups hsorted above, ?_⟩
    rw [hout, filter_firstRows above hsorted]
    cases node.plan.limit with
    | none => rfl
    | some n => exact List.map_take

end BucketNode

/-! ## Tables for all rows -/

namespace Relational

variable {engine : Engine Cell} {env : Environment Cell}

/-- The tables that a step looks rows up in. -/
def lookups : Step → List String
  | .within table _ => [table]
  | _ => []

theorem exists_summarize (columns by_ : List (String × List Kql.Token))
    (rows : List (Record Cell)) : ∃ out, Gives engine env (.summarize columns by_) rows out := by
  refine ⟨_, .summarize columns by_ (List.nodup_dedup (rows.map (engine.keys by_))) fun keys => ?_⟩
  rw [List.mem_dedup, List.mem_map]

theorem exists_order (keys : List OrderKey) (rows : List (Record Cell)) :
    ∃ out, Gives engine env (.order keys) rows out := by
  classical
  have htrans : ∀ r s t : Record Cell, decide (inOrder keys r s) → decide (inOrder keys s t) →
      decide (inOrder keys r t) := by
    intro r s t hrs hst
    rw [decide_eq_true_iff] at hrs hst ⊢
    exact inOrder_trans hrs hst
  have htotal : ∀ r s : Record Cell, decide (inOrder keys r s) || decide (inOrder keys s r) := by
    intro r s
    rw [Bool.or_eq_true, decide_eq_true_iff, decide_eq_true_iff]
    exact inOrder_total keys r s
  have hsorted := List.pairwise_mergeSort htrans htotal rows
  exact ⟨_, .order (List.mergeSort_perm rows _) (hsorted.imp of_decide_eq_true)⟩

/-- A step gives something for all rows, once the tables are bound that it looks rows up in. -/
theorem exists_gives (step : Step) (henv : ∀ table ∈ lookups step, (env table).isSome)
    (rows : List (Record Cell)) : ∃ out, Gives engine env step rows out := by
  cases step with
  | filter condition => exact ⟨_, .filter condition rows⟩
  | summarize columns by_ => exact exists_summarize columns by_ rows
  | within table columns =>
    obtain ⟨other, hother⟩ := Option.isSome_iff_exists.mp (henv table List.mem_cons_self)
    exact ⟨_, .within columns hother (List.Perm.refl _)⟩
  | order keys => exact exists_order keys rows
  | take n => exact ⟨_, .take n rows⟩
  | number column restart => exact ⟨_, .number column restart rows⟩
  | drop column => exact ⟨_, .drop column rows⟩

theorem exists_pipeline {steps : List Step}
    (henv : ∀ table ∈ steps.flatMap lookups, (env table).isSome) (rows : List (Record Cell)) :
    ∃ out, Pipeline engine env steps rows out := by
  induction steps generalizing rows with
  | nil => exact ⟨rows, .done rows⟩
  | cons step steps ih =>
    rw [List.flatMap_cons, List.forall_mem_append] at henv
    obtain ⟨middle, hfirst⟩ := exists_gives step henv.1 rows
    obtain ⟨out, hrest⟩ := ih henv.2 middle
    exact ⟨out, .step hfirst hrest⟩

/-- Bindings compute something when each one names tables that are bound before it. -/
theorem exists_runs {bindings : List Binding}
    (h : ∀ earlier binding later, bindings = earlier ++ binding :: later →
      ∀ table ∈ binding.source :: binding.steps.flatMap lookups,
        (env table).isSome ∨ table ∈ earlier.map Binding.name) :
    ∃ last, Runs engine bindings env last := by
  induction bindings generalizing env with
  | nil => exact ⟨env, .done env⟩
  | cons binding bindings ih =>
    have hfirst : ∀ table ∈ binding.source :: binding.steps.flatMap lookups,
        (env table).isSome := by
      intro table htable
      exact (h [] binding bindings rfl table htable).resolve_right List.not_mem_nil
    obtain ⟨hsource, hlookups⟩ := List.forall_mem_cons.mp hfirst
    obtain ⟨rows, hrows⟩ := Option.isSome_iff_exists.mp hsource
    obtain ⟨out, hout⟩ : ∃ out, Pipeline engine env binding.steps rows out :=
      exists_pipeline hlookups rows
    have hrest : ∀ earlier other later, bindings = earlier ++ other :: later →
        ∀ table ∈ other.source :: other.steps.flatMap lookups,
          (Function.update env binding.name (some out) table).isSome ∨
            table ∈ earlier.map Binding.name := by
      rintro earlier other later rfl table htable
      by_cases hown : table = binding.name
      · rw [hown, Function.update_self]
        exact Or.inl rfl
      · rw [Function.update_of_ne hown]
        refine (h (binding :: earlier) other later rfl table htable).imp_right fun hmem => ?_
        exact List.mem_of_ne_of_mem hown hmem
    obtain ⟨last, hlast⟩ := ih hrest
    exact ⟨last, .bind hrows hout hlast⟩

end Relational

/-! ## The levels of a statement -/

namespace BucketNode

/-- A level looks rows up in the level of its parent. -/
theorem lookups_steps (node : BucketNode) :
    node.steps.flatMap lookups = node.parent.toList.map levelVariable := by
  have hwithin : node.withinSteps.flatMap lookups = node.parent.toList.map levelVariable := by
    unfold withinSteps
    cases node.parent <;> rfl
  have hcount : node.countSteps.flatMap lookups = [] := by
    unfold countSteps
    split_ifs <;> rfl
  have hlimit : node.limitSteps.flatMap lookups = [] := by
    unfold limitSteps
    cases node.plan.limit with
    | none => rfl
    | some n => cases node.ancestorColumns <;> rfl
  rw [steps, List.flatMap_append, List.flatMap_append, List.flatMap_append, List.flatMap_cons,
    hwithin, hcount, hlimit]
  simp [groupSteps, lookups]

end BucketNode

namespace Relational

/-- The tables of the levels, by their numbers. -/
def levelTables (tables : Environment Cell) (number : Nat) : List (Record Cell) :=
  (tables (levelVariable number)).getD []

end Relational

/-- The rows of the table that the statement selects. -/
def Batch.selected (batch : Batch) (engine : Relational.Engine Cell) (source : List (Record Cell)) :
    List (Record Cell) :=
  source.filter fun row => batch.filter.holds (engine.truth row)

namespace AggregationPlan

variable {plans : List AggregationPlan} {node : BucketNode}

/-- Numbers grow from node to node. -/
theorem pairwise_number (plans : List AggregationPlan) :
    (nodesOfAll 0 none [] plans).Pairwise fun node other => node.number < other.number := by
  rw [← List.pairwise_map (f := BucketNode.number) (R := (· < ·)), map_number_nodesOfAll]
  exact List.pairwise_lt_range'

/-- The names of bindings behind a node are those of higher numbers. -/
theorem lt_of_mem_names {earlier later : List BucketNode}
    (hnodes : nodesOfAll 0 none [] plans = earlier ++ node :: later) {number : Nat}
    (h : levelVariable number ∈ (later.map BucketNode.binding).map Binding.name) :
    node.number < number := by
  have hlater := (List.pairwise_append.mp (hnodes ▸ pairwise_number plans)).2.1
  rw [List.map_map, List.mem_map] at h
  obtain ⟨other, hother, hname⟩ := h
  rw [← levelVariable_injective hname]
  exact List.rel_of_pairwise_cons hlater hother

theorem data_notMem_names (nodes : List BucketNode) :
    "_data" ∉ (nodes.map BucketNode.binding).map Binding.name := by
  rw [List.map_map, List.mem_map]
  rintro ⟨node, _, hname⟩
  exact levelVariable_ne_data node.number hname

variable {engine : Relational.Engine Cell} {selected : List (Record Cell)}
  {tables : Environment Cell}

/-- Each level computes its table from the selected rows, and looks rows up in the table of its
parent as it is in the end. -/
theorem exists_pipeline_of_runs
    (h : Runs engine ((nodesOfAll 0 none [] plans).map BucketNode.binding)
      (single "_data" selected) tables) (hnode : node ∈ nodesOfAll 0 none [] plans) :
    ∃ env out, Pipeline engine env node.steps selected out ∧
      tables (levelVariable node.number) = some out ∧
      ∀ number < node.number, env (levelVariable number) = tables (levelVariable number) := by
  have hdata : tables "_data" = some selected := by
    rw [h.eq_of_not_mem (data_notMem_names _), single, Function.update_self]
  obtain ⟨earlier, later, hnodes⟩ := List.append_of_mem hnode
  rw [hnodes, List.map_append, List.map_cons] at h
  have hdistinct : node.binding.name ∉ (later.map BucketNode.binding).map Binding.name :=
    fun hmem => lt_irrefl _ (lt_of_mem_names hnodes hmem)
  obtain ⟨env, rows, out, hrows, hpipeline, hout, hsame⟩ := h.exists_pipeline hdistinct
  have hselected : rows = selected := by
    have hsource := hsame "_data" (data_notMem_names (node :: later))
    have hread : env "_data" = some rows := hrows
    rw [hdata, hread, Option.some.injEq] at hsource
    exact hsource.symm
  refine ⟨env, out, hselected ▸ hpipeline, hout, fun number hlt => (hsame _ fun hmem => ?_).symm⟩
  rcases List.mem_cons.mp hmem with heq | hlater
  · exact absurd (levelVariable_injective heq) hlt.ne
  · exact absurd (lt_of_mem_names hnodes hlater) hlt.not_gt

/-- The parent of a node stands before it. -/
theorem exists_earlier {earlier later : List BucketNode}
    (hnodes : nodesOfAll 0 none [] plans = earlier ++ node :: later) {parent : Nat}
    (hparent : node.parent = some parent) : ∃ above ∈ earlier, above.number = parent := by
  have hnode : node ∈ nodesOfAll 0 none [] plans := by
    rw [hnodes]
    exact List.mem_append_right _ List.mem_cons_self
  rcases (parent_of_mem_nodesOfAll 0 none [] plans node hnode).2 with
    hnone | ⟨p, hp, _, hlevel, hlt⟩
  · rw [hparent] at hnone
    cases hnone
  · rw [hparent, Option.some.injEq] at hp
    subst hp
    rw [Nat.zero_add] at hlevel
    obtain ⟨above, habove, rfl⟩ := exists_node [] hlevel
    refine ⟨above, ?_, rfl⟩
    rw [hnodes, List.mem_append, List.mem_cons] at habove
    rcases habove with habove | rfl | habove
    · exact habove
    · exact absurd hlt (lt_irrefl _)
    · -- the numbers behind a node are higher
      have hlater := (List.pairwise_append.mp (hnodes ▸ pairwise_number plans)).2.1
      exact absurd (List.rel_of_pairwise_cons hlater habove) hlt.not_gt

/-- The levels of a statement compute tables from all selected rows. -/
theorem exists_runs_levels (plans : List AggregationPlan) (engine : Relational.Engine Cell)
    (selected : List (Record Cell)) :
    ∃ tables, Runs engine ((nodesOfAll 0 none [] plans).map BucketNode.binding)
      (single "_data" selected) tables := by
  refine exists_runs fun earlier binding later hbindings table htable => ?_
  obtain ⟨before, behind, hnodes, rfl, hbehind⟩ := List.map_eq_append_iff.mp hbindings
  obtain ⟨node, after, rfl, rfl, rfl⟩ := List.map_eq_cons_iff.mp hbehind
  rcases List.mem_cons.mp htable with rfl | htable
  · exact Or.inl (by simp [single, BucketNode.binding])
  · -- the parent of a node has a lower number, so that it is bound before the node
    have hlookups : table ∈ node.parent.toList.map levelVariable :=
      node.lookups_steps ▸ htable
    obtain ⟨parent, hparent, rfl⟩ := List.mem_map.mp hlookups
    obtain ⟨above, habove, rfl⟩ := exists_earlier hnodes (Option.mem_toList.mp hparent)
    exact Or.inr (List.mem_map_of_mem (List.mem_map_of_mem habove))

end AggregationPlan

/-- What the steps behind the selected table give are the rows that the condition selects. -/
theorem Batch.pipeline_selection {batch : Batch} (h : batch.filter.Readable)
    (engine : Relational.Engine Cell) (env : Environment Cell) (source out : List (Record Cell)) :
    Pipeline engine env batch.selection.steps source out ↔ out = batch.selected engine source := by
  have hpasses (row : Record Cell) : engine.passes (Kql.tokensOf batch.filter.text) row =
      batch.filter.holds (engine.truth row) := by
    have htruth := batch.filter.truth?_text h (engine.truth row)
    rw [Kql.Expression.read?, (scans_filter h).tokens?_eq, Option.bind_some] at htruth
    rw [Relational.Engine.passes, htruth, Option.getD_some]
  rw [selection, pipeline_filter, selected, funext hpasses]

namespace Search

variable {search : Search} {plan : Plan} {database : String} {batch : Batch}

/-- The text of the statement for a search is read as a statement that computes tables from all
source rows. Whichever tables it computes, it shows one for each level of buckets, which holds the
first buckets of the level below each bucket of its parent, in order, with their numbers of rows. -/
theorem buckets_computed (hplan : search.plan = .ok plan) (hbatch : plan.batch database = .ok batch)
    (hrank : ∀ node ∈ AggregationPlan.nodesOfAll 0 none [] plan.aggregations,
      Counter.rank.column ∉ node.columns)
    (engine : Relational.Engine Cell) (source : List (Record Cell)) :
    ∃ statement, Statement.read? batch.text = some statement ∧
      statement.selection.database = batch.database ∧ statement.selection.table = batch.table ∧
      (∃ tables, Computes engine statement source tables) ∧
      ∀ tables, Computes engine statement source tables →
        ∀ node ∈ AggregationPlan.nodesOfAll 0 none [] plan.aggregations,
          (levelVariable node.number, node.table.table) ∈ statement.shown ∧
          tables (levelVariable node.number) = some (levelTables tables node.number) ∧
          node.Computed engine (batch.selected engine source) (levelTables tables) := by
  have hfilter : batch.filter.Readable := plan.filter_of_batch hbatch ▸ readable_filter hplan
  have hselected := batch.pipeline_selection hfilter engine (fun _ => none) source
  refine ⟨plan.statement batch, read?_text hplan hbatch, rfl, rfl, ?_, ?_⟩
  · obtain ⟨tables, htables⟩ := AggregationPlan.exists_runs_levels plan.aggregations engine
      (batch.selected engine source)
    exact ⟨tables, _, (hselected _).mpr rfl, htables⟩
  · rintro tables ⟨selected, hpipeline, hruns⟩ node hnode
    obtain rfl := (hselected selected).mp hpipeline
    have hbound : ∀ other ∈ AggregationPlan.nodesOfAll 0 none [] plan.aggregations,
        tables (levelVariable other.number) = some (levelTables tables other.number) := by
      intro other hother
      obtain ⟨_, out, _, hout, _⟩ := AggregationPlan.exists_pipeline_of_runs hruns hother
      rw [levelTables, hout, Option.getD_some]
    obtain ⟨env, out, hsteps, hout, hbefore⟩ :=
      AggregationPlan.exists_pipeline_of_runs hruns hnode
    obtain rfl : out = levelTables tables node.number :=
      Option.some.inj (hout.symm.trans (hbound node hnode))
    refine ⟨List.mem_map_of_mem hnode, hout, ?_⟩
    refine BucketNode.computed_of_pipeline ((plan.levels_of_batch hbatch).distinct node hnode)
      (hrank node hnode) (fun parent hparent => ?_) hsteps
    rw [hbefore parent (plan.parent_lt hnode hparent)]
    rcases AggregationPlan.ancestors_of_mem_nodesOfAll 0 none [] plan.aggregations node hnode with
      ⟨hnone, _⟩ | ⟨above, habove, hparent', _⟩
    · rw [hparent] at hnone
      cases hnone
    · rw [hparent, Option.some.injEq] at hparent'
      rw [hparent']
      exact hbound above habove

end Search

/-- The busiest user of each of the two busiest hosts. -/
def busiestUsers : Search where
  index := "logs"
  query := .matchAll
  aggregations := [.node "host" (.terms "host" 2 .countDesc 1)
    [.node "user" (.terms "user" 1 .countDesc 2) []]]
  hits := ⟨0, 0, [], .none, false⟩

/-- An engine for cells that are null or a number, for keys that are values of fields. -/
def fieldEngine : Relational.Engine (WithBot Nat) where
  natural n := n
  natural_strictMono := WithBot.coe_strictMono
  truth
    | row, .notEmpty field => cell field row ≠ ⊥
    | row, .holds (.column field) .atLeast (.number numeral) =>
      (Text.natural? numeral.toList).any fun n => n ≤ cell field row
    | _, _ => false
  condition
    | [.name field, .mark "<=", .number numeral], row =>
      (Text.natural? numeral.toList).any fun n => cell field row ≤ n
    | _, _ => false
  value
    | [.column field], row => cell field row
    | _, _ => ⊥
  aggregate
    | [.name "count", .opening, .closing], rows => rows.length
    | _, _ => ⊥
  aggregate_countTokens _ := rfl
  truth_atLeast := by
    intro row column numeral m n hcell hnumeral
    simp [hcell, hnumeral]
  condition_atMost := by
    intro row column numeral m n hcell hnumeral
    simp [hcell, hnumeral]

/-- Three rows of one host and one row of another. -/
def hostRows : List (Record (WithBot Nat)) :=
  [[("host", 1), ("user", 5)], [("host", 2), ("user", 5)], [("host", 1), ("user", 6)],
    [("host", 1), ("user", 6)]]

theorem Search.buckets_computed_busiestUsers :
    ∃ plan batch, busiestUsers.plan = .ok plan ∧ plan.batch "db" = .ok batch ∧
      (∀ node ∈ AggregationPlan.nodesOfAll 0 none [] plan.aggregations,
        Counter.rank.column ∉ node.columns) ∧
      ∃ statement, Statement.read? batch.text = some statement ∧
        statement.selection.database = batch.database ∧
        statement.selection.table = batch.table ∧
        (∃ tables, Computes fieldEngine statement hostRows tables) ∧
        ∀ tables, Computes fieldEngine statement hostRows tables →
          ∀ node ∈ AggregationPlan.nodesOfAll 0 none [] plan.aggregations,
            (levelVariable node.number, node.table.table) ∈ statement.shown ∧
            tables (levelVariable node.number) = some (levelTables tables node.number) ∧
            node.Computed fieldEngine (batch.selected fieldEngine hostRows)
              (levelTables tables) := by
  obtain ⟨plan, hplan, haggregations⟩ : ∃ plan, busiestUsers.plan = .ok plan ∧
      plan.aggregations = [.bucket ⟨"host", .value "host", .countDesc, some 2, 1⟩
        [.bucket ⟨"user", .value "user", .countDesc, some 1, 2⟩ []]] := ⟨_, rfl, rfl⟩
  obtain ⟨batch, hbatch⟩ : ∃ batch, plan.batch "db" = .ok batch := by
    cases hplan
    exact ⟨_, rfl⟩
  have hrank : ∀ node ∈ AggregationPlan.nodesOfAll 0 none [] plan.aggregations,
      Counter.rank.column ∉ node.columns := by
    rw [haggregations]
    intro node hnode
    rcases List.mem_pair.mp hnode with rfl | rfl
    · show "_rank" ∉ ["host", "doc_count"]
      simp
    · show "_rank" ∉ ["host", "user", "doc_count"]
      simp
  exact ⟨plan, batch, hplan, hbatch, hrank,
    buckets_computed hplan hbatch hrank fieldEngine hostRows⟩

end KustoSearch
