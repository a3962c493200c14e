import KustoSearch.Proofs.Plan.Ranking
import KustoSearch.Proofs.Plan.StageSteps
import Mathlib.Data.List.Perm.Basic

/-! # The groups of a level

The rows of a level are rows of groups at every step. A step drops groups or changes their order;
which groups are left is said with a property of their keys: `AreGroups`. After all steps the
groups are those that can be buckets: `BucketNode.exists_sorted`.
-/

namespace KustoSearch

namespace Relational

variable {Cell : Type} [LinearOrder Cell] [OrderBot Cell]

/-- Whether a row has a key. -/
def Engine.hasKey (engine : Engine Cell) (key : BucketKey) (row : Record Cell) : Bool :=
  engine.passes key.guardTokens row

/-- The key of a row. -/
def Engine.key (engine : Engine Cell) (key : BucketKey) (row : Record Cell) : Cell :=
  engine.value key.tokens row

/-! ## The row of a group -/

theorem cell_cons_self (column : String) (value : Cell) (row : Record Cell) :
    cell column ((column, value) :: row) = value := by
  simp [cell, member?]

theorem cell_cons_of_ne {column name : String} (h : name ≠ column) (value : Cell)
    (row : Record Cell) : cell column ((name, value) :: row) = cell column row := by
  simp [cell, member?, h]

theorem cell_append_of_forall_ne {column : String} {row : Record Cell}
    (h : Lacks column row) (more : Record Cell) : cell column (row ++ more) = cell column more := by
  induction row with
  | nil => rfl
  | cons c row ih =>
    rw [List.cons_append, cell_cons_of_ne (h c (by simp))]
    exact ih fun c hc => h c (List.mem_cons_of_mem _ hc)

/-- The columns that a row begins with have their values. -/
theorem cells_zip_append {columns : List String} {keys : List Cell} (h : columns.Nodup)
    (hlength : keys.length = columns.length) (more : Record Cell) :
    cells columns (columns.zip keys ++ more) = keys := by
  induction columns generalizing keys with
  | nil => exact (List.length_eq_zero_iff.mp hlength).symm
  | cons column columns ih =>
    obtain ⟨key, keys, rfl⟩ := List.exists_cons_of_length_eq_add_one hlength
    obtain ⟨hcolumn, hcolumns⟩ := List.nodup_cons.mp h
    have hskip : cells columns ((column, key) :: (columns.zip keys ++ more)) =
        cells columns (columns.zip keys ++ more) := by
      refine List.map_congr_left fun other hother => ?_
      have hne : column ≠ other := fun heq => hcolumn (heq ▸ hother)
      exact cell_cons_of_ne hne _ _
    have hrest : cells columns (columns.zip keys ++ more) = keys :=
      ih hcolumns (by simpa using hlength)
    rw [List.zip_cons_cons, List.cons_append, cells, List.map_cons, cell_cons_self]
    exact congrArg _ (hskip.trans hrest)

omit [LinearOrder Cell] [OrderBot Cell] in
theorem lacks_zip {column : String} {columns : List String} (h : column ∉ columns)
    (keys : List Cell) : Lacks column (columns.zip keys) := by
  intro c hc heq
  exact h (heq ▸ (List.of_mem_zip hc).1)

section

variable (engine : Engine Cell) {columns by_ : List (String × List Kql.Token)}
  (rows : List (Record Cell)) {keys : List Cell}

theorem cells_group (h : (by_.map Prod.fst).Nodup) (hlength : keys.length = by_.length) :
    cells (by_.map Prod.fst) (engine.group columns by_ rows keys) = keys :=
  cells_zip_append h (by simpa using hlength) _

/-- The first column behind the keys. -/
theorem cell_group {column : String} (value : List Kql.Token) (h : column ∉ by_.map Prod.fst)
    (keys : List Cell) : cell column (engine.group ((column, value) :: columns) by_ rows keys) =
      engine.aggregate value (engine.members by_ rows keys) := by
  rw [Engine.group, List.map_cons, cell_append_of_forall_ne (lacks_zip h keys), cell_cons_self]

theorem lacks_group {column : String} (h : column ∉ by_.map Prod.fst ++ columns.map Prod.fst)
    (keys : List Cell) : Lacks column (engine.group columns by_ rows keys) := by
  rw [List.mem_append, not_or] at h
  obtain ⟨hkeys, hcolumns⟩ := h
  intro c hc heq
  rcases List.mem_append.mp hc with hc | hc
  · exact lacks_zip hkeys keys c hc heq
  · obtain ⟨m, hm, rfl⟩ := List.mem_map.mp hc
    exact hcolumns (List.mem_map.mpr ⟨m, hm, heq⟩)

end

/-! ## Sets of groups -/

/-- Whether rows are those of the groups with some property, each once. -/
def AreGroups (row : List Cell → Record Cell) (p : List Cell → Prop)
    (rows : List (Record Cell)) : Prop :=
  ∃ groups : List (List Cell), groups.Nodup ∧ (∀ keys, keys ∈ groups ↔ p keys) ∧
    rows = groups.map row

namespace AreGroups

variable {row : List Cell → Record Cell} {p q : List Cell → Prop} {rows out : List (Record Cell)}

omit [LinearOrder Cell] [OrderBot Cell]

theorem congr (h : AreGroups row p rows) (hpq : ∀ keys, p keys ↔ q keys) :
    AreGroups row q rows := by
  obtain ⟨groups, hnodup, hmem, hrows⟩ := h
  exact ⟨groups, hnodup, fun keys => (hmem keys).trans (hpq keys), hrows⟩

theorem filter (h : AreGroups row p rows) {test : Record Cell → Bool}
    (htest : ∀ keys, p keys → (test (row keys) = true ↔ q keys)) :
    AreGroups row (fun keys => p keys ∧ q keys) (rows.filter test) := by
  obtain ⟨groups, hnodup, hmem, rfl⟩ := h
  refine ⟨groups.filter (test ∘ row), hnodup.filter _, fun keys => ?_, List.filter_map⟩
  rw [List.mem_filter, hmem]
  exact and_congr_right (htest keys)

/-- Rows in another order are those of the same groups. -/
theorem perm (h : AreGroups row p rows) (hperm : out.Perm rows) : AreGroups row p out := by
  obtain ⟨groups, hnodup, hmem, rfl⟩ := h
  have hrow : List.Forall₂ (fun r keys => r = row keys) (groups.map row) groups := by
    rw [List.forall₂_map_left_iff, List.forall₂_same]
    exact fun _ _ => rfl
  obtain ⟨others, hothers, hgroups⟩ := List.perm_comp_forall₂ hperm hrow
  refine ⟨others, hgroups.nodup_iff.mpr hnodup, fun keys => hgroups.mem_iff.trans (hmem keys), ?_⟩
  clear hperm hgroups
  induction hothers with
  | nil => rfl
  | cons heq _ ih => rw [List.map_cons, heq, ih]

end AreGroups

end Relational

open Relational

variable {Cell : Type} [LinearOrder Cell] [OrderBot Cell]

namespace BucketNode

/-! ## Buckets -/

section

variable (node : BucketNode) (engine : Relational.Engine Cell) (selected : List (Record Cell))
  (tables : Nat → List (Record Cell))

/-- The selected rows that have a key. -/
def rows : List (Record Cell) := selected.filter (engine.hasKey node.plan.key)

/-- The number of rows with some keys. -/
def count (keys : List Cell) : Nat :=
  (engine.members node.keyTerms (node.rows engine selected) keys).length

/-- The row of the group with some keys. -/
def group (keys : List Cell) : Record Cell :=
  engine.group node.columnTerms node.keyTerms (node.rows engine selected) keys

/-- Whether some rows have the keys. -/
def Occurs (keys : List Cell) : Prop :=
  ∃ row ∈ node.rows engine selected, engine.keys node.keyTerms row = keys

/-- Whether the keys of the ancestors are those of a bucket of the parent. -/
def Nested (keys : List Cell) : Prop :=
  ∀ parent, node.parent = some parent →
    keys.dropLast ∈ (tables parent).map (cells node.ancestorColumns)

/-- Whether the group with some keys can be a bucket. -/
structure Eligible (keys : List Cell) : Prop where
  occurs : node.Occurs engine selected keys
  nested : node.Nested tables keys
  enough : node.plan.minDocCount ≤ node.count engine selected keys

/-- The first rows below each parent, as many as the limit allows. -/
def firstRows (sorted : List (Record Cell)) : List (Record Cell) :=
  match node.plan.limit with
  | none => sorted
  | some n =>
    if node.ancestorColumns.isEmpty then sorted.take n
    else firsts node.ancestorColumns n none sorted

end

variable {node : BucketNode} {engine : Relational.Engine Cell} {selected : List (Record Cell)}
  {tables : Nat → List (Record Cell)} {env : Environment Cell} {rows out : List (Record Cell)}

theorem map_fst_keyTerms (node : BucketNode) : node.keyTerms.map Prod.fst = node.keyColumns := by
  rw [keyTerms, keys, List.map_map, List.map_map]
  rfl

theorem map_fst_columnTerms (node : BucketNode) :
    node.columnTerms.map Prod.fst = Aggregation.docCountColumn :: node.metricColumns := by
  rw [columnTerms, List.map_cons, List.map_map]
  rfl

theorem columns_eq_terms (node : BucketNode) : node.columns =
    node.keyTerms.map Prod.fst ++ node.columnTerms.map Prod.fst := by
  rw [map_fst_keyTerms, map_fst_columnTerms, columns, List.append_assoc, List.singleton_append]

theorem cells_keyColumns (node : BucketNode) (row : Record Cell) :
    cells node.keyColumns row = cells node.ancestorColumns row ++ [cell node.plan.name row] := by
  rw [keyColumns_eq, cells, List.map_append]
  rfl

theorem Occurs.length {keys : List Cell} (h : node.Occurs engine selected keys) :
    keys.length = node.keyTerms.length := by
  obtain ⟨row, _, rfl⟩ := h
  simp [Relational.Engine.keys]

theorem Occurs.count_pos {keys : List Cell} (h : node.Occurs engine selected keys) :
    0 < node.count engine selected keys := by
  obtain ⟨row, hrow, hkeys⟩ := h
  exact List.length_pos_of_mem (List.mem_filter.mpr ⟨hrow, decide_eq_true hkeys⟩)

/-- The row of a group has the keys of the group. -/
theorem cells_group_keyColumns (hcolumns : node.columns.Nodup) {keys : List Cell}
    (h : node.Occurs engine selected keys) :
    cells node.keyColumns (node.group engine selected keys) = keys := by
  rw [columns_eq_terms] at hcolumns
  rw [← map_fst_keyTerms]
  exact cells_group engine (node.rows engine selected) (List.nodup_append.mp hcolumns).1 h.length

theorem cells_group_ancestorColumns (hcolumns : node.columns.Nodup) {keys : List Cell}
    (h : node.Occurs engine selected keys) :
    cells node.ancestorColumns (node.group engine selected keys) = keys.dropLast := by
  have hcells := cells_group_keyColumns hcolumns h
  rw [cells_keyColumns] at hcells
  rw [← hcells, List.dropLast_concat, hcells]

theorem cell_group_docCount (hcolumns : node.columns.Nodup) (keys : List Cell) :
    cell Aggregation.docCountColumn (node.group engine selected keys) =
      engine.natural (node.count engine selected keys) := by
  rw [columns_eq_terms, map_fst_columnTerms] at hcolumns
  have hnew : Aggregation.docCountColumn ∉ node.keyTerms.map Prod.fst := fun hmem =>
    (List.nodup_append.mp hcolumns).2.2 _ hmem _ List.mem_cons_self rfl
  rw [group, columnTerms, cell_group engine _ _ hnew, engine.aggregate_countTokens]
  rfl

/-! ## Steps of a level -/

theorem areGroups_of_group (h : Pipeline engine env node.groupSteps selected out) :
    AreGroups (node.group engine selected) (node.Occurs engine selected) out := by
  obtain _ | ⟨⟨_, _⟩, hrest⟩ := h
  obtain _ | ⟨hgroup, hdone⟩ := hrest
  cases hdone
  cases hgroup with
  | summarize _ _ hdistinct hmem => exact ⟨_, hdistinct, hmem, rfl⟩

theorem areGroups_of_within (hcolumns : node.columns.Nodup)
    (henv : ∀ parent, node.parent = some parent →
      env (levelVariable parent) = some (tables parent))
    (hrows : AreGroups (node.group engine selected) (node.Occurs engine selected) rows)
    (h : Pipeline engine env node.withinSteps rows out) :
    AreGroups (node.group engine selected)
      (fun keys => node.Occurs engine selected keys ∧ node.Nested tables keys) out := by
  unfold withinSteps at h
  cases hparent : node.parent with
  | none =>
    rw [hparent] at h
    cases h
    refine hrows.congr fun keys => ⟨fun hkeys => ⟨hkeys, fun parent h => ?_⟩, And.left⟩
    rw [hparent] at h
    cases h
  | some parent =>
    rw [hparent] at h
    obtain _ | ⟨hwithin, hdone⟩ := h
    cases hdone
    cases hwithin with
    | within _ hnamed hperm =>
      rw [henv parent hparent, Option.some.injEq] at hnamed
      subst hnamed
      refine (hrows.filter fun keys hkeys => ?_).perm hperm
      -- the row of a group has the keys of the ancestors in their columns
      rw [cells_group_ancestorColumns hcolumns hkeys, Nested, hparent]
      simp [List.mem_map]

/-- The numeral of a number is read as the number. -/
theorem natural?_naturalText (n : Nat) :
    Text.natural? (Text.naturalText n).toList = some n := by
  rw [Text.toList_naturalText, Text.natural?_decimal]

theorem areGroups_of_count (hcolumns : node.columns.Nodup)
    (hrows : AreGroups (node.group engine selected)
      (fun keys => node.Occurs engine selected keys ∧ node.Nested tables keys) rows)
    (h : Pipeline engine env node.countSteps rows out) :
    AreGroups (node.group engine selected) (node.Eligible engine selected tables) out := by
  unfold countSteps at h
  split_ifs at h with hmin
  · rw [pipeline_filter] at h
    subst h
    refine (hrows.filter (q := fun keys => node.plan.minDocCount ≤ node.count engine selected keys)
      fun keys _ => ?_).congr fun keys => ?_
    · exact engine.passes_atLeast (cell_group_docCount hcolumns keys) (natural?_naturalText _)
    · exact ⟨fun ⟨⟨hoccurs, hnested⟩, henough⟩ => ⟨hoccurs, hnested, henough⟩,
        fun ⟨hoccurs, hnested, henough⟩ => ⟨⟨hoccurs, hnested⟩, henough⟩⟩
  · cases h
    refine hrows.congr fun keys => ⟨fun ⟨hoccurs, hnested⟩ => ⟨hoccurs, hnested, ?_⟩,
      fun h => ⟨h.occurs, h.nested⟩⟩
    -- every group has a row
    have hpos := hoccurs.count_pos
    omega

/-- What is left of sorted rows. -/
theorem eq_firstRows_of_limit {sorted : List (Record Cell)}
    (hrank : ∀ row ∈ sorted, Lacks Counter.rank.column row)
    (h : Pipeline engine env node.limitSteps sorted out) : out = node.firstRows sorted := by
  unfold limitSteps at h
  unfold firstRows
  cases hlimit : node.plan.limit with
  | none =>
    rw [hlimit] at h
    cases h
    rfl
  | some n =>
    rw [hlimit] at h
    simp only at h
    split_ifs at h with htop
    · obtain _ | ⟨htake, hdone⟩ := h
      cases hdone
      cases htake
      simp [htop]
    · -- the rows are numbered, those with small numbers are kept, and the numbers are dropped
      obtain _ | ⟨hnumbered, h⟩ := h
      obtain _ | ⟨hatMost, h⟩ := h
      obtain _ | ⟨hdrop, hdone⟩ := h
      cases hdone
      cases hdrop
      cases hatMost
      cases hnumbered
      rw [numbered_eq_firsts engine _ (natural?_naturalText n) none hrank]
      simp [htop]

/-- A level has the first rows below each parent, of all groups that can be buckets, in order. -/
theorem exists_sorted (hcolumns : node.columns.Nodup)
    (hrank : Counter.rank.column ∉ node.columns)
    (henv : ∀ parent, node.parent = some parent →
      env (levelVariable parent) = some (tables parent))
    (h : Pipeline engine env node.steps selected out) :
    ∃ sorted : List (Record Cell),
      AreGroups (node.group engine selected) (node.Eligible engine selected tables) sorted ∧
      sorted.Pairwise (inOrder node.orderKeys) ∧ out = node.firstRows sorted := by
  rw [steps, pipeline_append] at h
  obtain ⟨counted, h, horder⟩ := h
  obtain ⟨within, h, hcount⟩ := pipeline_append.mp h
  obtain ⟨grouped, hgroup, hwithin⟩ := pipeline_append.mp h
  have hgrouped := areGroups_of_group hgroup
  have hnested := areGroups_of_within hcolumns henv hgrouped hwithin
  have hcounted := areGroups_of_count hcolumns hnested hcount
  obtain _ | ⟨horder, hlimit⟩ := horder
  cases horder with
  | order hperm hsorted =>
    have hgroups := hcounted.perm hperm
    refine ⟨_, hgroups, hsorted, eq_firstRows_of_limit ?_ hlimit⟩
    obtain ⟨groups, _, _, rfl⟩ := hgroups
    intro row hrow
    obtain ⟨keys, _, rfl⟩ := List.mem_map.mp hrow
    rw [columns_eq_terms] at hrank
    exact lacks_group engine _ hrank keys

end BucketNode

end KustoSearch
