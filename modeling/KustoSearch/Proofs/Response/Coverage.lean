import KustoSearch.Proofs.Response.Total

/-! # Paths that a walk visits

A walk visits, at each node, the key path of every row that it took at the parent of the node.
When every row has a parent it leaves no row behind: `held_eq_nil`.
-/

namespace KustoSearch

namespace Mapper

variable {layout : Layout} {result : Result}

/-- The key path of a row that was delivered for a level. -/
def PathOf (layout : Layout) (result : Result) (level : Nat) (row : Row) (path : List Json) :
    Prop :=
  ∃ listed table, listed? layout result level = some (listed, table) ∧
    values table listed.keyColumns row = path

/-- Whether some visits cover the nodes below a parent: the nodes directly below it are visited
for a path, and the other ones for the path of every row that was taken at their parents. -/
structure Covers (layout : Layout) (result : Result) (nodes : List BucketNode)
    (parent : Option Nat) (path : List Json) (taken : List (Nat × Row))
    (visits : List (Nat × List Json)) : Prop where
  top : ∀ node ∈ nodes, node.parent = parent → (node.number, path) ∈ visits
  below : ∀ node ∈ nodes, ∀ p, node.parent = some p → some p ≠ parent → ∀ row,
    (p, row) ∈ taken → ∀ keys, PathOf layout result p row keys → (node.number, keys) ∈ visits

theorem pathOf_unique {level : Nat} {row : Row} {path keys : List Json}
    (h : PathOf layout result level row path) (h' : PathOf layout result level row keys) :
    path = keys := by
  obtain ⟨listed, table, hlisted, rfl⟩ := h
  obtain ⟨listed', table', hlisted', rfl⟩ := h'
  rw [hlisted] at hlisted'
  cases hlisted'
  rfl

theorem mem_visitsBelow {t : Nat × List Json} {items : List TracedBucket} :
    t ∈ Trace.visitsBelow items ↔ ∃ item ∈ items, t ∈ Trace.visitsOfAll item.2.2 := by
  induction items with
  | nil => simp [Trace.visitsBelow]
  | cons item items ih =>
    obtain ⟨row, head, below⟩ := item
    rw [Trace.visitsBelow, List.mem_append, ih]
    simp

/-- Two lists of nodes are covered when no row of one list was taken at a parent in the other. -/
theorem Covers.append {nodes more : List BucketNode} {parent : Option Nat} {path : List Json}
    {taken moreTaken : List (Nat × Row)} {visits moreVisits : List (Nat × List Json)}
    (h : Covers layout result nodes parent path taken visits)
    (h' : Covers layout result more parent path moreTaken moreVisits)
    (hfirst : ∀ node ∈ nodes, ∀ p, node.parent = some p → some p ≠ parent →
      ∀ t ∈ moreTaken, t.1 ≠ p)
    (hrest : ∀ node ∈ more, ∀ p, node.parent = some p → some p ≠ parent →
      ∀ t ∈ taken, t.1 ≠ p) :
    Covers layout result (nodes ++ more) parent path (taken ++ moreTaken)
      (visits ++ moreVisits) := by
  constructor
  case top =>
    intro node hnode hparent
    rcases List.mem_append.mp hnode with hnode | hnode
    · exact List.mem_append_left _ (h.top node hnode hparent)
    · exact List.mem_append_right _ (h'.top node hnode hparent)
  case below =>
    intro node hnode p hp hne row hrow keys hkeys
    rcases List.mem_append.mp hnode with hnode | hnode
    · rcases List.mem_append.mp hrow with hrow | hrow
      · exact List.mem_append_left _ (h.below node hnode p hp hne row hrow keys hkeys)
      · exact absurd rfl (hfirst node hnode p hp hne _ hrow)
    · rcases List.mem_append.mp hrow with hrow | hrow
      · exact absurd rfl (hrest node hnode p hp hne _ hrow)
      · exact List.mem_append_right _ (h'.below node hnode p hp hne row hrow keys hkeys)

/-- What is below a bucket covers some nodes for the key path of the row of the bucket, and all
rows taken there are of deeper levels. A bucket of no row has nothing below it. -/
def CoversBelow (layout : Layout) (result : Result) (level : Nat) (nodes : List BucketNode)
    (item : TracedBucket) : Prop :=
  match item.1 with
  | none => Trace.rowsOfAll item.2.2 = []
  | some row => ∃ keys, PathOf layout result level row keys ∧
      Covers layout result nodes (some level) keys (Trace.rowsOfAll item.2.2)
        (Trace.visitsOfAll item.2.2) ∧
      ∀ t ∈ Trace.rowsOfAll item.2.2, level < t.1

theorem mem_visitsBelow_of_covers {level : Nat} {nodes : List BucketNode}
    {items : List TracedBucket} (h : ∀ item ∈ items, CoversBelow layout result level nodes item)
    {node : BucketNode} (hnode : node ∈ nodes) {p : Nat} (hp : node.parent = some p) {row : Row}
    (hrow : (p, row) ∈ (Trace.ownRows items).map (level, ·) ++ Trace.rowsBelow items)
    {keys : List Json} (hkeys : PathOf layout result p row keys) :
    (node.number, keys) ∈ Trace.visitsBelow items := by
  rw [mem_visitsBelow]
  rcases List.mem_append.mp hrow with hrow | hrow
  · -- the row of a bucket itself, so that the node is directly below the level
    obtain ⟨r, hr, heq⟩ := List.mem_map.mp hrow
    cases heq
    obtain ⟨item, hitem, hown⟩ := List.mem_filterMap.mp hr
    have hbelow := h item hitem
    rw [CoversBelow, hown] at hbelow
    obtain ⟨keys', hkeys', hcovers, _⟩ := hbelow
    rw [pathOf_unique hkeys hkeys']
    exact ⟨item, hitem, hcovers.top node hnode hp⟩
  · obtain ⟨item, hitem, hrow⟩ := Trace.mem_rowsBelow.mp hrow
    have hbelow := h item hitem
    rw [CoversBelow] at hbelow
    cases hown : item.1 with
    | none =>
      rw [hown] at hbelow
      rw [hbelow] at hrow
      exact absurd hrow List.not_mem_nil
    | some r =>
      rw [hown] at hbelow
      obtain ⟨keys', _, hcovers, hbounds⟩ := hbelow
      have hlt := hbounds _ hrow
      refine ⟨item, hitem, hcovers.below node hnode p hp (fun heq => ?_) row hrow keys hkeys⟩
      cases heq
      exact absurd hlt (lt_irrefl _)

mutual

/-- The visits of a trace cover the nodes of its aggregation. -/
theorem covers_of_follows {level : Nat} {parent : Option Nat} (ancestors : List BucketPlan)
    {path : List Json} {trace : Trace} (hparent : ∀ p, parent = some p → p < level) :
    (plan : AggregationPlan) → Follows layout result level path plan trace →
    Covers layout result (plan.nodes level parent ancestors) parent path trace.rows trace.visits
  | .metric plan => by
    intro _
    exact ⟨by simp [AggregationPlan.nodes], by simp [AggregationPlan.nodes]⟩
  | .bucket plan children => by
    intro h
    cases trace with
    | leaf given => simp [Follows] at h
    | buckets level' path' items =>
      obtain ⟨rfl, rfl, table, rows, hlevel, _, hitems⟩ := h
      have hread := readAs_of_levelRows hlevel.2
      have hbelow : ∀ item ∈ items, CoversBelow layout result level'
          (AggregationPlan.nodesOfAll (level' + 1) (some level') (ancestors ++ [plan]) children)
          item := by
        intro item hitem
        have h := hitems item hitem
        rw [CoversBelow]
        cases hown : item.1 with
        | none =>
          rw [hown] at h
          rw [h.2.2, (emptyTraces_eq children).2.1]
        | some row =>
          rw [hown] at h
          obtain ⟨hvalues, _, raw, hhead, hfollows⟩ := h
          refine ⟨path' ++ [raw], ⟨table, rows.table, hlevel.listed, ?_⟩, ?_, fun t ht => ?_⟩
          · rw [values_keyColumns hread hhead, hvalues]
          · refine covers_of_followsAll _ (fun p hp => ?_) children hfollows
            cases hp
            exact Nat.lt_succ_self _
          · exact ((shownAs_of_followsAll children hfollows).rowBounds t ht).1
      have hsub := AggregationPlan.parent_of_mem_nodesOfAll (level' + 1) (some level')
        (ancestors ++ [plan]) children
      rw [AggregationPlan.nodes, Trace.rows, Trace.visits]
      constructor
      case top =>
        intro node hnode hnodeParent
        rcases List.mem_cons.mp hnode with rfl | hnode
        · exact List.mem_cons_self
        · -- the other nodes are below the level itself, and not below its parent
          exfalso
          rcases (hsub node hnode).2 with h | ⟨p, h, hbounds⟩
          · exact absurd (hparent level' (hnodeParent.symm.trans h)) (lt_irrefl _)
          · have hlt := hparent p (hnodeParent.symm.trans h)
            omega
      case below =>
        intro node hnode p hp hne row hrow keys hkeys
        rcases List.mem_cons.mp hnode with rfl | hnode
        · exact absurd hp.symm hne
        · exact List.mem_cons_of_mem _ (mem_visitsBelow_of_covers hbelow hnode hp hrow hkeys)

/-- The visits of traces cover the nodes of their aggregations. -/
theorem covers_of_followsAll {level : Nat} {parent : Option Nat} (ancestors : List BucketPlan)
    {path : List Json} {traces : List (String × Trace)}
    (hparent : ∀ p, parent = some p → p < level) :
    (plans : List AggregationPlan) → FollowsAll layout result level path plans traces →
    Covers layout result (AggregationPlan.nodesOfAll level parent ancestors plans) parent path
      (Trace.rowsOfAll traces) (Trace.visitsOfAll traces)
  | [] => by
    intro _
    exact ⟨by simp [AggregationPlan.nodesOfAll], by simp [AggregationPlan.nodesOfAll]⟩
  | plan :: plans => by
    intro h
    cases traces with
    | nil => simp [FollowsAll] at h
    | cons named traces =>
      obtain ⟨name, trace⟩ := named
      obtain ⟨rfl, hfirst, hrest⟩ := h
      have hplan := covers_of_follows ancestors hparent plan hfirst
      have hplans := covers_of_followsAll ancestors
        (fun p hp => (hparent p hp).trans_le (Nat.le_add_right _ plan.levelCount)) plans hrest
      have hfirstRows := (shownAs_of_follows plan hfirst).rowBounds
      have hrestRows := (shownAs_of_followsAll plans hrest).rowBounds
      rw [AggregationPlan.nodesOfAll, Trace.rowsOfAll, Trace.visitsOfAll]
      -- the rows at the parent of a node are rows of the same plan, by the numbers of the levels
      refine hplan.append hplans (fun node hnode p hp hne t ht => ?_)
        (fun node hnode p hp hne t ht => ?_)
      · rcases (AggregationPlan.parent_of_mem_nodes _ _ _ plan node hnode).2 with
          h | ⟨q, hq, hbounds⟩
        · exact absurd (hp.symm.trans h) hne
        · have hlow := (hrestRows t ht).1
          rw [hp, Option.some.injEq] at hq
          omega
      · rcases (AggregationPlan.parent_of_mem_nodesOfAll _ _ _ plans node hnode).2 with
          h | ⟨q, hq, hbounds⟩
        · exact absurd (hp.symm.trans h) hne
        · have hhigh := (hfirstRows t ht).2
          rw [hp, Option.some.injEq] at hq
          omega

end

/-! ## No row is left -/

/-- A row of a visited path is not left. -/
theorem not_visited_of_held {visits : List (Nat × List Json)} {level : Nat} {listed : BucketTable}
    {rows : LevelRows} {row : Row} (hread : ReadAs result listed rows)
    (hrow : row ∈ held (rows.without (ofLevel level visits)).groups) :
    (level, values rows.table (ancestorColumns listed) row) ∉ visits := by
  intro hvisit
  obtain ⟨g, hg, hmem⟩ := List.mem_flatMap.mp hrow
  obtain ⟨hg, hkept⟩ := List.mem_filter.mp hg
  have hgone : g.1 ∈ (ofLevel level visits).map groupKey := by
    rw [← hread.grouped.same g hg row hmem]
    exact List.mem_map_of_mem (mem_ofLevel.mpr hvisit)
  simp [hgone] at hkept

/-- A row of a visited path has been taken. -/
theorem mem_taken_of_visited {levels after : Levels} {visits : List (Nat × List Json)}
    {taken : List (Nat × Row)} {level : Nat} {listed : BucketTable} {rows : LevelRows} {row : Row}
    (hwalked : Walked levels after visits taken) (hrows : levels[level]? = some rows)
    (hread : ReadAs result listed rows) (hrow : row ∈ rows.table.rows)
    (hvisit : (level, values rows.table (ancestorColumns listed) row) ∈ visits) :
    (level, row) ∈ taken := by
  have hheld : row ∈ held rows.groups := hread.all.mem_iff.mpr hrow
  rw [(hwalked.rows level rows hrows).mem_iff, List.mem_append] at hheld
  rcases hheld with hleft | htaken
  · exact absurd hvisit (not_visited_of_held hread hleft)
  · exact mem_ofLevel.mp htaken

section Conforming

variable {plans : List AggregationPlan} {levels after : Levels}
  {visits : List (Nat × List Json)} {taken : List (Nat × Row)}

/-- Every node is visited for the key path of every row of its parent. -/
theorem visited_of_ready
    (hready : ∀ node ∈ AggregationPlan.nodesOfAll 0 none [] plans,
      ∃ rows, Ready layout result node node.table rows ∧ levels[node.number]? = some rows)
    (hwalked : Walked levels after visits taken)
    (hcovers : Covers layout result (AggregationPlan.nodesOfAll 0 none [] plans) none [] taken
      visits)
    {node : BucketNode} (hnode : node ∈ AggregationPlan.nodesOfAll 0 none [] plans)
    {path : List Json} (hpath : path ∈ keyPaths layout result node.parent) :
    (node.number, path) ∈ visits := by
  -- parents come before their nodes, so this goes by induction on the number of the node
  generalize hnumber : node.number = number
  induction number using Nat.strong_induction_on generalizing node path with
  | _ number ih =>
    subst hnumber
    cases hparent : node.parent with
    | none =>
      rw [hparent, keyPaths, List.mem_singleton] at hpath
      rw [hpath]
      exact hcovers.top node hnode hparent
    | some p =>
      have hlt : p < node.number := by
        rcases (AggregationPlan.parent_of_mem_nodesOfAll _ _ _ plans node hnode).2 with
          h | ⟨q, hq, hbounds⟩
        · rw [hparent] at h
          cases h
        · rw [hparent, Option.some.injEq] at hq
          omega
      have hcount : node.number < AggregationPlan.levelCounts plans := by
        rw [← AggregationPlan.length_nodesOfAll 0 none [] plans]
        exact (List.getElem?_eq_some_iff.mp (AggregationPlan.getElem?_number hnode)).1
      obtain ⟨above, habove, rfl⟩ :=
        AggregationPlan.exists_node [] (hlt.trans hcount)
      obtain ⟨rows, hrows, hlevel⟩ := hready above habove
      rw [hparent, keyPaths, hrows.level.listed] at hpath
      obtain ⟨row, hrow, rfl⟩ := List.mem_map.mp hpath
      have hvisit := ih above.number hlt habove (hrows.parents row hrow) rfl
      have htaken := mem_taken_of_visited hwalked hlevel (readAs_of_levelRows hrows.level.2) hrow
        hvisit
      exact hcovers.below node hnode above.number hparent (by simp) row htaken _
        ⟨above.table, rows.table, hrows.level.listed, rfl⟩

/-- A walk over levels whose rows all have parents leaves no row behind. -/
theorem held_eq_nil
    (hready : ∀ node ∈ AggregationPlan.nodesOfAll 0 none [] plans,
      ∃ rows, Ready layout result node node.table rows ∧ levels[node.number]? = some rows)
    (hwalked : Walked levels after visits taken)
    (hcovers : Covers layout result (AggregationPlan.nodesOfAll 0 none [] plans) none [] taken
      visits)
    (hcount : levels.length = AggregationPlan.levelCounts plans) :
    ∀ rows ∈ after, held rows.groups = [] := by
  intro rows hrows
  obtain ⟨i, hi⟩ := List.getElem?_of_mem hrows
  rw [hwalked.after, getElem?_without] at hi
  obtain ⟨original, horiginal, rfl⟩ := Option.map_eq_some_iff.mp hi
  have hlt : i < AggregationPlan.levelCounts plans := by
    rw [← hcount]
    exact (List.getElem?_eq_some_iff.mp horiginal).1
  obtain ⟨node, hnode, rfl⟩ := AggregationPlan.exists_node [] hlt
  obtain ⟨read, hread, hlevel⟩ := hready node hnode
  rw [horiginal, Option.some.injEq] at hlevel
  subst hlevel
  have hreadAs := readAs_of_levelRows hread.level.2
  rw [List.eq_nil_iff_forall_not_mem]
  intro row hrow
  have hmem : row ∈ original.table.rows := by
    obtain ⟨g, hg, hmem⟩ := List.mem_flatMap.mp hrow
    exact (hreadAs.grouped.ordered g (List.mem_filter.mp hg).1).subset hmem
  exact not_visited_of_held hreadAs hrow
    (visited_of_ready hready hwalked hcovers hnode (hread.parents row hmem))

end Conforming

end Mapper

end KustoSearch
