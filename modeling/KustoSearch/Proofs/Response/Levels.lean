import KustoSearch.Proofs.Json.Printer
import KustoSearch.Proofs.Outcome
import KustoSearch.Response.Mapper

/-! # Rows in groups

The rows of a level are put into groups by the keys of their ancestors. A group holds the rows of
its path in the order of the table, and taking groups out loses no row.
-/

namespace KustoSearch.Mapper

/-! ## Groups -/

/-- The rows that some groups hold. -/
def held (groups : List Group) : List Row := groups.flatMap Prod.snd

/-- Groups by a key, each with rows of the list in their order. -/
structure GroupedBy (key : Row → String) (rows : List Row) (groups : List Group) : Prop where
  distinct : (groups.map Prod.fst).Nodup
  ordered : ∀ g ∈ groups, g.2.Sublist rows
  same : ∀ g ∈ groups, ∀ row ∈ g.2, key row = g.1

theorem held_addToGroup (key : String) (row : Row) (groups : List Group) :
    (held (addToGroup key row groups)).Perm (held groups ++ [row]) := by
  induction groups with
  | nil => exact List.Perm.refl _
  | cons g groups ih =>
    obtain ⟨k, rows⟩ := g
    unfold addToGroup
    split_ifs with h
    · have hmiddle : (rows ++ [row] ++ held groups).Perm (rows ++ held groups ++ [row]) := by
        rw [List.append_assoc, List.append_assoc]
        exact List.Perm.append_left rows List.perm_append_comm
      exact hmiddle
    · show (rows ++ held (addToGroup key row groups)).Perm (rows ++ held groups ++ [row])
      rw [List.append_assoc]
      exact List.Perm.append_left rows ih

theorem map_fst_addToGroup (key : String) (row : Row) (groups : List Group) :
    (addToGroup key row groups).map Prod.fst =
      if key ∈ groups.map Prod.fst then groups.map Prod.fst else groups.map Prod.fst ++ [key] := by
  induction groups with
  | nil => rfl
  | cons g groups ih =>
    obtain ⟨k, rows⟩ := g
    unfold addToGroup
    by_cases h : k = key
    · simp [h]
    · have hne : ¬ key = k := fun heq => h heq.symm
      simp only [h, if_false, List.map_cons, List.mem_cons, hne, false_or, ih]
      split_ifs <;> rfl

/-- A group is as it was, or has got the row at its end. -/
theorem mem_addToGroup {key : String} {row : Row} {groups : List Group} {g : Group}
    (hg : g ∈ addToGroup key row groups) :
    g ∈ groups ∨ ∃ old, (old = [] ∨ (key, old) ∈ groups) ∧ g = (key, old ++ [row]) := by
  induction groups with
  | nil =>
    rw [addToGroup, List.mem_singleton] at hg
    exact Or.inr ⟨[], Or.inl rfl, hg⟩
  | cons first groups ih =>
    obtain ⟨k, rows⟩ := first
    unfold addToGroup at hg
    split_ifs at hg with h
    · rcases List.mem_cons.mp hg with rfl | hg
      · exact Or.inr ⟨rows, Or.inr (by simp [h]), by rw [h]⟩
      · exact Or.inl (List.mem_cons_of_mem _ hg)
    · rcases List.mem_cons.mp hg with rfl | hg
      · exact Or.inl (by simp)
      · rcases ih hg with hg | ⟨old, hold, hg⟩
        · exact Or.inl (List.mem_cons_of_mem _ hg)
        · exact Or.inr ⟨old, hold.imp_right (List.mem_cons_of_mem _), hg⟩

theorem groupedBy_nil (key : Row → String) : GroupedBy key [] [] := ⟨by simp, by simp, by simp⟩

theorem GroupedBy.add {key : Row → String} {rows : List Row} {groups : List Group}
    (h : GroupedBy key rows groups) (row : Row) :
    GroupedBy key (rows ++ [row]) (addToGroup (key row) row groups) := by
  constructor
  · rw [map_fst_addToGroup]
    split_ifs with hmem
    · exact h.distinct
    · rw [List.nodup_append]
      refine ⟨h.distinct, by simp, ?_⟩
      rintro k hk _ hk' rfl
      rw [List.mem_singleton.mp hk'] at hk
      exact hmem hk
  · intro g hg
    rcases mem_addToGroup hg with hg | ⟨old, hold, rfl⟩
    · exact (h.ordered g hg).trans (List.sublist_append_left rows [row])
    · rcases hold with rfl | hold
      · exact List.sublist_append_right rows [row]
      · exact (h.ordered _ hold).append (List.Sublist.refl [row])
  · intro g hg r hr
    rcases mem_addToGroup hg with hg | ⟨old, hold, rfl⟩
    · exact h.same g hg r hr
    · rcases List.mem_append.mp hr with hr | hr
      · rcases hold with rfl | hold
        · simp at hr
        · exact h.same _ hold r hr
      · rw [List.mem_singleton.mp hr]

/-- Taking a group out: its rows go, the other groups stay. -/
theorem takeGroup_eq {key : String} {groups : List Group}
    (hdistinct : (groups.map Prod.fst).Nodup) :
    (takeGroup key groups).2 = groups.filter fun g => g.1 ≠ key := by
  induction groups with
  | nil => rfl
  | cons g groups ih =>
    obtain ⟨k, rows⟩ := g
    rw [List.map_cons, List.nodup_cons] at hdistinct
    unfold takeGroup
    split_ifs with h
    · subst h
      rw [List.filter_cons_of_neg (by simp), eq_comm, List.filter_eq_self]
      intro g hg
      have hmem : g.1 ∈ groups.map Prod.fst := List.mem_map_of_mem hg
      have hne : g.1 ≠ k := fun heq => hdistinct.1 (heq ▸ hmem)
      simpa using hne
    · rw [List.filter_cons_of_pos (by simpa using h), ← ih hdistinct.2]

theorem held_takeGroup (key : String) (groups : List Group) :
    (held groups).Perm (held (takeGroup key groups).2 ++ (takeGroup key groups).1) := by
  induction groups with
  | nil => exact List.Perm.refl _
  | cons g groups ih =>
    obtain ⟨k, rows⟩ := g
    unfold takeGroup
    split_ifs with h
    · exact List.perm_append_comm
    · show (rows ++ held groups).Perm
        (rows ++ held (takeGroup key groups).2 ++ (takeGroup key groups).1)
      rw [List.append_assoc]
      exact List.Perm.append_left rows ih

/-- What is taken out is one group, or nothing. -/
theorem mem_of_takeGroup (key : String) (groups : List Group) :
    (takeGroup key groups).1 = [] ∨ (key, (takeGroup key groups).1) ∈ groups := by
  induction groups with
  | nil => exact Or.inl rfl
  | cons g groups ih =>
    obtain ⟨k, rows⟩ := g
    unfold takeGroup
    split_ifs with h
    · exact Or.inr (by simp [h])
    · exact ih.imp_right (List.mem_cons_of_mem _)

/-- The rows that are taken below a key stand in the order of the table. -/
theorem GroupedBy.taken {key : Row → String} {rows : List Row} {groups : List Group}
    (h : GroupedBy key rows groups) (k : String) :
    (takeGroup k groups).1.Sublist rows ∧ ∀ row ∈ (takeGroup k groups).1, key row = k := by
  rcases mem_of_takeGroup k groups with hnil | hmem
  · rw [hnil]
    exact ⟨List.nil_sublist rows, by simp⟩
  · exact ⟨h.ordered _ hmem, h.same _ hmem⟩

theorem GroupedBy.filter {key : Row → String} {rows : List Row} {groups : List Group}
    (h : GroupedBy key rows groups) (p : Group → Bool) : GroupedBy key rows (groups.filter p) := by
  refine ⟨?_, fun g hg => h.ordered g (List.mem_filter.mp hg).1,
    fun g hg => h.same g (List.mem_filter.mp hg).1⟩
  exact h.distinct.sublist ((List.filter_sublist).map Prod.fst)

/-! ## Levels as they are read -/

/-- The values of a row in some columns. -/
def values (table : Table) (columns : List String) (row : Row) : List Json :=
  columns.filterMap fun c => (table.columnIndex? c).bind fun i => row[i]?

/-- The columns of a level that hold the keys of its ancestors. -/
def ancestorColumns (level : BucketTable) : List String := level.keyColumns.dropLast

/-- A table that has been read as a level of buckets. -/
structure ReadAs (result : Result) (level : BucketTable) (rows : LevelRows) : Prop where
  table : result.table? level.table = some rows.table
  /-- The last key column is the own one. -/
  own : ∃ own, level.keyColumns = ancestorColumns level ++ [own] ∧
    rows.table.columnIndex? own = some rows.keyIndex
  ancestors : ∀ c ∈ ancestorColumns level, ∃ i, rows.table.columnIndex? c = some i
  docCount : rows.table.columnIndex? Aggregation.docCountColumn = some rows.docCountIndex
  width : ∀ row ∈ rows.table.rows, row.length = rows.table.columns.length
  grouped : GroupedBy (fun row => groupKey (values rows.table (ancestorColumns level) row))
    rows.table.rows rows.groups
  all : (held rows.groups).Perm rows.table.rows

theorem requireColumn_eq_ok {table : Table} {name : String} {i : Nat} :
    requireColumn table name = .ok i ↔ table.columnIndex? name = some i := by
  cases h : table.columnIndex? name with
  | none => simp [requireColumn, h]
  | some j => simp [requireColumn, h]

theorem requireTable_eq_ok {result : Result} {name : String} {table : Table} :
    requireTable result name = .ok table ↔ result.table? name = some table := by
  cases h : result.table? name with
  | none => simp [requireTable, h]
  | some t => simp [requireTable, h]

theorem cell_eq_ok {row : Row} {i : Nat} {value : Json} :
    cell row i = .ok value ↔ row[i]? = some value := by
  cases h : row[i]? with
  | none => simp [cell, h]
  | some v => simp [cell, h]

theorem checkWidth_eq_ok {table : Table} {row : Row} :
    checkWidth table row = .ok () ↔ row.length = table.columns.length := by
  by_cases h : row.length = table.columns.length
  · simp [checkWidth, h]
  · simp [checkWidth, h]

/-- The cells at the positions of some columns are the values in them. -/
theorem mapM_cell {table : Table} {columns : List String} {indices : List Nat} {row : Row}
    {keys : List Json}
    (hcolumns : List.Forall₂ (fun c i => table.columnIndex? c = some i) columns indices)
    (hkeys : indices.mapM (cell row) = .ok keys) : keys = values table columns row := by
  have hcells := Outcome.mapM_eq_ok.mp hkeys
  clear hkeys
  induction hcolumns generalizing keys with
  | nil =>
    cases hcells
    rfl
  | cons hcolumn _ ih =>
    cases hcells with
    | cons hcell hcells =>
      rw [cell_eq_ok] at hcell
      rw [ih hcells]
      simp [values, hcolumn, hcell]

/-- Reading the rows of a level one by one puts them all into groups. -/
theorem foldlM_groups {table : Table} {columns : List String} {indices : List Nat}
    (hcolumns : List.Forall₂ (fun c i => table.columnIndex? c = some i) columns indices)
    {rows seen : List Row} {before after : List Group}
    (hgrouped : GroupedBy (fun row => groupKey (values table columns row)) seen before)
    (hall : (held before).Perm seen)
    (h : rows.foldlM (fun groups row => do
      checkWidth table row
      let keys ← indices.mapM (cell row)
      .ok (addToGroup (groupKey keys) row groups)) before = .ok after) :
    GroupedBy (fun row => groupKey (values table columns row)) (seen ++ rows) after ∧
      (held after).Perm (seen ++ rows) ∧ ∀ row ∈ rows, row.length = table.columns.length := by
  induction rows generalizing seen before with
  | nil =>
    cases h
    rw [List.append_nil]
    exact ⟨hgrouped, hall, by simp⟩
  | cons row rows ih =>
    obtain ⟨groups, hstep, h⟩ := Outcome.bind_eq_ok.mp h
    obtain ⟨_, hwidth, hstep⟩ := Outcome.bind_eq_ok.mp hstep
    obtain ⟨keys, hkeys, hstep⟩ := Outcome.bind_eq_ok.mp hstep
    cases hstep
    rw [mapM_cell hcolumns hkeys] at h
    have hnext := (held_addToGroup (groupKey (values table columns row)) row before).trans
      (hall.append_right [row])
    obtain ⟨hgroups, hheld, hwidths⟩ := ih (hgrouped.add row) hnext h
    rw [List.append_assoc, List.singleton_append] at hgroups hheld
    refine ⟨hgroups, hheld, fun r hr => ?_⟩
    rcases List.mem_cons.mp hr with rfl | hr
    · exact checkWidth_eq_ok.mp hwidth
    · exact hwidths r hr

theorem exists_of_forall₂ {α β : Type} {r : α → β → Prop} {as : List α} {bs : List β}
    (h : List.Forall₂ r as bs) {a : α} (ha : a ∈ as) : ∃ b, b ∈ bs ∧ r a b := by
  induction h with
  | nil => simp at ha
  | @cons x y as bs hxy _ ih =>
    rcases List.mem_cons.mp ha with rfl | ha
    · exact ⟨y, by simp, hxy⟩
    · obtain ⟨b, hb, hab⟩ := ih ha
      exact ⟨b, List.mem_cons_of_mem _ hb, hab⟩

theorem getElem?_of_forall₂ {α β : Type} {r : α → β → Prop} {as : List α} {bs : List β}
    (h : List.Forall₂ r as bs) (i : Nat) :
    as[i]? = none ∧ bs[i]? = none ∨ ∃ a b, as[i]? = some a ∧ bs[i]? = some b ∧ r a b := by
  induction h generalizing i with
  | nil => exact Or.inl ⟨rfl, rfl⟩
  | @cons x y as bs hxy _ ih =>
    cases i with
    | zero => exact Or.inr ⟨x, y, rfl, rfl, hxy⟩
    | succ i => simpa using ih i

/-- What reading a level gives. -/
theorem readAs_of_levelRows {result : Result} {level : BucketTable} {rows : LevelRows}
    (h : levelRows result level = .ok rows) : ReadAs result level rows := by
  obtain ⟨table, htable, h⟩ := Outcome.bind_eq_ok.mp h
  obtain ⟨indices, hindices, h⟩ := Outcome.bind_eq_ok.mp h
  have hcolumns : List.Forall₂ (fun c i => table.columnIndex? c = some i) level.keyColumns
      indices := (Outcome.mapM_eq_ok.mp hindices).imp fun _ _ hc => requireColumn_eq_ok.mp hc
  cases hreverse : indices.reverse with
  | nil =>
    rw [hreverse] at h
    cases h
  | cons keyIndex ancestors =>
    rw [hreverse] at h
    obtain ⟨docCountIndex, hdocCount, h⟩ := Outcome.bind_eq_ok.mp h
    obtain ⟨groups, hgroups, h⟩ := Outcome.bind_eq_ok.mp h
    cases h
    have hreversed := List.forall₂_reverse_iff.mpr hcolumns
    rw [hreverse] at hreversed
    generalize hkeys : level.keyColumns.reverse = names at hreversed
    cases hreversed with
    | @cons own _ rest _ hown hrest =>
      have hsplit : level.keyColumns = rest.reverse ++ [own] := by
        rw [← List.reverse_reverse level.keyColumns, hkeys, List.reverse_cons]
      have hancestors : ancestorColumns level = rest.reverse := by
        rw [ancestorColumns, hsplit, List.dropLast_concat]
      have hrest' := List.forall₂_reverse_iff.mpr hrest
      rw [← hancestors] at hrest'
      obtain ⟨hgrouped, hall, hwidth⟩ :=
        foldlM_groups hrest' (groupedBy_nil _) (List.Perm.refl _) hgroups
      refine ⟨requireTable_eq_ok.mp htable, ⟨own, by rw [hancestors, hsplit], hown⟩, ?_,
        requireColumn_eq_ok.mp hdocCount, hwidth, hgrouped, hall⟩
      intro c hc
      obtain ⟨i, _, hi⟩ := exists_of_forall₂ hrest' hc
      exact ⟨i, hi⟩

/-! ## Taking rows -/

/-- A level without the groups of some paths. -/
def LevelRows.without (rows : LevelRows) (paths : List (List Json)) : LevelRows :=
  { rows with groups := rows.groups.filter fun g => !(paths.map groupKey).contains g.1 }

/-- What some visits of levels have to do with one of them. -/
def ofLevel {α : Type} (level : Nat) (tagged : List (Nat × α)) : List α :=
  tagged.filterMap fun t => if t.1 = level then some t.2 else none

/-- Levels without the groups of the paths that have been visited. -/
def without (levels : Levels) (visits : List (Nat × List Json)) : Levels :=
  levels.mapIdx fun level rows => rows.without (ofLevel level visits)

@[simp] theorem ofLevel_nil {α : Type} (level : Nat) : ofLevel level ([] : List (Nat × α)) = [] :=
  rfl

@[simp] theorem ofLevel_append {α : Type} (level : Nat) (as bs : List (Nat × α)) :
    ofLevel level (as ++ bs) = ofLevel level as ++ ofLevel level bs := by
  simp [ofLevel, List.filterMap_append]

theorem LevelRows.without_nil (rows : LevelRows) : rows.without [] = rows := by
  cases rows
  simp [LevelRows.without]

theorem LevelRows.without_append (rows : LevelRows) (as bs : List (List Json)) :
    (rows.without as).without bs = rows.without (as ++ bs) := by
  simp only [LevelRows.without, List.filter_filter, List.map_append]
  congr 2
  funext g
  simp [Bool.and_comm]

theorem without_nil (levels : Levels) : without levels [] = levels := by
  apply List.ext_getElem?
  intro i
  simp only [without, List.getElem?_mapIdx, ofLevel_nil]
  cases levels[i]? with
  | none => rfl
  | some rows => rw [Option.map_some, rows.without_nil]

theorem without_append (levels : Levels) (as bs : List (Nat × List Json)) :
    without (without levels as) bs = without levels (as ++ bs) := by
  apply List.ext_getElem?
  intro i
  simp only [without, List.getElem?_mapIdx, Option.map_map, ofLevel_append]
  cases levels[i]? with
  | none => rfl
  | some rows => simp [LevelRows.without_append]

theorem getElem?_without (levels : Levels) (visits : List (Nat × List Json)) (level : Nat) :
    (without levels visits)[level]? =
      (levels[level]?).map fun rows => rows.without (ofLevel level visits) := by
  simp [without, List.getElem?_mapIdx]

/-- Taking the rows of a path out of a level. -/
theorem takeRows_eq_ok {name : String} {level : Nat} {path : List Json} {levels after : Levels}
    {rows : LevelRows} {taken : List Row}
    (hdistinct : ∀ r ∈ levels, (r.groups.map Prod.fst).Nodup)
    (h : (takeRows name level path).run levels = .ok ((rows, taken), after)) :
    levels[level]? = some rows ∧ taken = (takeGroup (groupKey path) rows.groups).1 ∧
      after = without levels [(level, path)] := by
  obtain ⟨current, state, hget, h⟩ := Outcome.run_bind_eq_ok.mp h
  cases hget
  cases hlevel : levels[level]? with
  | none =>
    simp only [hlevel] at h
    cases h
  | some r =>
    have hr : (r.groups.map Prod.fst).Nodup := hdistinct r (List.mem_of_getElem? hlevel)
    simp only [hlevel] at h
    obtain ⟨_, state, hset, h⟩ := Outcome.run_bind_eq_ok.mp h
    cases hset
    cases h
    refine ⟨rfl, rfl, ?_⟩
    rw [takeGroup_eq hr]
    apply List.ext_getElem?
    intro i
    rw [getElem?_without, List.getElem?_set]
    by_cases hi : level = i
    · subst hi
      have hlt : level < levels.length := (List.getElem?_eq_some_iff.mp hlevel).1
      rw [if_pos rfl, if_pos hlt, hlevel]
      simp [ofLevel, LevelRows.without]
    · have hnone : ofLevel i [(level, path)] = [] := by simp [ofLevel, hi]
      simp only [hi, if_false, hnone]
      cases levels[i]? with
      | none => rfl
      | some r' => rw [Option.map_some, r'.without_nil]

end KustoSearch.Mapper
