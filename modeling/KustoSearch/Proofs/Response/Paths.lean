import KustoSearch.Proofs.Response.Conforming

/-! # Paths of groups

A group of rows is found by the text of the documents on its path, and no two lists of documents
have one text. So the rows of different paths never meet in a group, and what is taken out below a
path is every row of the table that has this path. Main result: `paths_kept_apart`.
-/

namespace KustoSearch

/-- Documents are compared by their texts. -/
instance : DecidableEq Json := fun a b =>
  decidable_of_iff (a.text = b.text) ⟨Json.text_injective, congrArg Json.text⟩

namespace Mapper

theorem groupKey_eq_iff {as bs : List Json} : groupKey as = groupKey bs ↔ as = bs :=
  ⟨path_of_groupKey, congrArg groupKey⟩

/-- The path of a row: the keys of its ancestors. -/
def pathOf (level : BucketTable) (table : Table) (row : Row) : List Json :=
  values table (ancestorColumns level) row

/-- The rows that are taken below a key are all rows with this key. -/
theorem GroupedBy.taken_eq_filter {key : Row → String} {rows : List Row} {groups : List Group}
    (h : GroupedBy key rows groups) (hall : (held groups).Perm rows) (k : String) :
    (takeGroup k groups).1 = rows.filter fun row => key row = k := by
  -- the two lists are permutations of each other, and both stand in the order of the rows
  obtain ⟨hsublist, hsame⟩ := h.taken k
  have htaken : (takeGroup k groups).1.filter (fun row => key row = k) = (takeGroup k groups).1 :=
    List.filter_eq_self.mpr fun row hrow => decide_eq_true (hsame row hrow)
  have hrest : (held (takeGroup k groups).2).filter (fun row => key row = k) = [] := by
    rw [List.filter_eq_nil_iff, takeGroup_eq h.distinct]
    intro row hrow hkey
    obtain ⟨g, hg, hrow⟩ := List.mem_flatMap.mp hrow
    obtain ⟨hg, hother⟩ := List.mem_filter.mp hg
    have hgroup : g.1 = k := (h.same g hg row hrow).symm.trans (of_decide_eq_true hkey)
    exact of_decide_eq_true hother hgroup
  have hperm : (rows.filter fun row => key row = k).Perm (takeGroup k groups).1 := by
    have hsplit := (hall.symm.trans (held_takeGroup k groups)).filter fun row => key row = k
    rw [List.filter_append, hrest, htaken] at hsplit
    exact hsplit
  have hinner := hsublist.filter fun row => key row = k
  rw [htaken] at hinner
  exact hinner.eq_of_length hperm.length_eq.symm

/-- Taking a key where the groups of other keys may be gone. -/
theorem takeGroup_filter (stays : String → Bool) (key : String) (groups : List Group) :
    (takeGroup key (groups.filter fun g => stays g.1)).1 =
      if stays key then (takeGroup key groups).1 else [] := by
  induction groups with
  | nil => simp [takeGroup]
  | cons g groups ih =>
    obtain ⟨k, rows⟩ := g
    by_cases hk : k = key
    · subst hk
      cases hstays : stays k with
      | true => simp [hstays, takeGroup]
      | false => simpa [hstays] using ih
    · have hskip : ∀ gs, (takeGroup key ((k, rows) :: gs)).1 = (takeGroup key gs).1 := by
        intro gs
        rw [takeGroup, if_neg hk]
      cases hstays : stays k with
      | true => rw [hskip, ← ih, List.filter_cons_of_pos (by exact hstays), hskip]
      | false => rw [hskip, ← ih, List.filter_cons_of_neg (by simp [hstays])]

/-- Two lists of documents have one group key only where they are equal. The rows of one group have
one path, and whatever paths have been taken out before, the rows taken below a new path are all
rows of the table with this path, in the order of the table. -/
theorem paths_kept_apart :
    (∀ as bs : List Json, groupKey as = groupKey bs ↔ as = bs) ∧
    ∀ {result : Result} {level : BucketTable} {rows : LevelRows},
      levelRows result level = .ok rows →
      (∀ g ∈ rows.groups, ∀ row ∈ g.2, ∀ other ∈ g.2,
        pathOf level rows.table row = pathOf level rows.table other) ∧
      ∀ (gone : List (List Json)) (path : List Json),
        (path ∈ gone → (takeGroup (groupKey path) (rows.without gone).groups).1 = []) ∧
        (path ∉ gone → (takeGroup (groupKey path) (rows.without gone).groups).1 =
          rows.table.rows.filter fun row => pathOf level rows.table row = path) := by
  refine ⟨fun as bs => groupKey_eq_iff, fun {result level rows} hread => ?_⟩
  have hread := readAs_of_levelRows hread
  constructor
  · intro g hg row hrow other hother
    apply path_of_groupKey
    exact (hread.grouped.same g hg row hrow).trans (hread.grouped.same g hg other hother).symm
  · intro gone path
    have hgone : (gone.map groupKey).contains (groupKey path) = true ↔ path ∈ gone := by
      rw [List.contains_iff_mem, List.mem_map]
      constructor
      · rintro ⟨other, hother, hkey⟩
        exact path_of_groupKey hkey ▸ hother
      · exact fun hpath => ⟨path, hpath, rfl⟩
    have hstays := takeGroup_filter (fun key => !(gone.map groupKey).contains key)
      (groupKey path) rows.groups
    constructor
    · intro hpath
      rw [hgone.mpr hpath] at hstays
      exact hstays
    · intro hpath
      rw [Bool.eq_false_iff.mpr (mt hgone.mp hpath)] at hstays
      refine hstays.trans ((hread.grouped.taken_eq_filter hread.all _).trans ?_)
      exact List.filter_congr fun row _ => decide_eq_decide.mpr groupKey_eq_iff

/-- A level whose rows lie below the integer one, below the floating-point number one and below
the digit one as a text. -/
def onesTable : Table where
  name := "ones"
  columns := [⟨"kind", .dynamic⟩, ⟨"name", .string⟩, ⟨Aggregation.docCountColumn, .number⟩]
  rows := [
    [Json.ofNat 1, .string "a", Json.ofNat 5],
    [.number (.double ⟨0x3FF0000000000000, by decide⟩), .string "b", Json.ofNat 4],
    [.string "1", .string "c", Json.ofNat 3],
    [Json.ofNat 1, .string "d", Json.ofNat 2]]

/-- Only the rows below the integer are taken with it. -/
theorem paths_kept_apart_ones :
    ∃ rows, levelRows ⟨[onesTable], 0, none⟩ ⟨"ones", "name", ["kind", "name"]⟩ = .ok rows ∧
      (takeGroup (groupKey [Json.ofNat 1]) (rows.without [[.string "1"]]).groups).1 =
        [[Json.ofNat 1, .string "a", Json.ofNat 5], [Json.ofNat 1, .string "d", Json.ofNat 2]] := by
  have hkind : onesTable.columnIndex? "kind" = some 0 := by decide
  have hname : onesTable.columnIndex? "name" = some 1 := by decide
  have hcount : onesTable.columnIndex? Aggregation.docCountColumn = some 2 := by decide
  obtain ⟨rows, hrows, htable⟩ := @exists_levelRows ⟨[onesTable], 0, none⟩
    ⟨"ones", "name", ["kind", "name"]⟩ onesTable rfl (by simp [Wide, onesTable]) (by simp)
    (by simp [hkind, hname]) ⟨2, hcount⟩
  refine ⟨rows, hrows, ?_⟩
  have hpath : pathOf ⟨"ones", "name", ["kind", "name"]⟩ onesTable = fun row => row[0]?.toList := by
    funext row
    cases h : row[0]? <;> simp [pathOf, values, ancestorColumns, hkind, h]
  rw [((paths_kept_apart.2 hrows).2 _ _).2 (by simp [Json.ofNat, Number.ofNat?]), htable, hpath]
  simp [onesTable, Json.ofNat, Number.ofNat?]

end Mapper

end KustoSearch
