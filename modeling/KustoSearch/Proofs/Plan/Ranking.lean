import KustoSearch.Proofs.Plan.Relational

/-! # The first rows below each parent

Rows in the order of some columns, numbered from one wherever one of the columns changes. Keeping
the rows with small numbers keeps the first rows with each combination of cells: `filter_firsts`.
-/

namespace KustoSearch.Relational

variable {Cell : Type} [LinearOrder Cell] [OrderBot Cell]

/-! ## Orders of rows -/

theorem place_injective {k : OrderKey} {c d : Cell} (h : place k c = place k d) : c = d := by
  unfold place at h
  split_ifs at h with hc hd hd
  · exact hc.2.2.trans hd.2.2.symm
  · exact absurd h.symm WithTop.coe_ne_top
  · exact absurd h WithTop.coe_ne_top
  · exact WithTop.coe_injective h

/-- Of two cells one comes before the other, or they are the same. -/
theorem precedes_trichotomy (k : OrderKey) (c d : Cell) :
    precedes k c d ∨ c = d ∨ precedes k d c := by
  unfold precedes
  split_ifs
  · rcases lt_trichotomy (place k c) (place k d) with h | h | h
    · exact Or.inr (Or.inr h)
    · exact Or.inr (Or.inl (place_injective h))
    · exact Or.inl h
  · rcases lt_trichotomy (place k c) (place k d) with h | h | h
    · exact Or.inl h
    · exact Or.inr (Or.inl (place_injective h))
    · exact Or.inr (Or.inr h)

theorem precedes_trans {k : OrderKey} {c d e : Cell} (h : precedes k c d) (h' : precedes k d e) :
    precedes k c e := by
  unfold precedes at h h' ⊢
  split_ifs at h h' ⊢
  · exact h'.trans h
  · exact h.trans h'

theorem precedes_irrefl (k : OrderKey) (c : Cell) : ¬ precedes k c c := by
  unfold precedes
  split_ifs <;> exact lt_irrefl _

/-- Without nulls last, cells come in their own order or the other way round. -/
theorem precedes_iff {column : String} {descending : Bool} {c d : Cell} :
    precedes ⟨column, descending, false⟩ c d ↔ if descending then d < c else c < d := by
  simp [precedes, place, WithTop.coe_lt_coe]

theorem inOrder_total (keys : List OrderKey) (r s : Record Cell) :
    inOrder keys r s ∨ inOrder keys s r := by
  induction keys with
  | nil => exact Or.inl trivial
  | cons k keys ih =>
    rcases precedes_trichotomy k (cell k.column r) (cell k.column s) with h | h | h
    · exact Or.inl (Or.inl h)
    · exact ih.imp (fun hin => Or.inr ⟨h, hin⟩) (fun hin => Or.inr ⟨h.symm, hin⟩)
    · exact Or.inr (Or.inl h)

theorem inOrder_trans {keys : List OrderKey} {r s t : Record Cell} (h : inOrder keys r s)
    (h' : inOrder keys s t) : inOrder keys r t := by
  induction keys with
  | nil => trivial
  | cons k keys ih =>
    rcases h with h | ⟨heq, h⟩
    · rcases h' with h' | ⟨heq', _⟩
      · exact Or.inl (precedes_trans h h')
      · exact Or.inl (heq' ▸ h)
    · rcases h' with h' | ⟨heq', h'⟩
      · exact Or.inl (heq ▸ h')
      · exact Or.inr ⟨heq.trans heq', ih h h'⟩

/-- Rows that may stand either way agree in all keys. -/
theorem inOrder_antisymm {keys : List OrderKey} {r s : Record Cell} (h : inOrder keys r s)
    (h' : inOrder keys s r) : ∀ k ∈ keys, cell k.column r = cell k.column s := by
  induction keys with
  | nil => simp
  | cons k keys ih =>
    have hsame : cell k.column r = cell k.column s := by
      rcases h with h | ⟨heq, _⟩
      · rcases h' with h' | ⟨heq', _⟩
        · exact absurd (precedes_trans h h') (precedes_irrefl _ _)
        · exact heq'.symm
      · exact heq
    intro other hother
    rcases List.mem_cons.mp hother with rfl | hother
    · exact hsame
    · rcases h with h | ⟨_, h⟩
      · exact absurd (hsame ▸ h) (precedes_irrefl _ _)
      · rcases h' with h' | ⟨_, h'⟩
        · exact absurd (hsame ▸ h') (precedes_irrefl _ _)
        · exact ih h h' other hother

theorem inOrder_left {keys more : List OrderKey} {r s : Record Cell}
    (h : inOrder (keys ++ more) r s) : inOrder keys r s := by
  induction keys with
  | nil => trivial
  | cons k keys ih => exact h.imp_right fun hin => ⟨hin.1, ih hin.2⟩

/-- Where the first keys do not tell rows apart, the other keys decide. -/
theorem inOrder_right {keys more : List OrderKey} {r s : Record Cell}
    (h : inOrder (keys ++ more) r s) (hsame : ∀ k ∈ keys, cell k.column r = cell k.column s) :
    inOrder more r s := by
  induction keys with
  | nil => exact h
  | cons k keys ih =>
    rcases h with h | ⟨_, h⟩
    · rw [hsame k (by simp)] at h
      exact absurd h (precedes_irrefl _ _)
    · exact ih h fun other hother => hsame other (List.mem_cons_of_mem _ hother)

/-! ## Rows with small numbers -/

/-- The rows whose numbers are small. -/
def firsts (restart : List String) (n : Nat) :
    Option (Record Cell × Nat) → List (Record Cell) → List (Record Cell)
  | _, [] => []
  | before, row :: rows =>
    (if next restart before row ≤ n then [row] else []) ++
      firsts restart n (some (row, next restart before row)) rows

/-- The ascending order of some columns. -/
def ascending (columns : List String) : List OrderKey := columns.map fun c => ⟨c, false, false⟩

theorem cells_eq_of_inOrder {columns : List String} {r s : Record Cell}
    (h : inOrder (ascending columns) r s) (h' : inOrder (ascending columns) s r) :
    cells columns r = cells columns s := by
  unfold cells
  refine List.map_congr_left fun c hc => ?_
  exact inOrder_antisymm h h' ⟨c, false, false⟩ (List.mem_map_of_mem hc)

theorem inOrder_congr {columns : List String} {r s t : Record Cell}
    (h : inOrder (ascending columns) r s) (hcells : cells columns s = cells columns t) :
    inOrder (ascending columns) r t := by
  induction columns with
  | nil => trivial
  | cons c columns ih =>
    obtain ⟨hcell, hcells⟩ := List.cons.inj hcells
    change cell c s = cell c t at hcell
    rcases h with h | ⟨heq, h⟩
    · change precedes _ (cell c r) (cell c s) at h
      rw [hcell] at h
      exact Or.inl h
    · exact Or.inr ⟨heq.trans hcell, ih h hcells⟩

/-- In sorted rows no row with the cells of an earlier block comes after another block. -/
theorem filter_eq_nil_of_left {columns : List String} {rows : List (Record Cell)}
    {last row : Record Cell} (hlast : inOrder (ascending columns) last row)
    (hrow : ∀ r ∈ rows, inOrder (ascending columns) row r)
    (hne : cells columns last ≠ cells columns row) :
    rows.filter (fun r => cells columns r = cells columns last) = [] := by
  rw [List.filter_eq_nil_iff]
  intro r hr hsame
  have hback := inOrder_congr (hrow r hr) (of_decide_eq_true hsame)
  exact hne (cells_eq_of_inOrder hlast hback)

theorem take_of_number {α : Type} (x : α) (xs : List α) (k limit : Nat) :
    (if k + 1 ≤ limit then [x] else []) ++ xs.take (limit - (k + 1)) =
      (x :: xs).take (limit - k) := by
  by_cases h : k + 1 ≤ limit
  · obtain ⟨m, rfl⟩ : ∃ m, limit = k + 1 + m := ⟨limit - (k + 1), by omega⟩
    have hm : k + 1 + m - k = m + 1 := by omega
    have hm' : k + 1 + m - (k + 1) = m := by omega
    simp [hm, hm']
  · have hzero : limit - k = 0 := by omega
    have hzero' : limit - (k + 1) = 0 := by omega
    simp [h, hzero, hzero']

/-- After `n` rows with the cells of `last`, rows with small numbers are the first rows. -/
theorem filter_firsts_some {columns : List String} {limit : Nat} {rows : List (Record Cell)}
    (above : List Cell) {last : Record Cell} {n : Nat}
    (hlast : ∀ row ∈ rows, inOrder (ascending columns) last row)
    (hsorted : rows.Pairwise (inOrder (ascending columns))) :
    (firsts columns limit (some (last, n)) rows).filter (fun r => cells columns r = above) =
      (rows.filter fun r => cells columns r = above).take
        (if cells columns last = above then limit - n else limit) := by
  induction rows generalizing last n with
  | nil => simp [firsts]
  | cons row rows ih =>
    obtain ⟨hrow, hrows⟩ := List.pairwise_cons.mp hsorted
    -- the number of this row: one more than the last, or one where the cells change
    obtain ⟨k, hnext, hk⟩ : ∃ k, next columns (some (last, n)) row = k + 1 ∧
        (cells columns row = above →
          limit - k = if cells columns last = above then limit - n else limit) := by
      by_cases hsame : cells columns last = cells columns row
      · refine ⟨n, by simp [next, hsame], fun habove => ?_⟩
        rw [if_pos (hsame.trans habove)]
      · refine ⟨0, by simp [next, hsame], fun habove => ?_⟩
        rw [if_neg fun h => hsame (h.trans habove.symm), Nat.sub_zero]
    rw [firsts, List.filter_append, hnext, ih hrow hrows]
    by_cases habove : cells columns row = above
    · have hfirst : (if k + 1 ≤ limit then [row] else []).filter
          (fun r => cells columns r = above) = if k + 1 ≤ limit then [row] else [] := by
        split_ifs <;> simp [habove]
      rw [hfirst, if_pos habove, take_of_number, List.filter_cons_of_pos (by simpa using habove),
        hk habove]
    · have hfirst : (if k + 1 ≤ limit then [row] else []).filter
          (fun r => cells columns r = above) = [] := by
        split_ifs <;> simp [habove]
      rw [hfirst, if_neg habove, List.nil_append, List.filter_cons_of_neg (by simpa using habove)]
      by_cases hlastAbove : cells columns last = above
      · have hnone := filter_eq_nil_of_left (hlast row (by simp)) hrow
          fun h => habove (h.symm.trans hlastAbove)
        rw [hlastAbove] at hnone
        rw [hnone, List.take_nil, List.take_nil]
      · rw [if_neg hlastAbove]

/-- Rows with small numbers are the first rows with each combination of cells. -/
theorem filter_firsts {columns : List String} {limit : Nat} {rows : List (Record Cell)}
    (above : List Cell) (hsorted : rows.Pairwise (inOrder (ascending columns))) :
    (firsts columns limit none rows).filter (fun r => cells columns r = above) =
      (rows.filter fun r => cells columns r = above).take limit := by
  cases rows with
  | nil => simp [firsts]
  | cons row rows =>
    obtain ⟨hrow, hrows⟩ := List.pairwise_cons.mp hsorted
    rw [firsts, List.filter_append, next, filter_firsts_some above hrow hrows]
    by_cases habove : cells columns row = above
    · have hfirst : (if 1 ≤ limit then [row] else []).filter
          (fun r => cells columns r = above) = if 0 + 1 ≤ limit then [row] else [] := by
        split_ifs <;> simp_all
      rw [hfirst, if_pos habove, take_of_number row _ 0,
        List.filter_cons_of_pos (by simpa using habove), Nat.sub_zero]
    · have hfirst : (if 1 ≤ limit then [row] else []).filter
          (fun r => cells columns r = above) = [] := by
        split_ifs <;> simp [habove]
      rw [hfirst, if_neg habove, List.nil_append, List.filter_cons_of_neg (by simpa using habove)]

theorem sublist_firsts (restart : List String) (limit : Nat) (before : Option (Record Cell × Nat))
    (rows : List (Record Cell)) : (firsts restart limit before rows).Sublist rows := by
  induction rows generalizing before with
  | nil => exact List.Sublist.refl _
  | cons row rows ih =>
    rw [firsts]
    split_ifs
    · exact (ih _).cons_cons row
    · exact (ih _).cons row

/-! ## The helper column -/

/-- Whether a row has no column of a name. -/
def Lacks (column : String) (row : Record Cell) : Prop := ∀ c ∈ row, c.1 ≠ column

omit [LinearOrder Cell] [OrderBot Cell] in
theorem putMember_of_lacks {column : String} {row : Record Cell} (h : Lacks column row)
    (value : Cell) : putMember column value row = row ++ [(column, value)] := by
  induction row with
  | nil => rfl
  | cons c row ih =>
    obtain ⟨name, old⟩ := c
    have hne : name ≠ column := h (name, old) (by simp)
    rw [putMember, if_neg hne, ih fun c hc => h c (List.mem_cons_of_mem _ hc)]
    rfl

theorem cell_append_of_lacks {column : String} {row : Record Cell} (h : Lacks column row)
    (value : Cell) : cell column (row ++ [(column, value)]) = value := by
  have hnone : row.find? (fun c => c.1 = column) = none := by
    rw [List.find?_eq_none]
    intro c hc
    simpa using h c hc
  simp [cell, member?, List.find?_append, hnone]

omit [LinearOrder Cell] [OrderBot Cell] in
theorem drop_append_of_lacks {column : String} {row : Record Cell} (h : Lacks column row)
    (value : Cell) : (row ++ [(column, value)]).filter (fun c => c.1 ≠ column) = row := by
  rw [List.filter_append, List.filter_eq_self.mpr fun c hc => by simpa using h c hc]
  simp

/-- Numbering rows, keeping those with small numbers and dropping the numbers gives the first
rows. -/
theorem numbered_eq_firsts (engine : Engine Cell) (restart : List String) {numeral : String}
    {limit : Nat} (hnumeral : Text.natural? numeral.toList = some limit)
    (before : Option (Record Cell × Nat)) {rows : List (Record Cell)}
    (h : ∀ row ∈ rows, Lacks Counter.rank.column row) :
    ((numbered engine Counter.rank.column restart before rows).filter
      (engine.passes [.name Counter.rank.column, .mark "<=", .number numeral])).map
        (fun row => row.filter fun c => c.1 ≠ Counter.rank.column) =
      firsts restart limit before rows := by
  induction rows generalizing before with
  | nil => rfl
  | cons row rows ih =>
    have hrow := h row (by simp)
    have hrest := ih (some (row, next restart before row)) fun r hr =>
      h r (List.mem_cons_of_mem _ hr)
    have hpasses := engine.passes_atMost
      (cell_append_of_lacks hrow (engine.natural (next restart before row))) hnumeral
    rw [numbered, firsts, putMember_of_lacks hrow, List.filter_cons]
    by_cases hlimit : next restart before row ≤ limit
    · rw [if_pos (hpasses.mpr hlimit), if_pos hlimit, List.map_cons, drop_append_of_lacks hrow,
        hrest]
      rfl
    · rw [if_neg fun hle => hlimit (hpasses.mp hle), if_neg hlimit, hrest]
      rfl

end KustoSearch.Relational
