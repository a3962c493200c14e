import KustoSearch.Json.Record
import Mathlib.Data.List.Nodup

/-! # Members with different names

Putting pairs together gives members with different names: `nodup_membersOf`. Pairs whose names
differ already are the members that they give: `membersOf_eq_self`. A document that has been read
from a text has members with different names everywhere: `Json.namesDistinct_of_read?`.
-/

namespace KustoSearch

variable {α : Type}

/-- Putting a member in changes the names only where its name is new. -/
theorem map_fst_putMember (name : String) (value : α) (members : List (String × α)) :
    (putMember name value members).map Prod.fst =
      if name ∈ members.map Prod.fst then members.map Prod.fst
      else members.map Prod.fst ++ [name] := by
  induction members with
  | nil => rfl
  | cons m members ih =>
    obtain ⟨n, v⟩ := m
    rw [putMember]
    by_cases hname : n = name
    · simp [hname]
    · rw [if_neg hname, List.map_cons, ih]
      simp only [List.map_cons, List.mem_cons, Ne.symm hname, false_or]
      split_ifs <;> rfl

theorem nodup_putMember {members : List (String × α)} (h : (members.map Prod.fst).Nodup)
    (name : String) (value : α) : ((putMember name value members).map Prod.fst).Nodup := by
  rw [map_fst_putMember]
  split_ifs with hmem
  · exact h
  · refine List.nodup_append.mpr ⟨h, List.nodup_singleton name, ?_⟩
    intro a ha b hb hab
    rw [List.mem_singleton.mp hb] at hab
    exact hmem (hab ▸ ha)

/-- A new member comes last. -/
theorem putMember_of_not_mem {members : List (String × α)} {name : String}
    (h : name ∉ members.map Prod.fst) (value : α) :
    putMember name value members = members ++ [(name, value)] := by
  induction members with
  | nil => rfl
  | cons m members ih =>
    obtain ⟨n, v⟩ := m
    rw [List.map_cons, List.mem_cons, not_or] at h
    rw [putMember, if_neg (Ne.symm h.1), ih h.2, List.cons_append]

theorem mem_putMember {members : List (String × α)} {name : String} {value : α}
    {m : String × α} (h : m ∈ putMember name value members) :
    m = (name, value) ∨ m ∈ members := by
  induction members with
  | nil => exact Or.inl (List.mem_singleton.mp h)
  | cons first members ih =>
    obtain ⟨n, v⟩ := first
    rw [putMember] at h
    split_ifs at h with hname
    · rcases List.mem_cons.mp h with h | h
      · exact Or.inl (by rw [h, hname])
      · exact Or.inr (List.mem_cons_of_mem _ h)
    · rcases List.mem_cons.mp h with h | h
      · exact Or.inr (by rw [h]; exact List.mem_cons_self)
      · exact (ih h).imp_right (List.mem_cons_of_mem _)

/-- What putting pairs in one by one keeps: the names stay different, and every member was there
or is one of the pairs. -/
theorem foldl_putMember {pairs members : List (String × α)} (h : (members.map Prod.fst).Nodup) :
    ((pairs.foldl (fun members p => putMember p.1 p.2 members) members).map Prod.fst).Nodup ∧
      ∀ m ∈ pairs.foldl (fun members p => putMember p.1 p.2 members) members,
        m ∈ members ∨ m ∈ pairs := by
  induction pairs generalizing members with
  | nil => exact ⟨h, fun m hm => Or.inl hm⟩
  | cons p pairs ih =>
    obtain ⟨hnodup, hmem⟩ := ih (nodup_putMember h p.1 p.2)
    refine ⟨hnodup, fun m hm => ?_⟩
    rcases hmem m hm with hm | hm
    · rcases mem_putMember hm with rfl | hm
      · exact Or.inr (by simp)
      · exact Or.inl hm
    · exact Or.inr (List.mem_cons_of_mem _ hm)

theorem nodup_membersOf (pairs : List (String × α)) :
    ((membersOf pairs).map Prod.fst).Nodup :=
  (foldl_putMember (by simp)).1

theorem mem_of_mem_membersOf {pairs : List (String × α)} {m : String × α}
    (h : m ∈ membersOf pairs) : m ∈ pairs := by
  rcases (foldl_putMember (by simp)).2 m h with h | h
  · cases h
  · exact h

theorem membersOf_eq_self {pairs : List (String × α)} (h : (pairs.map Prod.fst).Nodup) :
    membersOf pairs = pairs := by
  have hfold : ∀ members : List (String × α), ((members ++ pairs).map Prod.fst).Nodup →
      pairs.foldl (fun members p => putMember p.1 p.2 members) members = members ++ pairs := by
    clear h
    induction pairs with
    | nil =>
      intro members _
      rw [List.append_nil, List.foldl_nil]
    | cons p pairs ih =>
      intro members h
      have hnew : p.1 ∉ members.map Prod.fst := by
        rw [List.map_append, List.nodup_append] at h
        exact fun hmem => h.2.2 p.1 hmem p.1 (by simp) rfl
      rw [List.foldl_cons, putMember_of_not_mem hnew, ih]
      · rw [List.append_assoc, List.singleton_append]
      · rwa [List.append_assoc, List.singleton_append]
  exact hfold [] h

/-- With different names every member is what is found under its name. -/
theorem member?_of_mem {members : List (String × α)} (h : (members.map Prod.fst).Nodup)
    {m : String × α} (hm : m ∈ members) : member? m.1 members = some m.2 := by
  induction members with
  | nil => cases hm
  | cons first members ih =>
    rw [List.map_cons, List.nodup_cons] at h
    rcases List.mem_cons.mp hm with rfl | hm
    · simp [member?]
    · have hne : first.1 ≠ m.1 := fun heq => h.1 (heq ▸ List.mem_map_of_mem hm)
      rw [← ih h.2 hm]
      simp [member?, hne]

/-- Putting a member in leaves the values under other names. -/
theorem member?_putMember_of_ne {name column : String} (h : column ≠ name) (value : α)
    (members : List (String × α)) :
    member? column (putMember name value members) = member? column members := by
  induction members with
  | nil => simp [putMember, member?, Ne.symm h]
  | cons first members ih =>
    obtain ⟨n, v⟩ := first
    rw [putMember]
    by_cases hname : n = name
    · simp [hname, member?, Ne.symm h]
    · rw [if_neg hname]
      by_cases hcolumn : n = column
      · simp [member?, hcolumn]
      · simpa [member?, hcolumn] using ih

/-- Without the members of a name, nothing is found under that name and all else is. -/
theorem member?_filter_ne (name column : String) (members : List (String × α)) :
    member? column (members.filter fun m => m.1 ≠ name) =
      if column = name then none else member? column members := by
  induction members with
  | nil => simp [member?]
  | cons first members ih =>
    obtain ⟨n, v⟩ := first
    by_cases hname : n = name
    · rw [List.filter_cons_of_neg (by simpa using hname), ih]
      split_ifs with hcolumn
      · rfl
      · have hne : n ≠ column := fun heq => hcolumn (heq.symm.trans hname)
        simp [member?, hne]
    · rw [List.filter_cons_of_pos (by simpa using hname)]
      by_cases hn : n = column
      · have hne : column ≠ name := fun heq => hname (hn.trans heq)
        simp [member?, hn, hne]
      · simpa [member?, hn] using ih

theorem member?_eq_none {name : String} {members : List (String × α)} :
    member? name members = none ↔ name ∉ members.map Prod.fst := by
  rw [member?, Option.map_eq_none_iff, List.find?_eq_none, List.mem_map]
  constructor
  · rintro h ⟨m, hm, rfl⟩
    exact h m hm (by simp)
  · intro h m hm hname
    exact h ⟨m, hm, by simpa using hname⟩

/-- The names of a table are different. -/
theorem Json.nodup_of_table? {read : Json → Option α} {json : Json} {table : List (String × α)}
    (h : table? read json = some table) : (table.map Prod.fst).Nodup := by
  cases json with
  | object members =>
    obtain ⟨pairs, _, rfl⟩ := Option.map_eq_some_iff.mp h
    exact nodup_membersOf pairs
  | _ => cases h

/-- Each result of a run over a list is that of one of its elements. -/
theorem exists_of_mem_mapM {β : Type} {f : α → Option β} {as : List α} {bs : List β}
    (h : as.mapM f = some bs) {b : β} (hb : b ∈ bs) : ∃ a ∈ as, f a = some b := by
  induction as generalizing bs with
  | nil =>
    cases h
    cases hb
  | cons a as ih =>
    rw [List.mapM_cons] at h
    obtain ⟨first, hfirst, h⟩ := Option.bind_eq_some_iff.mp h
    obtain ⟨rest, hrest, h⟩ := Option.bind_eq_some_iff.mp h
    cases h
    rcases List.mem_cons.mp hb with rfl | hb
    · exact ⟨a, by simp, hfirst⟩
    · obtain ⟨other, hother, hb⟩ := ih hrest hb
      exact ⟨other, List.mem_cons_of_mem _ hother, hb⟩

/-- The values of a table have been read. -/
theorem Json.exists_of_mem_table? {read : Json → Option α} {json : Json}
    {table : List (String × α)} (h : table? read json = some table) {m : String × α}
    (hm : m ∈ table) : ∃ value, read value = some m.2 := by
  cases json with
  | object members =>
    obtain ⟨pairs, hpairs, rfl⟩ := Option.map_eq_some_iff.mp h
    obtain ⟨first, _, hfirst⟩ := exists_of_mem_mapM hpairs (mem_of_mem_membersOf hm)
    obtain ⟨value, hvalue, rfl⟩ := Option.map_eq_some_iff.mp hfirst
    exact ⟨first.2, hvalue⟩
  | _ => cases h

/-- An optional field is absent, or its value has been read. -/
theorem Json.optional?_eq_some {read : Json → Option α} {field : Option Json}
    {value : Option α} (h : optional? read field = some value) :
    value = none ∨ ∃ json, (read json) = value := by
  unfold optional? at h
  split at h
  · cases h
    exact Or.inl rfl
  · cases h
    exact Or.inl rfl
  · rename_i json _
    obtain ⟨v, hv, rfl⟩ := Option.map_eq_some_iff.mp h
    exact Or.inr ⟨json, hv⟩

namespace Json

/-! ## Whole documents -/

/-- Whether each object of a document has members with different names. -/
inductive NamesDistinct : Json → Prop
  | null : NamesDistinct .null
  | bool (b : Bool) : NamesDistinct (.bool b)
  | number (n : Number) : NamesDistinct (.number n)
  | string (s : String) : NamesDistinct (.string s)
  | array {items : List Json} (values : ∀ item ∈ items, NamesDistinct item) :
      NamesDistinct (.array items)
  | object {members : List (String × Json)} (names : (members.map Prod.fst).Nodup)
      (values : ∀ m ∈ members, NamesDistinct m.2) : NamesDistinct (.object members)

theorem namesDistinct_array_iff {items : List Json} :
    (Json.array items).NamesDistinct ↔ ∀ item ∈ items, item.NamesDistinct := by
  constructor
  · intro h
    cases h with
    | array values => exact values
  · exact .array

theorem namesDistinct_object_iff {members : List (String × Json)} :
    (Json.object members).NamesDistinct ↔
      (members.map Prod.fst).Nodup ∧ ∀ m ∈ members, m.2.NamesDistinct := by
  constructor
  · intro h
    cases h with
    | object names values => exact ⟨names, values⟩
  · rintro ⟨names, values⟩
    exact .object names values

theorem namesDistinct_ofNat (n : Nat) : (Json.ofNat n).NamesDistinct := by
  unfold Json.ofNat
  split
  · exact .number _
  · exact .number _

theorem namesDistinct_ofInt (n : Int) : (Json.ofInt n).NamesDistinct := by
  unfold Json.ofInt
  split
  · exact .number _
  · exact .null

mutual

/-- Of a name that is written twice, one member is kept. -/
theorem namesDistinct_of_value? {depth : Nat} {json : Json} : (tree : Tree) →
    tree.value? depth = some json → json.NamesDistinct
  | .null => by
    intro h
    cases h
    exact .null
  | .bool b => by
    intro h
    cases h
    exact .bool b
  | .number n => by
    intro h
    obtain ⟨n, _, rfl⟩ := Option.map_eq_some_iff.mp h
    exact .number n
  | .string s => by
    intro h
    obtain ⟨s, _, rfl⟩ := Option.map_eq_some_iff.mp h
    exact .string s
  | .array items => by
    intro h
    cases depth with
    | zero => cases h
    | succ depth =>
      obtain ⟨values, hvalues, rfl⟩ := Option.map_eq_some_iff.mp h
      exact .array (namesDistinct_of_values? items hvalues)
  | .object members => by
    intro h
    cases depth with
    | zero => cases h
    | succ depth =>
      obtain ⟨pairs, hpairs, rfl⟩ := Option.map_eq_some_iff.mp h
      refine .object (nodup_membersOf pairs) fun m hm => ?_
      exact namesDistinct_of_members? members hpairs m (mem_of_mem_membersOf hm)

theorem namesDistinct_of_values? {depth : Nat} {items : List Json} : (trees : List Tree) →
    Tree.values? depth trees = some items → ∀ item ∈ items, item.NamesDistinct
  | [] => by
    intro h item hitem
    cases h
    cases hitem
  | tree :: trees => by
    intro h item hitem
    unfold Tree.values? at h
    split at h
    · rename_i value values hvalue hvalues
      cases h
      rcases List.mem_cons.mp hitem with rfl | hitem
      · exact namesDistinct_of_value? tree hvalue
      · exact namesDistinct_of_values? trees hvalues item hitem
    · cases h

theorem namesDistinct_of_members? {depth : Nat} {pairs : List (String × Json)} :
    (members : List (Option String × Tree)) → Tree.members? depth members = some pairs →
    ∀ m ∈ pairs, m.2.NamesDistinct
  | [] => by
    intro h m hm
    cases h
    cases hm
  | (name, tree) :: rest => by
    intro h m hm
    unfold Tree.members? at h
    split at h
    · rename_i name value values hvalue hvalues
      cases h
      rcases List.mem_cons.mp hm with rfl | hm
      · exact namesDistinct_of_value? tree hvalue
      · exact namesDistinct_of_members? rest hvalues m hm
    · cases h

end

theorem namesDistinct_of_read? {cs : List Char} {json : Json} (h : read? cs = some json) :
    json.NamesDistinct := by
  obtain ⟨tree, _, h⟩ := Option.bind_eq_some_iff.mp h
  exact namesDistinct_of_value? tree h

end Json

end KustoSearch
