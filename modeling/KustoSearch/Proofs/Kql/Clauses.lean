import KustoSearch.Proofs.Kql.Variables

/-! # Clauses of a statement

Semicolons outside quotes divide a statement into clauses. A clause binds a variable or is an
expression with a named result, and reads other variables. `WellScoped` says that what is read is
bound before, and that the named results are some tables.
-/

namespace KustoSearch.Kql

open Quotation (outside outside_of_no_quote)

/-! ## Words of a text -/

/-- The words of a text outside its quotes. -/
def bareWords (s : String) : List String := words (outside.bare s.toList)

/-- The variables among them. -/
def variablesIn (s : String) : List String := (bareWords s).filter isVariable

theorem Quiet.variablesIn_eq {s : String} (h : Quiet s) : variablesIn s = [] := by
  refine List.filter_eq_nil_iff.mpr fun word hword => ?_
  obtain ⟨run, hrun, rfl⟩ := List.mem_map.mp hword
  rw [isVariable_of_unled (h.unled run (List.mem_of_mem_filter hrun))]
  exact Bool.false_ne_true

/-- A text of word characters is one word. -/
theorem bareWords_of_word {s : String} (hne : s.toList ≠ [])
    (h : ∀ c ∈ s.toList, isWordChar c = true) : bareWords s = [s] := by
  have hquote : ∀ c ∈ s.toList, ¬(c = '"' ∨ c = '\'') := by
    rintro c hc (rfl | rfl)
    · exact absurd (h _ hc) (by decide)
    · exact absurd (h _ hc) (by decide)
  have hruns : runs s.toList = [s.toList] :=
    List.splitOnP_eq_singleton fun c hc => by rw [h c hc]; rfl
  rw [bareWords, (outside_of_no_quote hquote).2, words, hruns]
  simp [hne]

/-- A text that touches no word behind it. -/
structure Leads (d : String) : Prop where
  closed : outside.after d.toList = .outside
  last : (outside.bare d.toList).getLast?.all isWordChar = false

/-- A text that touches no word on either side. -/
structure Divides (d : String) : Prop extends Leads d where
  first : (outside.bare d.toList).head?.all isWordChar = false

instance (d : String) : Decidable (Leads d) :=
  decidable_of_iff
    (outside.after d.toList = .outside ∧
      (outside.bare d.toList).getLast?.all isWordChar = false)
    ⟨fun ⟨h₁, h₂⟩ => ⟨h₁, h₂⟩, fun ⟨h₁, h₂⟩ => ⟨h₁, h₂⟩⟩

instance (d : String) : Decidable (Divides d) :=
  decidable_of_iff (Leads d ∧ (outside.bare d.toList).head?.all isWordChar = false)
    ⟨fun ⟨h₁, h₂⟩ => ⟨h₁, h₂⟩, fun ⟨h₁, h₂⟩ => ⟨h₁, h₂⟩⟩

theorem bareWords_lead {d : String} (hd : Leads d) (t : String) :
    bareWords (d ++ t) = bareWords d ++ bareWords t := by
  -- the last character of `d` outside quotes ends its last word
  obtain ⟨cs, c, hcs⟩ : ∃ cs c, outside.bare d.toList = cs ++ [c] := by
    rcases List.eq_nil_or_concat' (outside.bare d.toList) with hnil | h
    · exact absurd hd.last (by simp [hnil])
    · exact h
  have hc : isWordChar c = false := by
    simpa [hcs] using hd.last
  have hlead : words (cs ++ [c]) = words cs := by
    rw [words_divided cs [] hc]
    exact List.append_nil _
  rw [bareWords, bareWords, bareWords, bare_append hd.closed, hcs, hlead, List.append_assoc,
    List.singleton_append, words_divided _ _ hc]

theorem bareWords_divided {s d : String} (hs : outside.after s.toList = .outside)
    (hd : Divides d) (t : String) :
    bareWords (s ++ d ++ t) = bareWords s ++ (bareWords d ++ bareWords t) := by
  -- the first character of `d` outside quotes ends the last word of `s`
  obtain ⟨c, cs, hcs⟩ : ∃ c cs, outside.bare d.toList = c :: cs := by
    cases hbare : outside.bare d.toList with
    | nil => exact absurd hd.first (by simp [hbare])
    | cons c cs => exact ⟨c, cs, rfl⟩
  have hc : isWordChar c = false := by
    simpa [hcs] using hd.first
  have hfirst (ds : List Char) : words (c :: ds) = words ds := words_divided [] ds hc
  rw [String.append_assoc, ← bareWords_lead hd.toLeads]
  rw [bareWords, bareWords, bareWords, bare_append hs, bare_append hd.closed, hcs, List.cons_append,
    words_divided _ _ hc, hfirst]

theorem variablesIn_lead {d : String} (hd : Leads d) (t : String) :
    variablesIn (d ++ t) = variablesIn d ++ variablesIn t := by
  rw [variablesIn, bareWords_lead hd, List.filter_append]
  rfl

theorem variablesIn_divided {s d : String} (hs : outside.after s.toList = .outside)
    (hd : Divides d) (t : String) :
    variablesIn (s ++ d ++ t) = variablesIn s ++ (variablesIn d ++ variablesIn t) := by
  rw [variablesIn, bareWords_divided hs hd, List.filter_append, List.filter_append]
  rfl

/-- Texts with a separator between them, which holds no variable itself. -/
theorem variablesIn_join {d : String} {parts : List String} (hd : Divides d)
    (hnone : variablesIn d = []) (h : ∀ part ∈ parts, outside.after part.toList = .outside) :
    variablesIn (Text.join d parts) = parts.flatMap variablesIn := by
  induction parts with
  | nil => exact (by decide : variablesIn "" = [])
  | cons part parts ih =>
    obtain ⟨hpart, hparts⟩ := List.forall_mem_cons.mp h
    cases parts with
    | nil => simp [Text.join]
    | cons next parts =>
      rw [Text.join, variablesIn_divided hpart hd, hnone, ih hparts]
      rfl

/-! ## Clauses -/

/-- A part of a statement between semicolons. -/
structure Clause where
  /-- The variable that it binds. -/
  binds : Option String
  /-- The variables that it reads. -/
  reads : List String
  /-- The name of its result. -/
  name : Option String
deriving DecidableEq, Repr

/-- The name behind a last `as`. -/
def resultName? (words : List String) : Option String :=
  match words.reverse with
  | name :: "as" :: _ => some name
  | _ => none

/-- A clause from its words: after `let` comes the variable that it binds. -/
def Clause.ofWords : List String → Clause
  | "let" :: bound :: words => ⟨some bound, words.filter isVariable, none⟩
  | words => ⟨none, words.filter isVariable, resultName? words⟩

/-- A clause from its text. -/
def Clause.ofText (s : String) : Clause := ofWords (bareWords s)

/-- The clauses of a statement. -/
def clauses (s : String) : List Clause :=
  ((outside.bare s.toList).splitOn ';').map fun cs => Clause.ofWords (words cs)

theorem Clause.ofWords_result {word : String} (words : List String) (name : String)
    (h : word ≠ "let") : ofWords (word :: (words ++ ["as", name])) =
      ⟨none, (word :: (words ++ ["as", name])).filter isVariable, some name⟩ := by
  have hname : resultName? (word :: (words ++ ["as", name])) = some name := by
    simp [resultName?]
  unfold ofWords
  split
  · next heq => exact absurd (List.cons.inj heq).1 h
  · rw [hname]

/-- Parts with semicolons between them are the clauses. -/
theorem clauses_join {parts : List String} (hne : parts ≠ [])
    (h : ∀ part ∈ parts, ∃ pipes, Fragment part [] [] 0 pipes) :
    clauses (Text.join ";\n" parts) = parts.map Clause.ofText := by
  induction parts with
  | nil => exact absurd rfl hne
  | cons part parts ih =>
    obtain ⟨⟨pipes, hpart⟩, hparts⟩ := List.forall_mem_cons.mp h
    -- a part has no semicolon of its own outside its quotes, so that the first one is behind it
    have hnone : ';' ∉ outside.bare part.toList := List.count_eq_zero.mp hpart.semicolons
    cases parts with
    | nil =>
      have hsplit : (outside.bare part.toList).splitOn ';' = [outside.bare part.toList] :=
        List.splitOn_eq_singleton hnone
      rw [Text.join, clauses, hsplit]
      rfl
    | cons next parts =>
      have hbare (rest : String) : outside.bare (part ++ ";\n" ++ rest).toList =
          outside.bare part.toList ++ ';' :: '\n' :: outside.bare rest.toList := by
        rw [String.append_assoc, bare_append hpart.closed, bare_append (by decide)]
        rfl
      -- the line end stands in front of the next clause, outside its words
      have hline (cs : List Char) : (('\n' :: cs).splitOn ';').map (Clause.ofWords <| words ·) =
          (cs.splitOn ';').map (Clause.ofWords <| words ·) := by
        obtain ⟨first, rest, hsplit⟩ := List.exists_cons_of_ne_nil (List.splitOn_ne_nil ';' cs)
        have hwords : words ('\n' :: first) = words first := words_divided [] first (by decide)
        rw [List.splitOn_cons_eq_if_modifyHead, if_neg (by decide), hsplit, List.modifyHead_cons,
          List.map_cons, List.map_cons, hwords]
      rw [Text.join, clauses, hbare, List.splitOn_append_cons_self_of_not_mem hnone, List.map_cons,
        hline, List.map_cons, ← ih (List.cons_ne_nil _ _) hparts]
      rfl

/-! ## Scopes -/

/-- A statement that reads what is bound, and gives some tables. -/
structure WellScoped (clauses : List Clause) (tables : List String) : Prop where
  /-- What a clause reads has one binding before it. -/
  bound : ∀ i clause, clauses[i]? = some clause → ∀ v ∈ clause.reads,
    ((clauses.take i).filterMap Clause.binds).count v = 1
  /-- The results together read every bound variable but the selected rows once. -/
  output : ∀ v ∈ clauses.filterMap Clause.binds, v ≠ "_data" →
    ((clauses.filter fun c => c.binds.isNone).flatMap Clause.reads).count v = 1
  /-- The names of the results, in order. -/
  names : (clauses.filter fun c => c.binds.isNone).map Clause.name = tables.map some
  distinct : tables.Nodup
  nonempty : tables ≠ []

end KustoSearch.Kql
