import KustoSearch.Proofs.Kql.Quoting

/-! # Pieces of a text

A mark divides a text where it stands outside quotes. Texts joined by a separator are divided into
the same texts again, with the blanks of the separator around them, as long as none of them has the
mark outside its quotes: `pieces_join`.
-/

namespace KustoSearch.Kql

open Quotation (outside)

/-- The pieces of a text between the places where a mark stands outside quotes. -/
def piecesFrom (mark : Char) (q : Quotation) : List Char → List (List Char)
  | [] => [[]]
  | c :: cs =>
    if c = mark ∧ q = .outside then [] :: piecesFrom mark q cs
    else
      match piecesFrom mark (q.step c) cs with
      | [] => [[c]]
      | piece :: pieces => (c :: piece) :: pieces

/-- The pieces of a text. -/
def pieces (mark : Char) (cs : List Char) : List (List Char) := piecesFrom mark outside cs

/-- A text that a mark does not divide. -/
structure Whole (mark : Char) (cs : List Char) : Prop where
  closed : outside.after cs = .outside
  whole : mark ∉ outside.bare cs

instance (mark : Char) (cs : List Char) : Decidable (Whole mark cs) :=
  decidable_of_iff (outside.after cs = .outside ∧ mark ∉ outside.bare cs)
    ⟨fun ⟨hclosed, hwhole⟩ => ⟨hclosed, hwhole⟩, fun ⟨hclosed, hwhole⟩ => ⟨hclosed, hwhole⟩⟩

section Pieces

variable {mark : Char} {cs ds : List Char}

theorem Whole.append (hcs : Whole mark cs) (hds : Whole mark ds) : Whole mark (cs ++ ds) := by
  constructor
  · rw [Quotation.after_append, hcs.closed, hds.closed]
  · rw [Quotation.bare_append, hcs.closed, List.mem_append]
    exact not_or.mpr ⟨hcs.whole, hds.whole⟩

/-- Characters that are neither quotes nor the mark. -/
theorem whole_of_plain (h : ∀ c ∈ cs, ¬(c = '"' ∨ c = '\'') ∧ c ≠ mark) : Whole mark cs := by
  obtain ⟨hafter, hbare⟩ := Quotation.outside_of_no_quote fun c hc => (h c hc).1
  refine ⟨hafter, ?_⟩
  rw [hbare]
  intro hmem
  exact (h mark hmem).2 rfl

/-- Where a mark is not left over, it does not stand first, and it is not left over behind. -/
theorem not_divided (hmark : ¬(mark = '"' ∨ mark = '\'')) {q : Quotation} {c : Char}
    (hwhole : mark ∉ q.bare (c :: cs)) :
    ¬(c = mark ∧ q = .outside) ∧ mark ∉ (q.step c).bare cs := by
  constructor
  · rintro ⟨rfl, rfl⟩
    have hstep : outside.step c = .outside := if_neg hmark
    rw [Quotation.bare, if_pos ⟨rfl, hstep⟩] at hwhole
    exact hwhole List.mem_cons_self
  · intro hmem
    apply hwhole
    rw [Quotation.bare]
    split_ifs
    · exact List.mem_cons_of_mem _ hmem
    · exact hmem

theorem piecesFrom_ne_nil (mark : Char) (q : Quotation) (cs : List Char) :
    piecesFrom mark q cs ≠ [] := by
  cases cs with
  | nil => exact List.cons_ne_nil _ _
  | cons c cs =>
    rw [piecesFrom]
    split_ifs
    · exact List.cons_ne_nil _ _
    · split <;> exact List.cons_ne_nil _ _

/-- There is one piece more than there are marks outside quotes. -/
theorem length_piecesFrom (hmark : ¬(mark = '"' ∨ mark = '\'')) (q : Quotation) (cs : List Char) :
    (piecesFrom mark q cs).length = (q.bare cs).count mark + 1 := by
  induction cs generalizing q with
  | nil => rfl
  | cons c cs ih =>
    rw [piecesFrom]
    split_ifs with hdivides
    · obtain ⟨rfl, rfl⟩ := hdivides
      have hstep : outside.step c = .outside := if_neg hmark
      rw [Quotation.bare, if_pos ⟨rfl, hstep⟩, hstep, List.count_cons_self, List.length_cons, ih]
    · have hcount : (q.bare (c :: cs)).count mark = ((q.step c).bare cs).count mark := by
        rw [Quotation.bare]
        split_ifs with hkept
        · rw [List.count_cons_of_ne fun heq => hdivides ⟨heq, hkept.1⟩]
        · rfl
      obtain ⟨piece, more, hpieces⟩ :=
        List.exists_cons_of_ne_nil (piecesFrom_ne_nil mark (q.step c) cs)
      rw [hcount, ← ih, hpieces]
      rfl

/-- The first mark outside quotes ends the first piece. -/
theorem piecesFrom_append (hmark : ¬(mark = '"' ∨ mark = '\'')) {q : Quotation}
    (hclosed : q.after cs = .outside) (hwhole : mark ∉ q.bare cs) (rest : List Char) :
    piecesFrom mark q (cs ++ mark :: rest) = cs :: pieces mark rest := by
  -- the state of the quotes changes with every character
  induction cs generalizing q with
  | nil =>
    obtain rfl : q = .outside := hclosed
    rw [List.nil_append, piecesFrom, if_pos ⟨rfl, rfl⟩]
    rfl
  | cons c cs ih =>
    obtain ⟨hhere, hbehind⟩ := not_divided hmark hwhole
    rw [List.cons_append, piecesFrom, if_neg hhere, ih hclosed hbehind]

/-- A text that the mark does not divide is one piece. -/
theorem piecesFrom_whole (hmark : ¬(mark = '"' ∨ mark = '\'')) {q : Quotation}
    (hclosed : q.after cs = .outside) (hwhole : mark ∉ q.bare cs) :
    piecesFrom mark q cs = [cs] := by
  induction cs generalizing q with
  | nil => rfl
  | cons c cs ih =>
    obtain ⟨hhere, hbehind⟩ := not_divided hmark hwhole
    rw [piecesFrom, if_neg hhere, ih hclosed hbehind]

end Pieces

/-! ## Joined texts -/

/-- Blanks only. -/
def Blanks (cs : List Char) : Prop := ∀ c ∈ cs, c = ' '

/-- A text with blanks around it. -/
def Padded (text cs : List Char) : Prop :=
  ∃ before after, Blanks before ∧ Blanks after ∧ cs = before ++ text ++ after

theorem blanks_nil : Blanks [] := List.forall_mem_nil _

/-- A separator: a mark with blanks around it. -/
structure Separator (mark : Char) (separator : String) (before after : List Char) : Prop where
  chars : separator.toList = before ++ mark :: after
  before : Blanks before
  after : Blanks after
  visible : mark ≠ ' '
  noQuote : ¬(mark = '"' ∨ mark = '\'')

section Joined

variable {mark : Char} {separator : String} {before after : List Char}

theorem Separator.whole_of_blanks (h : Separator mark separator before after) {cs : List Char}
    (hcs : Blanks cs) : Whole mark cs := by
  apply whole_of_plain
  intro c hc
  rw [hcs c hc]
  exact ⟨by decide, h.visible.symm⟩

/-- Joined texts are divided into the texts that were joined. -/
theorem pieces_join (h : Separator mark separator before after) {parts : List String}
    (hne : parts ≠ []) (hparts : ∀ part ∈ parts, Whole mark part.toList) {lead trail : List Char}
    (hlead : Blanks lead) (htrail : Blanks trail) :
    List.Forall₂ (fun part => Padded (String.toList part)) parts
      (pieces mark (lead ++ (Text.join separator parts).toList ++ trail)) := by
  -- the blanks in front of a part are those of the separator before it
  induction parts generalizing lead with
  | nil => exact absurd rfl hne
  | cons part parts ih =>
    obtain ⟨hpart, hrest⟩ := List.forall_mem_cons.mp hparts
    cases parts with
    | nil =>
      have hwhole := ((h.whole_of_blanks hlead).append hpart).append (h.whole_of_blanks htrail)
      rw [Text.join, pieces, piecesFrom_whole h.noQuote hwhole.closed hwhole.whole]
      exact .cons ⟨lead, trail, hlead, htrail, rfl⟩ .nil
    | cons next parts =>
      have hwhole := ((h.whole_of_blanks hlead).append hpart).append (h.whole_of_blanks h.before)
      have hchars : lead ++ (Text.join separator (part :: next :: parts)).toList ++ trail =
          (lead ++ part.toList ++ before) ++
            mark :: (after ++ (Text.join separator (next :: parts)).toList ++ trail) := by
        rw [Text.join, String.toList_append, String.toList_append, h.chars]
        simp only [List.append_assoc, List.cons_append]
      rw [hchars, pieces, piecesFrom_append h.noQuote hwhole.closed hwhole.whole]
      exact .cons ⟨lead, before, hlead, h.before, rfl⟩
        (ih (List.cons_ne_nil _ _) hrest h.after)

end Joined

theorem blanks_single : Blanks [' '] := List.forall_mem_singleton.mpr rfl

theorem separator_comma : Separator ',' ", " [] [' '] :=
  ⟨rfl, blanks_nil, blanks_single, by decide, by decide⟩

theorem separator_pipe : Separator '|' " | " [' '] [' '] :=
  ⟨rfl, blanks_single, blanks_single, by decide, by decide⟩

theorem separator_point : Separator '.' "." [] [] :=
  ⟨rfl, blanks_nil, blanks_nil, by decide, by decide⟩

/-- A line end stands in front of the first piece. -/
theorem dropWhile_pieces_line (cs : List Char) :
    (pieces ';' ('\n' :: cs)).map (List.dropWhile (· = '\n')) =
      (pieces ';' cs).map (List.dropWhile (· = '\n')) := by
  have hstep : outside.step '\n' = .outside := by decide
  rw [pieces, piecesFrom, if_neg (by decide), hstep]
  cases hpieces : piecesFrom ';' outside cs with
  | nil => exact absurd hpieces (piecesFrom_ne_nil _ _ _)
  | cons piece more => rw [pieces, hpieces]; rfl

/-- Clauses with semicolons between them, each on a line of its own. -/
theorem pieces_lines {parts : List String} (hne : parts ≠ [])
    (hwhole : ∀ part ∈ parts, Whole ';' part.toList)
    (hstart : ∀ part ∈ parts, part.toList.head? ≠ some '\n') :
    (pieces ';' (Text.join ";\n" parts).toList).map (List.dropWhile (· = '\n')) =
      parts.map String.toList := by
  have hmark : ¬(';' = '"' ∨ ';' = '\'') := by decide
  have hdrop (cs : List Char) (h : cs.head? ≠ some '\n') : cs.dropWhile (· = '\n') = cs := by
    cases cs with
    | nil => rfl
    | cons c cs =>
      have hc : c ≠ '\n' := by simpa using h
      rw [List.dropWhile_cons_of_neg (by simpa using hc)]
  induction parts with
  | nil => exact absurd rfl hne
  | cons part parts ih =>
    obtain ⟨hpart, hparts⟩ := List.forall_mem_cons.mp hwhole
    obtain ⟨hhead, hheads⟩ := List.forall_mem_cons.mp hstart
    cases parts with
    | nil =>
      rw [Text.join, pieces, piecesFrom_whole hmark hpart.closed hpart.whole, List.map_singleton,
        hdrop _ hhead]
      rfl
    | cons next parts =>
      -- the line end of a separator is the first character of the next piece
      have hchars : (Text.join ";\n" (part :: next :: parts)).toList =
          part.toList ++ ';' :: '\n' :: (Text.join ";\n" (next :: parts)).toList := by
        simp [Text.join]
      rw [hchars, pieces, piecesFrom_append hmark hpart.closed hpart.whole, List.map_cons,
        dropWhile_pieces_line, ih (List.cons_ne_nil _ _) hparts hheads, hdrop _ hhead]
      rfl

/-- Reading each item of a list, when it is known what each one is read as. -/
theorem mapM_eq_some {α β γ : Type} {f : α → Option β} {g : γ → β} {cs : List γ} {as : List α}
    (h : List.Forall₂ (fun c a => f a = some (g c)) cs as) : as.mapM f = some (cs.map g) := by
  induction h with
  | nil => rfl
  | cons hfirst _ ih => simp [List.mapM_cons, hfirst, ih]

theorem length_of_mapM_eq_some {α β : Type} {f : α → Option β} {as : List α} {bs : List β}
    (h : as.mapM f = some bs) : bs.length = as.length := by
  induction as generalizing bs with
  | nil =>
    cases h
    rfl
  | cons a as ih =>
    rw [List.mapM_cons] at h
    obtain ⟨b, _, h⟩ := Option.bind_eq_some_iff.mp h
    obtain ⟨more, hmore, h⟩ := Option.bind_eq_some_iff.mp h
    cases h
    rw [List.length_cons, List.length_cons, ih hmore]

/-- A name in brackets is divided by nothing but its brackets. -/
theorem whole_identifier {mark : Char} (name : String) (h : mark ≠ '[' ∧ mark ≠ ']') :
    Whole mark (identifier name).toList := by
  obtain ⟨hclosed, hbare⟩ := outside_identifier name
  refine ⟨hclosed, ?_⟩
  rw [hbare]
  simp [h]

/-- A text without a semicolon is one clause. -/
theorem Fragment.whole {s : String} {awaited left : List Char} {pipes : Nat}
    (h : Fragment s awaited left 0 pipes) : Whole ';' s.toList :=
  ⟨h.closed, List.count_eq_zero.mp h.semicolons⟩

/-- An inert text is no pipeline. -/
theorem Inert.whole {s : String} (h : Inert s) : Whole '|' s.toList :=
  ⟨h.closed, List.count_eq_zero.mp h.pipes⟩

end KustoSearch.Kql
