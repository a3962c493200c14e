import KustoSearch.Kql.Predicate
import Mathlib.Data.List.Basic

/-! # What stands outside quotes

A text is scanned from left to right: a quote of either kind opens, a backslash inside takes the
next character with it, and the quote that opened closes. Only what is left outside can end a
statement, start a stage or open a bracket. A `Fragment` starts and ends outside quotes, so that
fragments one after another are scanned one by one: `Fragment.append`.
-/

namespace KustoSearch.Kql

/-- Where a scan stands. -/
inductive Quotation where
  | outside
  /-- Inside a text that `mark` opened. -/
  | inside (mark : Char)
  /-- Behind a backslash inside. -/
  | escaped (mark : Char)
deriving DecidableEq, Repr

namespace Quotation

/-- One character further. -/
def step : Quotation → Char → Quotation
  | .outside, c => if c = '"' ∨ c = '\'' then .inside c else .outside
  | .inside mark, c =>
    if c = '\\' then .escaped mark else if c = mark then .outside else .inside mark
  | .escaped mark, _ => .inside mark

/-- Where the scan stands behind a text. -/
def after (q : Quotation) (cs : List Char) : Quotation := cs.foldl step q

/-- The characters outside quotes, the quotes left out. -/
def bare (q : Quotation) : List Char → List Char
  | [] => []
  | c :: cs =>
    if q = .outside ∧ q.step c = .outside then c :: bare (q.step c) cs else bare (q.step c) cs

theorem after_append (q : Quotation) (cs ds : List Char) :
    q.after (cs ++ ds) = (q.after cs).after ds := List.foldl_append

theorem bare_append (q : Quotation) (cs ds : List Char) :
    q.bare (cs ++ ds) = q.bare cs ++ (q.after cs).bare ds := by
  induction cs generalizing q with
  | nil => rfl
  | cons c cs ih =>
    rw [List.cons_append, bare, bare, ih]
    split <;> rfl

/-- Characters that neither open quotes nor are inside them. -/
theorem outside_of_no_quote {cs : List Char} (h : ∀ c ∈ cs, ¬(c = '"' ∨ c = '\'')) :
    outside.after cs = .outside ∧ outside.bare cs = cs := by
  induction cs with
  | nil => exact ⟨rfl, rfl⟩
  | cons c cs ih =>
    have hstep : outside.step c = .outside := if_neg (h c List.mem_cons_self)
    obtain ⟨hafter, hbare⟩ := ih fun d hd => h d (List.mem_cons_of_mem _ hd)
    refine ⟨?_, ?_⟩
    · rw [after, List.foldl_cons, hstep]
      exact hafter
    · rw [bare, if_pos ⟨rfl, hstep⟩, hstep, hbare]

/-- How characters are written between quotes: none of them closes the quotes or is left over. -/
def Escapes (mark : Char) (write : Char → List Char) : Prop :=
  ∀ c, (inside mark).after (write c) = .inside mark ∧ (inside mark).bare (write c) = []

/-- Behind escaped characters and the closing quote the scan is outside, wherever it was. -/
theorem Escapes.closed {mark : Char} {write : Char → List Char} (h : Escapes mark write)
    (hmark : mark ≠ '\\') (cs rest : List Char) :
    (inside mark).after (cs.flatMap write ++ mark :: rest) = outside.after rest ∧
      (inside mark).bare (cs.flatMap write ++ mark :: rest) = outside.bare rest := by
  induction cs with
  | nil =>
    have hstep : (inside mark).step mark = .outside := by
      rw [step, if_neg hmark, if_pos rfl]
    constructor
    · rw [List.flatMap_nil, List.nil_append, after, List.foldl_cons, hstep]
      rfl
    · rw [List.flatMap_nil, List.nil_append, bare, if_neg (by simp), hstep]
  | cons c cs ih =>
    -- what is written for one character leaves the scan where it was
    rw [List.flatMap_cons, List.append_assoc, after_append, bare_append, (h c).1, (h c).2]
    exact ih

end Quotation

open Quotation

/-! ## Brackets -/

/-- One character further, where `awaited` are the brackets to be closed, the innermost first. -/
def bracket? (awaited : List Char) (c : Char) : Option (List Char) :=
  if c = '(' then some (')' :: awaited)
  else if c = '[' then some (']' :: awaited)
  else if c = ')' ∨ c = ']' then
    match awaited with
    | [] => none
    | close :: rest => if close = c then some rest else none
  else some awaited

/-- The brackets to be closed behind a text; none when one is closed that was not opened. -/
def brackets? (awaited : List Char) : List Char → Option (List Char)
  | [] => some awaited
  | c :: cs => (bracket? awaited c).bind fun awaited => brackets? awaited cs

/-- Every bracket is closed, and no other one in between. -/
def Balanced (cs : List Char) : Prop := brackets? [] cs = some []

theorem brackets?_append (awaited cs ds : List Char) :
    brackets? awaited (cs ++ ds) =
      (brackets? awaited cs).bind fun awaited => brackets? awaited ds := by
  induction cs generalizing awaited with
  | nil => rfl
  | cons c cs ih =>
    rw [List.cons_append, brackets?, brackets?, Option.bind_assoc]
    simp only [ih]

/-- The brackets around a text do not matter inside it. -/
theorem bracket?_frame {awaited left : List Char} {c : Char} (h : bracket? awaited c = some left)
    (more : List Char) : bracket? (awaited ++ more) c = some (left ++ more) := by
  unfold bracket? at h ⊢
  split_ifs at h ⊢ with hround hsquare hclose
  · cases h
    rfl
  · cases h
    rfl
  · cases awaited with
    | nil => cases h
    | cons close rest =>
      -- the bracket that is closed is one of the text's own
      dsimp only at h
      split_ifs at h with hsame
      cases h
      exact if_pos hsame
  · cases h
    rfl

theorem brackets?_frame {awaited left cs : List Char} (h : brackets? awaited cs = some left)
    (more : List Char) : brackets? (awaited ++ more) cs = some (left ++ more) := by
  induction cs generalizing awaited with
  | nil =>
    cases h
    rfl
  | cons c cs ih =>
    obtain ⟨next, hnext, h⟩ := Option.bind_eq_some_iff.mp h
    rw [brackets?, bracket?_frame hnext]
    exact ih h

/-- Characters that are no brackets. -/
theorem brackets?_of_no_bracket {cs : List Char}
    (h : ∀ c ∈ cs, c ≠ '(' ∧ c ≠ '[' ∧ ¬(c = ')' ∨ c = ']')) (awaited : List Char) :
    brackets? awaited cs = some awaited := by
  induction cs with
  | nil => rfl
  | cons c cs ih =>
    obtain ⟨hround, hsquare, hclose⟩ := h c List.mem_cons_self
    have hstep : bracket? awaited c = some awaited := by
      unfold bracket?
      rw [if_neg hround, if_neg hsquare, if_neg hclose]
    rw [brackets?, hstep]
    exact ih fun d hd => h d (List.mem_cons_of_mem _ hd)

/-! ## Fragments -/

/-- A text that starts and ends outside quotes. Outside them it takes the brackets to be closed
from `awaited` to `left`, and has so many semicolons and pipes and no slash, so no comment. -/
structure Fragment (s : String) (awaited left : List Char) (semicolons pipes : Nat) : Prop where
  closed : outside.after s.toList = .outside
  brackets : brackets? awaited (outside.bare s.toList) = some left
  semicolons : (outside.bare s.toList).count ';' = semicolons
  pipes : (outside.bare s.toList).count '|' = pipes
  noSlash : '/' ∉ outside.bare s.toList

/-- A fragment that neither ends a statement nor starts a stage, and closes its brackets. -/
abbrev Inert (s : String) : Prop := Fragment s [] [] 0 0

instance (s : String) (awaited left : List Char) (semicolons pipes : Nat) :
    Decidable (Fragment s awaited left semicolons pipes) :=
  decidable_of_iff
    (outside.after s.toList = .outside ∧ brackets? awaited (outside.bare s.toList) = some left ∧
      (outside.bare s.toList).count ';' = semicolons ∧
      (outside.bare s.toList).count '|' = pipes ∧ '/' ∉ outside.bare s.toList)
    ⟨fun ⟨h₁, h₂, h₃, h₄, h₅⟩ => ⟨h₁, h₂, h₃, h₄, h₅⟩,
      fun ⟨h₁, h₂, h₃, h₄, h₅⟩ => ⟨h₁, h₂, h₃, h₄, h₅⟩⟩

section Fragment

variable {s t : String} {awaited middle left : List Char} {a b c d : Nat}

theorem Fragment.append (hs : Fragment s awaited middle a b) (ht : Fragment t middle left c d) :
    Fragment (s ++ t) awaited left (a + c) (b + d) := by
  have hbare : outside.bare (s ++ t).toList = outside.bare s.toList ++ outside.bare t.toList := by
    rw [String.toList_append, bare_append, hs.closed]
  refine ⟨?_, ?_, ?_, ?_, ?_⟩
  · rw [String.toList_append, after_append, hs.closed, ht.closed]
  · rw [hbare, brackets?_append, hs.brackets]
    exact ht.brackets
  · rw [hbare, List.count_append, hs.semicolons, ht.semicolons]
  · rw [hbare, List.count_append, hs.pipes, ht.pipes]
  · rw [hbare, List.mem_append]
    exact not_or.mpr ⟨hs.noSlash, ht.noSlash⟩

/-- Only what is outside quotes counts. -/
theorem Fragment.of_bare (hclosed : outside.after s.toList = .outside)
    (hbare : outside.bare s.toList = outside.bare t.toList)
    (h : Fragment t awaited left a b) : Fragment s awaited left a b := by
  refine ⟨hclosed, ?_, ?_, ?_, ?_⟩ <;> rw [hbare]
  · exact h.brackets
  · exact h.semicolons
  · exact h.pipes
  · exact h.noSlash

/-- A fragment may stand inside brackets. -/
theorem Fragment.within (h : Fragment s awaited left a b) (more : List Char) :
    Fragment s (awaited ++ more) (left ++ more) a b :=
  { h with brackets := brackets?_frame h.brackets more }

theorem Inert.append (hs : Inert s) (ht : Inert t) : Inert (s ++ t) := Fragment.append hs ht

/-- An inert text behind a fragment changes nothing. -/
theorem Fragment.inert (hs : Fragment s awaited left a b) (ht : Inert t) :
    Fragment (s ++ t) awaited left a b := hs.append (Fragment.within ht left)

theorem Fragment.close (h : Fragment s [] [')'] a b) : Fragment (s ++ ")") [] [] a b := by
  have hclosing : Fragment ")" [')'] [] 0 0 := by decide
  exact h.append hclosing

/-- An inert text in the brackets that something opens. -/
theorem Inert.call {opening : String} (h : Inert s) (hopening : Fragment opening [] [')'] 0 0) :
    Inert (opening ++ s ++ ")") := (hopening.inert h).close

theorem inert_empty : Inert "" := by decide

end Fragment

/-! ## Texts one after another -/

/-- Texts that each close their brackets, with their semicolons and pipes together. -/
inductive Fragments : List String → Nat → Nat → Prop where
  | nil : Fragments [] 0 0
  | cons {s : String} {parts : List String} {a b c d : Nat} (hfirst : Fragment s [] [] a b)
      (hrest : Fragments parts c d) : Fragments (s :: parts) (a + c) (b + d)

theorem Fragments.append {ps qs : List String} {a b c d : Nat} (hps : Fragments ps a b)
    (hqs : Fragments qs c d) : Fragments (ps ++ qs) (a + c) (b + d) := by
  induction hps with
  | nil => rwa [List.nil_append, Nat.zero_add, Nat.zero_add]
  | cons hfirst _ ih =>
    rw [Nat.add_assoc, Nat.add_assoc]
    exact .cons hfirst ih

theorem Fragments.of_inert {parts : List String} (h : ∀ part ∈ parts, Inert part) :
    Fragments parts 0 0 := by
  induction parts with
  | nil => exact .nil
  | cons part parts ih =>
    exact .cons (h part List.mem_cons_self) (ih fun p hp => h p (List.mem_cons_of_mem _ hp))

/-- Between texts the separator stands once less than there are texts. -/
theorem Fragments.join {separator : String} {parts : List String} {a b c d : Nat}
    (h : Fragments parts a b) (hseparator : Fragment separator [] [] c d) :
    Fragment (Text.join separator parts) [] [] (a + (parts.length - 1) * c)
      (b + (parts.length - 1) * d) := by
  induction h with
  | nil => simpa [Text.join] using inert_empty
  | cons hfirst hrest ih =>
    cases hrest with
    | nil => simpa [Text.join] using hfirst
    | cons hnext hrest =>
      -- the first text and the separator behind it stand before the join of the others
      have hsplit := (hfirst.append hseparator).append ih
      simp only [List.length_cons, Nat.add_sub_cancel] at hsplit ⊢
      rw [Text.join]
      convert hsplit using 1 <;> rw [Nat.succ_mul] <;> omega

/-- Inert texts with an inert separator. -/
theorem inert_join {separator : String} {parts : List String} (hseparator : Inert separator)
    (h : ∀ part ∈ parts, Inert part) : Inert (Text.join separator parts) := by
  have hjoin := (Fragments.of_inert h).join hseparator
  simpa only [Nat.mul_zero, Nat.add_zero] using hjoin

/-! ## Texts of plain characters -/

/-- The characters that quote, divide, group or comment. -/
def marks : List Char := ['"', '\'', '(', ')', '[', ']', ';', '|', '/']

/-- Whether a character is none of the marks. -/
def isPlain (c : Char) : Bool := !marks.contains c

theorem inert_of_plain {s : String} (h : ∀ c ∈ s.toList, isPlain c = true) : Inert s := by
  have hne : ∀ c, isPlain c = false → c ∉ s.toList := fun c hc hmem => by
    rw [h c hmem] at hc
    cases hc
  have hquote : ∀ c ∈ s.toList, ¬(c = '"' ∨ c = '\'') := by
    rintro c hc (rfl | rfl)
    · exact hne '"' rfl hc
    · exact hne '\'' rfl hc
  have hbracket : ∀ c ∈ s.toList, c ≠ '(' ∧ c ≠ '[' ∧ ¬(c = ')' ∨ c = ']') := by
    intro c hc
    refine ⟨?_, ?_, ?_⟩
    · rintro rfl
      exact hne '(' rfl hc
    · rintro rfl
      exact hne '[' rfl hc
    · rintro (rfl | rfl)
      · exact hne ')' rfl hc
      · exact hne ']' rfl hc
  obtain ⟨hafter, hbare⟩ := outside_of_no_quote hquote
  refine ⟨hafter, ?_, ?_, ?_, ?_⟩
  · rw [hbare]
    exact brackets?_of_no_bracket hbracket []
  · rw [hbare]
    exact List.count_eq_zero.mpr (hne ';' rfl)
  · rw [hbare]
    exact List.count_eq_zero.mpr (hne '|' rfl)
  · rw [hbare]
    exact hne '/' rfl

/-- Characters of a kind that no mark is of. -/
theorem isPlain_of_kind (kind : Char → Bool) {c : Char} (hkind : marks.any kind = false)
    (h : kind c = true) : isPlain c = true := by
  have hmem : c ∉ marks := fun hmem => List.any_eq_false.mp hkind c hmem h
  rw [isPlain, List.contains_eq_mem, decide_eq_false hmem]
  rfl

/-! ## Quoted names and texts -/

theorem escapes_identifierChar : Escapes '\'' identifierChar := by
  intro c
  unfold identifierChar
  split_ifs with hslash hquote
  · exact ⟨rfl, rfl⟩
  · exact ⟨rfl, rfl⟩
  · -- neither a backslash nor the quote, the only characters that change the state
    have hstep : (inside '\'').step c = .inside '\'' := by
      rw [step, if_neg hslash, if_neg hquote]
    exact ⟨hstep, if_neg (by simp)⟩

theorem escapes_literalChar : Escapes '"' literalChar := by
  intro c
  unfold literalChar
  split_ifs with hslash hquote
  · exact ⟨rfl, rfl⟩
  · exact ⟨rfl, rfl⟩
  · exact ⟨rfl, rfl⟩
  · exact ⟨rfl, rfl⟩
  · exact ⟨rfl, rfl⟩
  · have hstep : (inside '"').step c = .inside '"' := by
      rw [step, if_neg hslash, if_neg hquote]
    exact ⟨hstep, if_neg (by simp)⟩

/-- Of a name in brackets only the brackets are outside quotes. -/
theorem outside_identifier (name : String) :
    outside.after (identifier name).toList = .outside ∧
      outside.bare (identifier name).toList = ['[', ']'] := by
  have htext : (identifier name).toList =
      '[' :: '\'' :: (name.toList.flatMap identifierChar ++ ['\'', ']']) := by
    simp [identifier]
  obtain ⟨hafter, hbare⟩ := escapes_identifierChar.closed (by decide) name.toList [']']
  rw [htext]
  exact ⟨hafter, congrArg ('[' :: ·) hbare⟩

/-- Nothing of a text literal is outside quotes. -/
theorem outside_textLiteral (text : String) :
    outside.after (textLiteral text).toList = .outside ∧
      outside.bare (textLiteral text).toList = [] := by
  have htext : (textLiteral text).toList =
      '"' :: (text.toList.flatMap literalChar ++ ['"']) := by
    simp [textLiteral]
  obtain ⟨hafter, hbare⟩ := escapes_literalChar.closed (by decide) text.toList []
  rw [htext]
  exact ⟨hafter, hbare⟩

theorem inert_identifier (name : String) : Inert (identifier name) :=
  Fragment.of_bare (t := "[]") (outside_identifier name).1 (outside_identifier name).2 (by decide)

theorem inert_textLiteral (text : String) : Inert (textLiteral text) :=
  Fragment.of_bare (t := "") (outside_textLiteral text).1 (outside_textLiteral text).2 (by decide)

end KustoSearch.Kql
