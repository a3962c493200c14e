import KustoSearch.Proofs.Kql.Inert

/-! # Words and variables

What stands outside the quotes of a statement is words and marks. Semicolons divide it into
clauses: a binding names a variable, and an expression names its result. A `Quiet` text holds no
variable, wherever it stands in a statement, for none of its words begins as a variable does.
-/

namespace KustoSearch.Kql

open Quotation (outside outside_of_no_quote)

/-! ## Words -/

/-- Whether a character belongs to a word. The star of a column pattern does. -/
def isWordChar (c : Char) : Bool := c.isAlphanum || c = '_' || c = '*'

/-- The runs of such characters; between two other characters there may be none. -/
def runs (cs : List Char) : List (List Char) := cs.splitOnP fun c => !isWordChar c

/-- The words of a text. -/
def words (cs : List Char) : List String :=
  ((runs cs).filter fun run => !run.isEmpty).map String.ofList

/-- Whether a word is a variable of a statement: the selected rows or a level of buckets. -/
def isVariable (word : String) : Bool :=
  match word.toList with
  | '_' :: 'd' :: rest => rest = ['a', 't', 'a']
  | '_' :: 'a' :: 'g' :: 'g' :: number => !number.isEmpty && number.all Text.isDigit
  | _ => false

/-- A word with a star is a pattern and no variable. -/
theorem isVariable_of_star {word : String} (h : '*' ∈ word.toList) : isVariable word = false := by
  unfold isVariable
  split
  · next heq =>
    rw [heq] at h
    exact decide_eq_false fun hrest => absurd h (by rw [hrest]; decide)
  · next number heq =>
    rw [heq] at h
    have hstar : '*' ∈ number := by
      simpa using h
    rw [Bool.and_eq_false_imp]
    exact fun _ => List.all_eq_false.mpr ⟨'*', hstar, by decide⟩
  · rfl

theorem isWordChar_of_isDigit {c : Char} (h : Text.isDigit c = true) : isWordChar c = true := by
  have hdigit : c.isDigit = true := h
  rw [isWordChar, Char.isAlphanum, hdigit, Bool.or_true]
  rfl

theorem runs_divided (cs ds : List Char) {c : Char} (h : isWordChar c = false) :
    runs (cs ++ c :: ds) = runs cs ++ runs ds :=
  List.splitOnP_append_cons cs ds (by rw [h]; rfl)

theorem runs_cons {c : Char} (cs : List Char) (h : isWordChar c = true) :
    runs (c :: cs) = (runs cs).modifyHead (c :: ·) := by
  rw [runs, List.splitOnP_cons_eq_if_modifyHead, if_neg (by simp [h])]
  rfl

/-- A text has a first run, which may be empty. -/
theorem exists_runs (cs : List Char) : ∃ first rest, runs cs = first :: rest :=
  List.exists_cons_of_ne_nil (List.splitOnP_ne_nil _ cs)

/-- A run holds characters of the text. -/
theorem mem_of_mem_runs {cs run : List Char} {d : Char} (hrun : run ∈ runs cs) (hd : d ∈ run) :
    d ∈ cs := by
  induction cs generalizing run with
  | nil =>
    -- the empty text has one run, which is empty
    cases List.mem_singleton.mp hrun
    exact hd
  | cons c cs ih =>
    cases hc : isWordChar c with
    | false =>
      rw [show runs (c :: cs) = [] :: runs cs from runs_divided [] cs hc] at hrun
      rcases List.mem_cons.mp hrun with rfl | hrun
      · cases hd
      · exact List.mem_cons_of_mem _ (ih hrun hd)
    | true =>
      obtain ⟨first, rest, hruns⟩ := exists_runs cs
      rw [runs_cons cs hc, hruns, List.modifyHead_cons] at hrun
      rw [hruns] at ih
      rcases List.mem_cons.mp hrun with rfl | hrun
      · rcases List.mem_cons.mp hd with rfl | hd
        · exact List.mem_cons_self
        · exact List.mem_cons_of_mem _ (ih List.mem_cons_self hd)
      · exact List.mem_cons_of_mem _ (ih (List.mem_cons_of_mem _ hrun) hd)

/-- The last run of a text goes on with the first run of the next text. -/
theorem runs_append (cs ds : List Char) : ∃ front last first rest,
    runs cs = front ++ [last] ∧ runs ds = first :: rest ∧
      runs (cs ++ ds) = front ++ (last ++ first) :: rest := by
  obtain ⟨first, rest, hds⟩ := exists_runs ds
  induction cs with
  | nil => exact ⟨[], [], first, rest, rfl, hds, hds⟩
  | cons c cs ih =>
    obtain ⟨front, last, _, _, hcs, hds', happend⟩ := ih
    cases hds.symm.trans hds'
    cases hc : isWordChar c with
    | false =>
      refine ⟨[] :: front, last, first, rest, ?_, hds, ?_⟩
      · rw [List.cons_append, ← hcs]
        exact runs_divided [] cs hc
      · rw [List.cons_append, List.cons_append, ← happend]
        exact runs_divided [] (cs ++ ds) hc
    | true =>
      -- the character goes in front of the first run, which may be the last one as well
      rw [List.cons_append, runs_cons cs hc, runs_cons (cs ++ ds) hc, hcs, happend]
      cases front with
      | nil => exact ⟨[], c :: last, first, rest, rfl, hds, rfl⟩
      | cons run front => exact ⟨(c :: run) :: front, last, first, rest, rfl, hds, rfl⟩

/-- A character outside words divides the words. -/
theorem words_divided (cs ds : List Char) {c : Char} (h : isWordChar c = false) :
    words (cs ++ c :: ds) = words cs ++ words ds := by
  rw [words, runs_divided cs ds h, List.filter_append, List.map_append]
  rfl

/-! ## Texts without variables -/

/-- A beginning of a word that no variable has. The helper columns begin like variables, and have
an `r` next. -/
def Unled (run : List Char) : Prop := run.head? = some '_' → run[1]? = some 'r'

instance (run : List Char) : Decidable (Unled run) := by
  unfold Unled
  infer_instance

theorem Unled.append {run more : List Char} (h : Unled run) (h' : Unled more) :
    Unled (run ++ more) := by
  cases run with
  | nil => exact h'
  | cons c cs =>
    intro hc
    have hnext := h hc
    -- the second character is there, so what follows does not matter
    obtain ⟨d, ds, rfl⟩ : ∃ d ds, cs = d :: ds := by
      cases cs with
      | nil => cases hnext
      | cons d ds => exact ⟨d, ds, rfl⟩
    exact hnext

theorem isVariable_of_unled {run : List Char} (h : Unled run) :
    isVariable (String.ofList run) = false := by
  unfold isVariable
  rw [String.toList_ofList]
  split
  · exact absurd (h rfl) (by simp)
  · exact absurd (h rfl) (by simp)
  · rfl

/-- A text that starts and ends outside quotes and begins no variable outside them. -/
structure Quiet (s : String) : Prop where
  closed : outside.after s.toList = .outside
  unled : ∀ run ∈ runs (outside.bare s.toList), Unled run

instance (s : String) : Decidable (Quiet s) :=
  decidable_of_iff
    (outside.after s.toList = .outside ∧ ∀ run ∈ runs (outside.bare s.toList), Unled run)
    ⟨fun ⟨h₁, h₂⟩ => ⟨h₁, h₂⟩, fun ⟨h₁, h₂⟩ => ⟨h₁, h₂⟩⟩

theorem after_append {s t : String} (hs : outside.after s.toList = .outside)
    (ht : outside.after t.toList = .outside) : outside.after (s ++ t).toList = .outside := by
  rw [String.toList_append, Quotation.after_append, hs, ht]

theorem bare_append {s : String} (h : outside.after s.toList = .outside) (t : String) :
    outside.bare (s ++ t).toList = outside.bare s.toList ++ outside.bare t.toList := by
  rw [String.toList_append, Quotation.bare_append, h]

namespace Quiet

variable {s t : String}

theorem append (hs : Quiet s) (ht : Quiet t) : Quiet (s ++ t) := by
  obtain ⟨front, last, first, rest, hleft, hright, hboth⟩ :=
    runs_append (outside.bare s.toList) (outside.bare t.toList)
  have hleftUnled := hs.unled
  have hrightUnled := ht.unled
  rw [hleft, List.forall_mem_append, List.forall_mem_singleton] at hleftUnled
  rw [hright, List.forall_mem_cons] at hrightUnled
  constructor
  · exact after_append hs.closed ht.closed
  · -- the only new run is the last one of `s` with the first one of `t` behind it
    rw [bare_append hs.closed, hboth, List.forall_mem_append, List.forall_mem_cons]
    exact ⟨hleftUnled.1, hleftUnled.2.append hrightUnled.1, hrightUnled.2⟩

/-- Quiet texts with a quiet separator between them. -/
theorem join {separator : String} {parts : List String} (hseparator : Quiet separator)
    (h : ∀ part ∈ parts, Quiet part) : Quiet (Text.join separator parts) := by
  induction parts with
  | nil => exact (by decide : Quiet "")
  | cons part parts ih =>
    obtain ⟨hpart, hparts⟩ := List.forall_mem_cons.mp h
    cases parts with
    | nil => exact hpart
    | cons next parts => exact (hpart.append hseparator).append (ih hparts)

/-- The texts of a list with a quiet separator between them. -/
theorem list {α : Type} {separator : String} {text : α → String} {items : List α}
    (hseparator : Quiet separator) (h : ∀ item ∈ items, Quiet (text item)) :
    Quiet (Text.join separator (items.map text)) := by
  refine join hseparator fun part hpart => ?_
  obtain ⟨item, hitem, rfl⟩ := List.mem_map.mp hpart
  exact h item hitem

/-- A quiet text in the brackets of a call. -/
theorem call {opening : String} (h : Quiet s) (hopening : Quiet opening) :
    Quiet (opening ++ s ++ ")") := (hopening.append h).append (by decide)

theorem of_bare (hclosed : outside.after s.toList = .outside)
    (hbare : outside.bare s.toList = outside.bare t.toList) (h : Quiet t) : Quiet s := by
  refine ⟨hclosed, ?_⟩
  rw [hbare]
  exact h.unled

end Quiet

theorem quiet_identifier (name : String) : Quiet (identifier name) :=
  .of_bare (t := "[]") (outside_identifier name).1 (outside_identifier name).2 (by decide)

theorem quiet_textLiteral (text : String) : Quiet (textLiteral text) :=
  .of_bare (t := "") (outside_textLiteral text).1 (outside_textLiteral text).2 (by decide)

/-- A text of characters that neither quote nor begin a variable. -/
theorem quiet_of_kind (kind : Char → Bool) (hkind : ['"', '\'', '_'].any kind = false) {s : String}
    (h : ∀ c ∈ s.toList, kind c = true) : Quiet s := by
  have hother {c d : Char} (hc : c ∈ s.toList) (hd : kind d = false) : c ≠ d := by
    rintro rfl
    rw [h c hc] at hd
    cases hd
  simp only [List.any_cons, List.any_nil, Bool.or_false, Bool.or_eq_false_iff] at hkind
  obtain ⟨hafter, hbare⟩ := outside_of_no_quote fun c hc =>
    not_or.mpr ⟨hother hc hkind.1, hother hc hkind.2.1⟩
  refine ⟨hafter, fun run hrun hhead => ?_⟩
  rw [hbare] at hrun
  have hmem : '_' ∈ s.toList := mem_of_mem_runs hrun (List.mem_of_head? hhead)
  exact absurd rfl (hother hmem hkind.2.2)

/-! ## Numbers, points in time and conditions -/

theorem quiet_naturalText (n : Nat) : Quiet (Text.naturalText n) := by
  refine quiet_of_kind Text.isDigit (by decide) fun c hc => ?_
  rw [Text.toList_naturalText] at hc
  exact Text.isDigit_of_mem_decimal c hc

theorem quiet_integerText (n : Int) : Quiet (Text.integerText n) := by
  unfold Text.integerText
  split_ifs with hneg
  · exact Quiet.append (by decide) (quiet_naturalText n.natAbs)
  · exact quiet_naturalText n.natAbs

theorem quiet_numberText (n : Number) : Quiet n.text := by
  refine quiet_of_kind Decimal.isNumberChar (by decide) fun c hc => ?_
  rw [Number.text, String.toList_ofList] at hc
  exact n.chars_isNumberChar c hc

theorem quiet_plainText (x : Binary64) : Quiet (Decimal.plainText x) :=
  quiet_of_kind Decimal.isNumberChar (by decide) fun _ hc => isNumberChar_of_mem_plainText hc

theorem quiet_span (span : Span) : Quiet span.text := by
  refine (quiet_integerText span.count).append ?_
  cases span.unit <;> decide

/-- A point in time is quiet where the text that it is computed from is. -/
theorem Moment.quiet_text {m : Moment} (h : ∀ s ∈ m.sourceText?, Quiet s) : Quiet m.text := by
  have hcomma : Quiet ", " := by decide
  induction m with
  | source text => exact h text rfl
  | literal text => exact (quiet_textLiteral text).call (by decide)
  | now => exact (by decide : Quiet "now()")
  | since span => exact (quiet_span span).call (by decide)
  | after span => exact (quiet_span span).call (by decide)
  | add unit count base ih =>
    have hunit : Quiet ("datetime_add('" ++ unit.name ++ "', ") := by
      cases unit <;> decide
    exact (((hunit.append (quiet_integerText count)).append hcomma).append (ih h)).append
      (by decide)
  | startOfYear base ih => exact (ih h).call (by decide)
  | startOfMonth base ih => exact (ih h).call (by decide)
  | startOfDay base ih => exact (ih h).call (by decide)
  | startOfQuarter base ih =>
    have hopening : Quiet "datetime_add('month', -((getmonth(" := by decide
    have hmiddle : Quiet ") - 1) % 3), startofmonth(" := by decide
    exact (((hopening.append (ih h)).append hmiddle).append (ih h)).append (by decide)
  | bin base span ih =>
    have hopening : Quiet "bin(" := by decide
    exact (((hopening.append (ih h)).append hcomma).append (quiet_span span)).append (by decide)
  | justBefore base ih => exact (ih h).append (by decide)

theorem Literal.quiet_chars {l : Literal} (h : l.isStepwise = true) : Quiet l.chars := by
  cases l with
  | text s => exact quiet_textLiteral s
  | number n => exact quiet_numberText n
  | real x => exact quiet_plainText x
  | bool b => cases b <;> decide
  | moment m =>
    refine Moment.quiet_text ?_
    rw [Moment.sourceText?_of_isStepwise h]
    exact fun s hs => nomatch hs
  | epoch unit n =>
    have hopening : Quiet (unit.function ++ "(") := by
      cases unit <;> decide
    exact (quiet_numberText n).call hopening

theorem Target.quiet_text (target : Target) : Quiet target.text := by
  cases target with
  | column name => exact quiet_identifier name
  | anyColumn => exact (by decide : Quiet "*")

namespace Predicate

theorem quiet_test (target : Target) (comparison : Comparison) {literal : Literal}
    (h : literal.isStepwise = true) :
    Quiet (Predicate.test target comparison literal).text := by
  have hcomparison : Quiet comparison.text := by
    cases comparison <;> decide
  have hblank : Quiet " " := by decide
  rw [text]
  exact (((target.quiet_text.append hblank).append hcomparison).append hblank).append
    (Literal.quiet_chars h)

theorem quiet_joinTexts (connective : Connective) {parts : List String}
    (h : ∀ part ∈ parts, Quiet part) : Quiet (joinTexts connective.word parts) := by
  have hword : Quiet (" " ++ connective.word ++ " ") := by
    cases connective <;> decide
  unfold joinTexts
  split
  · exact h _ List.mem_cons_self
  · exact .list hword fun part hpart => (h part hpart).call (by decide)

/-- A condition reads columns and no variables. -/
theorem quiet_text {p : Predicate} (h : p.Readable) : Quiet p.text := by
  induction h with
  | constant b =>
    rw [text]
    cases b <;> decide
  | test target comparison hliteral => exact quiet_test target comparison hliteral
  | @oneOf column literals _ hliterals =>
    have hopening : Quiet " in (" := by decide
    have hlist : Quiet (Text.join ", " (literals.map Literal.chars)) :=
      .list (by decide) fun l hl => Literal.quiet_chars (hliterals l hl)
    rw [text]
    exact (((quiet_identifier column).append hopening).append hlist).append (by decide)
  | notEmpty column =>
    rw [text]
    exact (quiet_identifier column).call (by decide)
  | between target target' comparison comparison' hlower hupper =>
    have hand : Quiet " and " := by decide
    rw [text]
    exact ((quiet_test target comparison hlower).append hand).append
      (quiet_test target' comparison' hupper)
  | @join connective parts _ _ ih =>
    rw [text, texts_eq_map]
    refine quiet_joinTexts connective fun part hpart => ?_
    obtain ⟨p, hp, rfl⟩ := List.mem_map.mp hpart
    exact ih p hp
  | @atLeast count parts _ _ ih =>
    have hplus : Quiet " + " := by decide
    have hcomparison : Quiet " >= " := by decide
    rw [text, texts_eq_map]
    refine ((Quiet.list hplus fun part hpart => ?_).append hcomparison).append
      (quiet_naturalText count)
    obtain ⟨p, hp, rfl⟩ := List.mem_map.mp hpart
    exact (ih p hp).call (by decide)
  | negation _ ih =>
    rw [text]
    exact ih.call (by decide)

end Predicate

end KustoSearch.Kql
