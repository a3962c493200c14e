import KustoSearch.Proofs.Kql.Clauses

/-! # What a statement mentions

A text mentions names, in brackets, and timespans, as words outside quotes. `Mentions` tells two
things of a text by what it mentions: its line breaks are those of the names and no others, and its
timespans are all there are. Both are known of a text that is put together when they are known of
its parts and no word goes on from one part to the next, so the parts are kept apart by texts that
touch no word (`Leads`, `Trails`, `Divides`) and mention nothing.
-/

namespace KustoSearch.Kql

open Quotation (outside outside_of_no_quote)

/-! ## Lines -/

/-- Whether a character ends a line. -/
def isBreak (c : Char) : Bool := c = '\n' || c = '\r'

/-- The number of line breaks in a text. -/
def breaks (s : String) : Nat := s.toList.countP isBreak

/-- The lines of a text. -/
def lines (s : String) : List String := (s.toList.splitOnP isBreak).map String.ofList

theorem breaks_append (s t : String) : breaks (s ++ t) = breaks s + breaks t := by
  rw [breaks, String.toList_append, List.countP_append]
  rfl

theorem breaks_eq_zero {s : String} : breaks s = 0 ↔ ∀ c ∈ s.toList, isBreak c = false := by
  rw [breaks, List.countP_eq_zero]
  simp only [Bool.not_eq_true]

theorem length_splitOnP (cs : List Char) :
    (cs.splitOnP isBreak).length = cs.countP isBreak + 1 := by
  induction cs with
  | nil => rfl
  | cons c cs ih =>
    rw [List.splitOnP_cons_eq_if_modifyHead]
    by_cases hc : isBreak c = true
    · rw [if_pos hc, List.length_cons, ih, List.countP_cons_of_pos hc]
    · rw [if_neg hc, List.length_modifyHead, ih, List.countP_cons_of_neg hc]

theorem length_lines (s : String) : (lines s).length = breaks s + 1 := by
  rw [lines, List.length_map, length_splitOnP]
  rfl

/-- Between texts the line breaks of the separator come once less than there are texts. -/
theorem breaks_join (separator : String) (parts : List String) :
    breaks (Text.join separator parts) =
      (parts.map breaks).sum + (parts.length - 1) * breaks separator := by
  induction parts with
  | nil => simp [Text.join, breaks]
  | cons part parts ih =>
    cases parts with
    | nil => simp [Text.join]
    | cons next parts =>
      rw [Text.join, breaks_append, breaks_append, ih]
      simp only [List.map_cons, List.sum_cons, List.length_cons, Nat.add_sub_cancel, Nat.succ_mul]
      omega

/-- Texts without line breaks, each on a line of its own, are the lines. -/
theorem lines_join {parts : List String} (hne : parts ≠ []) (h : ∀ part ∈ parts, breaks part = 0) :
    lines (Text.join "\n" parts) = parts := by
  induction parts with
  | nil => exact absurd rfl hne
  | cons part parts ih =>
    obtain ⟨hpart, hparts⟩ := List.forall_mem_cons.mp h
    have hwhole : part.toList.splitOnP isBreak = [part.toList] :=
      List.splitOnP_eq_singleton (breaks_eq_zero.mp hpart)
    cases parts with
    | nil => rw [Text.join, lines, hwhole, List.map_singleton, String.ofList_toList]
    | cons next parts =>
      have htext : (part ++ "\n" ++ Text.join "\n" (next :: parts)).toList =
          part.toList ++ '\n' :: (Text.join "\n" (next :: parts)).toList := by
        simp
      -- the first line break is the one behind the first text
      rw [Text.join, lines, htext, List.splitOnP_append_cons _ _ rfl, hwhole, List.map_append,
        List.map_singleton, String.ofList_toList]
      exact congrArg (part :: ·) (ih (List.cons_ne_nil _ _) hparts)

/-- Texts with a semicolon behind each but the last. -/
def terminated : List String → List String
  | [] => []
  | [part] => [part]
  | part :: next :: parts => (part ++ ";") :: terminated (next :: parts)

theorem join_terminated (parts : List String) :
    Text.join "\n" (terminated parts) = Text.join ";\n" parts := by
  induction parts with
  | nil => rfl
  | cons part parts ih =>
    cases parts with
    | nil => rfl
    | cons next parts =>
      obtain ⟨first, rest, hrest⟩ : ∃ first rest, terminated (next :: parts) = first :: rest := by
        cases parts <;> exact ⟨_, _, rfl⟩
      have hend : part ++ ";" ++ "\n" = part ++ ";\n" := String.append_assoc
      rw [terminated, hrest, Text.join, ← hrest, ih, Text.join, hend]

theorem forall_terminated {p : String → Prop} {parts : List String}
    (hend : ∀ part, p part → p (part ++ ";")) (h : ∀ part ∈ parts, p part) :
    ∀ part ∈ terminated parts, p part := by
  induction parts with
  | nil => exact List.forall_mem_nil _
  | cons part parts ih =>
    obtain ⟨hpart, hparts⟩ := List.forall_mem_cons.mp h
    cases parts with
    | nil => exact h
    | cons next parts => exact List.forall_mem_cons.mpr ⟨hend part hpart, ih hparts⟩

/-! ## Timespans -/

/-- The unit that a mark stands for. -/
def SpanUnit.ofMark? (mark : List Char) : Option SpanUnit :=
  SpanUnit.all.find? fun unit => unit.mark.toList = mark

/-- The length in milliseconds of a word that is a timespan: a number with a unit behind. -/
def spanOf? (word : String) : Option Nat :=
  match Text.natural? (word.toList.takeWhile Text.isDigit),
    SpanUnit.ofMark? (word.toList.dropWhile Text.isDigit) with
  | some count, some unit => some (count * unit.millis)
  | _, _ => none

/-- The lengths of the timespans that stand outside the quotes of a text. -/
def spansIn (s : String) : List Nat := (bareWords s).filterMap spanOf?

theorem SpanUnit.exists_letter_mem_mark (unit : SpanUnit) :
    ∃ c ∈ unit.mark.toList, c ∈ ['d', 'h', 'm', 's'] := by
  cases unit with
  | day => exact ⟨'d', by decide, by decide⟩
  | hour => exact ⟨'h', by decide, by decide⟩
  | minute => exact ⟨'m', by decide, by decide⟩
  | second => exact ⟨'s', by decide, by decide⟩
  | milli => exact ⟨'m', by decide, by decide⟩

theorem SpanUnit.star_not_mem_mark (unit : SpanUnit) : '*' ∉ unit.mark.toList := by
  cases unit <;> decide

/-- A timespan ends with the mark of a unit. -/
theorem exists_mark_of_spanOf? {word : String} {millis : Nat} (h : spanOf? word = some millis) :
    ∃ unit : SpanUnit, word.toList.dropWhile Text.isDigit = unit.mark.toList := by
  unfold spanOf? at h
  split at h
  · next unit _ hunit =>
    have hfound := List.find?_some hunit
    exact ⟨unit, (of_decide_eq_true hfound).symm⟩
  · cases h

theorem spanOf?_eq_none {word : String} (h : ∀ c ∈ ['d', 'h', 'm', 's'], c ∉ word.toList) :
    spanOf? word = none := by
  cases hspan : spanOf? word with
  | none => rfl
  | some millis =>
    obtain ⟨unit, hmark⟩ := exists_mark_of_spanOf? hspan
    obtain ⟨c, hc, hletter⟩ := unit.exists_letter_mem_mark
    rw [← hmark] at hc
    exact absurd ((List.dropWhile_suffix _).subset hc) (h c hletter)

/-- A word with a star is a pattern and no timespan. -/
theorem spanOf?_of_star {word : String} (h : '*' ∈ word.toList) : spanOf? word = none := by
  cases hspan : spanOf? word with
  | none => rfl
  | some millis =>
    obtain ⟨unit, hmark⟩ := exists_mark_of_spanOf? hspan
    -- the star is neither among the digits nor in the mark behind them
    rw [← List.takeWhile_append_dropWhile (p := Text.isDigit) (l := word.toList), hmark] at h
    rcases List.mem_append.mp h with h | h
    · exact absurd (List.all_eq_true.mp List.all_takeWhile _ h) (by decide)
    · exact absurd h unit.star_not_mem_mark

/-- A number with a unit behind it is read as its length. -/
theorem spanOf?_counted (count : Nat) (unit : SpanUnit) :
    spanOf? (Text.naturalText count ++ unit.mark) = some (count * unit.millis) := by
  have htext : (Text.naturalText count ++ unit.mark).toList =
      Text.decimal count ++ unit.mark.toList := by
    simp
  have hmark : ∀ c ∈ unit.mark.toList.head?, Text.isDigit c = false := by
    intro c hc
    cases unit <;> cases hc <;> rfl
  obtain ⟨htake, hdrop⟩ := Text.takeWhile_append_of_head Text.isDigit_of_mem_decimal hmark
  have hunit : SpanUnit.ofMark? unit.mark.toList = some unit := by
    cases unit <;> decide
  rw [spanOf?, htext, htake, hdrop, Text.natural?_decimal, hunit]

/-! ## Texts that keep words apart -/

/-- A text that touches no word before it. -/
structure Trails (d : String) : Prop where
  closed : outside.after d.toList = .outside
  first : (outside.bare d.toList).head?.all isWordChar = false

instance (d : String) : Decidable (Trails d) :=
  decidable_of_iff
    (outside.after d.toList = .outside ∧
      (outside.bare d.toList).head?.all isWordChar = false)
    ⟨fun ⟨h₁, h₂⟩ => ⟨h₁, h₂⟩, fun ⟨h₁, h₂⟩ => ⟨h₁, h₂⟩⟩

theorem bareWords_trail {s d : String} (hs : outside.after s.toList = .outside) (hd : Trails d) :
    bareWords (s ++ d) = bareWords s ++ bareWords d := by
  obtain ⟨c, cs, hcs⟩ : ∃ c cs, outside.bare d.toList = c :: cs := by
    cases hbare : outside.bare d.toList with
    | nil => exact absurd hd.first (by simp [hbare])
    | cons c cs => exact ⟨c, cs, rfl⟩
  have hc : isWordChar c = false := by
    simpa [hcs] using hd.first
  have hfirst : words (c :: cs) = words cs := words_divided [] cs hc
  rw [bareWords, bareWords, bareWords, bare_append hs, hcs, words_divided _ _ hc, hfirst]

theorem spansIn_lead {d : String} (hd : Leads d) (t : String) :
    spansIn (d ++ t) = spansIn d ++ spansIn t := by
  rw [spansIn, bareWords_lead hd, List.filterMap_append]
  rfl

theorem spansIn_trail {s d : String} (hs : outside.after s.toList = .outside) (hd : Trails d) :
    spansIn (s ++ d) = spansIn s ++ spansIn d := by
  rw [spansIn, bareWords_trail hs hd, List.filterMap_append]
  rfl

theorem spansIn_divided {s d : String} (hs : outside.after s.toList = .outside) (hd : Divides d)
    (t : String) : spansIn (s ++ d ++ t) = spansIn s ++ (spansIn d ++ spansIn t) := by
  rw [spansIn, bareWords_divided hs hd, List.filterMap_append, List.filterMap_append]
  rfl

/-- Texts with a separator between them, which has no timespan itself. -/
theorem spansIn_join {d : String} {parts : List String} (hd : Divides d) (hnone : spansIn d = [])
    (h : ∀ part ∈ parts, outside.after part.toList = .outside) :
    spansIn (Text.join d parts) = parts.flatMap spansIn := by
  induction parts with
  | nil => exact (by decide : spansIn "" = [])
  | cons part parts ih =>
    obtain ⟨hpart, hparts⟩ := List.forall_mem_cons.mp h
    cases parts with
    | nil => simp [Text.join]
    | cons next parts =>
      rw [Text.join, spansIn_divided hpart hd, hnone, ih hparts]
      rfl

/-! ## Mentions -/

/-- A text that starts and ends outside quotes, has the line breaks of some names and no others, and
the timespans of some lengths and no others. -/
structure Mentions (s : String) (names : List String) (spans : List Nat) : Prop where
  closed : outside.after s.toList = .outside
  breaks_eq : breaks s = (names.map breaks).sum
  spans_eq : spansIn s = spans

/-- A text that mentions nothing. -/
abbrev Silent (s : String) : Prop := Mentions s [] []

instance (s : String) (names : List String) (spans : List Nat) :
    Decidable (Mentions s names spans) :=
  decidable_of_iff
    (outside.after s.toList = .outside ∧ breaks s = (names.map breaks).sum ∧ spansIn s = spans)
    ⟨fun ⟨h₁, h₂, h₃⟩ => ⟨h₁, h₂, h₃⟩, fun ⟨h₁, h₂, h₃⟩ => ⟨h₁, h₂, h₃⟩⟩

namespace Mentions

variable {s t d : String} {names more : List String} {spans others : List Nat}

/-- A text behind one that touches no word. -/
theorem lead (ht : Mentions t names spans) (hd : Leads d ∧ Silent d) :
    Mentions (d ++ t) names spans := by
  obtain ⟨hleads, hsilent⟩ := hd
  constructor
  · exact after_append hsilent.closed ht.closed
  · rw [breaks_append, hsilent.breaks_eq, ht.breaks_eq]
    exact Nat.zero_add _
  · rw [spansIn_lead hleads, hsilent.spans_eq, ht.spans_eq]
    rfl

/-- A text with one behind it that touches no word. -/
theorem trail (hs : Mentions s names spans) {later : List Nat}
    (hd : Trails d ∧ Mentions d [] later) : Mentions (s ++ d) names (spans ++ later) := by
  obtain ⟨htrails, hlater⟩ := hd
  constructor
  · exact after_append hs.closed hlater.closed
  · rw [breaks_append, hs.breaks_eq, hlater.breaks_eq]
    rfl
  · rw [spansIn_trail hs.closed htrails, hs.spans_eq, hlater.spans_eq]

/-- Two texts with one between them that touches no word. -/
theorem divide (hs : Mentions s names spans) (hd : Divides d ∧ Silent d)
    (ht : Mentions t more others) : Mentions (s ++ d ++ t) (names ++ more) (spans ++ others) := by
  obtain ⟨hdivides, hsilent⟩ := hd
  constructor
  · exact after_append (after_append hs.closed hsilent.closed) ht.closed
  · rw [breaks_append, breaks_append, hs.breaks_eq, hsilent.breaks_eq, ht.breaks_eq,
      List.map_append, List.sum_append]
    rfl
  · rw [spansIn_divided hs.closed hdivides, hs.spans_eq, hsilent.spans_eq, ht.spans_eq]
    rfl

theorem finish (hs : Mentions s names spans) (hd : Trails d ∧ Silent d) :
    Mentions (s ++ d) names spans := by
  have hfinished : Mentions (s ++ d) names (spans ++ []) := hs.trail hd
  rwa [List.append_nil] at hfinished

theorem close (hs : Mentions s names spans) : Mentions (s ++ ")") names spans :=
  hs.finish (by decide)

/-- A text in the brackets of a call. -/
theorem call {opening : String} (hs : Mentions s names spans)
    (hopening : Leads opening ∧ Silent opening) : Mentions (opening ++ s ++ ")") names spans :=
  (hs.lead hopening).close

end Mentions

/-- Texts, with what they mention one after another. -/
inductive AllMention : List String → List String → List Nat → Prop where
  | nil : AllMention [] [] []
  | cons {s : String} {parts names more : List String} {spans others : List Nat}
      (hfirst : Mentions s names spans) (hrest : AllMention parts more others) :
      AllMention (s :: parts) (names ++ more) (spans ++ others)

namespace AllMention

theorem map {α : Type} {text : α → String} {names : α → List String} {spans : α → List Nat}
    {items : List α} (h : ∀ item ∈ items, Mentions (text item) (names item) (spans item)) :
    AllMention (items.map text) (items.flatMap names) (items.flatMap spans) := by
  induction items with
  | nil => exact .nil
  | cons item items ih =>
    obtain ⟨hitem, hitems⟩ := List.forall_mem_cons.mp h
    exact .cons hitem (ih hitems)

/-- Texts without timespans have none together. -/
theorem map_untimed {α : Type} {text : α → String} {names : α → List String} {items : List α}
    (h : ∀ item ∈ items, Mentions (text item) (names item) []) :
    AllMention (items.map text) (items.flatMap names) [] := by
  have hall : AllMention (items.map text) (items.flatMap names) (items.flatMap fun _ => []) :=
    .map h
  have hnone : (items.flatMap fun _ => ([] : List Nat)) = [] := by simp
  rwa [hnone] at hall

/-- Texts with a silent separator between them. -/
theorem join {separator : String} {parts names : List String} {spans : List Nat}
    (h : AllMention parts names spans) (hseparator : Divides separator ∧ Silent separator) :
    Mentions (Text.join separator parts) names spans := by
  induction h with
  | nil => exact (by decide : Silent "")
  | cons hfirst hrest ih =>
    cases hrest with
    | nil =>
      rw [List.append_nil, List.append_nil]
      exact hfirst
    | cons hnext hrest => exact hfirst.divide hseparator ih

theorem closed {parts names : List String} {spans : List Nat} (h : AllMention parts names spans) :
    ∀ part ∈ parts, outside.after part.toList = .outside := by
  induction h with
  | nil => exact List.forall_mem_nil _
  | cons hfirst _ ih => exact List.forall_mem_cons.mpr ⟨hfirst.closed, ih⟩

theorem breaks_eq {parts names : List String} {spans : List Nat}
    (h : AllMention parts names spans) : (parts.map breaks).sum = (names.map breaks).sum := by
  induction h with
  | nil => rfl
  | cons hfirst _ ih =>
    rw [List.map_cons, List.sum_cons, hfirst.breaks_eq, ih, List.map_append, List.sum_append]

theorem spans_eq {parts names : List String} {spans : List Nat}
    (h : AllMention parts names spans) : parts.flatMap spansIn = spans := by
  induction h with
  | nil => rfl
  | cons hfirst _ ih => rw [List.flatMap_cons, hfirst.spans_eq, ih]

theorem append {parts next names more : List String} {spans others : List Nat}
    (h : AllMention parts names spans) (hnext : AllMention next more others) :
    AllMention (parts ++ next) (names ++ more) (spans ++ others) := by
  induction h with
  | nil => exact hnext
  | cons hfirst _ ih =>
    rw [List.cons_append, List.append_assoc, List.append_assoc]
    exact .cons hfirst ih

end AllMention

/-- The texts of a list with a silent separator between them. -/
theorem Mentions.list {α : Type} {separator : String} {text : α → String}
    {names : α → List String} {spans : α → List Nat} {items : List α}
    (hseparator : Divides separator ∧ Silent separator)
    (h : ∀ item ∈ items, Mentions (text item) (names item) (spans item)) :
    Mentions (Text.join separator (items.map text)) (items.flatMap names) (items.flatMap spans) :=
  (AllMention.map h).join hseparator

/-! ## Quoted names and texts -/

theorem countP_identifierChar (c : Char) :
    (identifierChar c).countP isBreak = [c].countP isBreak := by
  unfold identifierChar
  split_ifs with hslash hquote
  · subst hslash
    decide
  · subst hquote
    decide
  · rfl

/-- A name in brackets keeps its line breaks. -/
theorem mentions_identifier (name : String) : Mentions (identifier name) [name] [] := by
  obtain ⟨hclosed, hbare⟩ := outside_identifier name
  constructor
  · exact hclosed
  · have hname : (name.toList.flatMap identifierChar).countP isBreak =
        name.toList.countP isBreak := by
      induction name.toList with
      | nil => rfl
      | cons c cs ih =>
        rw [List.flatMap_cons, List.countP_append, ih, countP_identifierChar,
          ← List.countP_append]
        rfl
    have hopening : breaks "['" = 0 ∧ breaks "']" = 0 := by decide
    rw [identifier, breaks_append, breaks_append, hopening.1, hopening.2, breaks,
      String.toList_ofList, hname]
    simp [breaks]
  · rw [spansIn, bareWords, hbare]
    decide

theorem countP_literalChar (c : Char) : (literalChar c).countP isBreak = 0 := by
  unfold literalChar
  split_ifs with _ _ hfeed hreturn
  · decide
  · decide
  · decide
  · decide
  · decide
  · -- neither of the characters that end lines
    rw [List.countP_singleton, if_neg (by simp [isBreak, hfeed, hreturn])]

/-- A text literal has no line breaks, whatever text it is of. -/
theorem silent_textLiteral (text : String) : Silent (textLiteral text) := by
  obtain ⟨hclosed, hbare⟩ := outside_textLiteral text
  constructor
  · exact hclosed
  · have htext : (text.toList.flatMap literalChar).countP isBreak = 0 := by
      rw [List.countP_flatMap, List.sum_eq_zero_iff_forall_eq_nat]
      intro n hn
      obtain ⟨c, _, rfl⟩ := List.mem_map.mp hn
      exact countP_literalChar c
    have hquote : breaks "\"" = 0 := by decide
    rw [textLiteral, breaks_append, breaks_append, hquote, breaks, String.toList_ofList, htext]
    rfl
  · rw [spansIn, bareWords, hbare]
    decide

/-! ## Numbers and spans -/

/-- A text of characters that neither quote nor break lines and are in no mark of a unit. -/
theorem silent_of_kind (kind : Char → Bool)
    (hkind : ['"', '\'', '\n', '\r', 'd', 'h', 'm', 's'].any kind = false) {s : String}
    (h : ∀ c ∈ s.toList, kind c = true) : Silent s := by
  have hother {c : Char} (hc : c ∈ ['"', '\'', '\n', '\r', 'd', 'h', 'm', 's']) :
      c ∉ s.toList := fun hmem => List.any_eq_false.mp hkind c hc (h c hmem)
  have hquote : ∀ c ∈ s.toList, ¬(c = '"' ∨ c = '\'') := by
    rintro c hc (rfl | rfl)
    · exact hother (by decide) hc
    · exact hother (by decide) hc
  obtain ⟨hafter, hbare⟩ := outside_of_no_quote hquote
  constructor
  · exact hafter
  · refine breaks_eq_zero.mpr fun c hc => ?_
    have hfeed : c ≠ '\n' := by
      rintro rfl
      exact hother (by decide) hc
    have hreturn : c ≠ '\r' := by
      rintro rfl
      exact hother (by decide) hc
    simp [isBreak, hfeed, hreturn]
  · rw [spansIn, List.filterMap_eq_nil_iff]
    intro word hword
    obtain ⟨run, hrun, rfl⟩ := List.mem_map.mp hword
    refine spanOf?_eq_none fun c hc hmem => ?_
    rw [String.toList_ofList] at hmem
    have hs := mem_of_mem_runs (List.mem_of_mem_filter hrun) hmem
    rw [hbare] at hs
    refine hother ?_ hs
    exact List.mem_of_mem_drop (i := 4) hc

theorem silent_naturalText (n : Nat) : Silent (Text.naturalText n) := by
  refine silent_of_kind Text.isDigit (by decide) fun c hc => ?_
  rw [Text.toList_naturalText] at hc
  exact Text.isDigit_of_mem_decimal c hc

theorem silent_integerText (n : Int) : Silent (Text.integerText n) := by
  unfold Text.integerText
  split_ifs with hneg
  · exact (silent_naturalText n.natAbs).lead (by decide)
  · exact silent_naturalText n.natAbs

theorem silent_numberText (n : Number) : Silent n.text := by
  refine silent_of_kind Decimal.isNumberChar (by decide) fun c hc => ?_
  rw [Number.text, String.toList_ofList] at hc
  exact n.chars_isNumberChar c hc

theorem silent_plainText (x : Binary64) : Silent (Decimal.plainText x) :=
  silent_of_kind Decimal.isNumberChar (by decide) fun _ hc => isNumberChar_of_mem_plainText hc

/-- A number with a unit behind it is one word. -/
theorem mentions_counted (count : Nat) (unit : SpanUnit) :
    Mentions (Text.naturalText count ++ unit.mark) [] [count * unit.millis] := by
  have hmark : unit.mark.toList.all isWordChar = true ∧ breaks unit.mark = 0 ∧
      outside.after unit.mark.toList = .outside := by
    cases unit <;> decide
  have hword : bareWords (Text.naturalText count ++ unit.mark) =
      [Text.naturalText count ++ unit.mark] := by
    apply bareWords_of_word
    · simp
    · intro c hc
      rw [String.toList_append, Text.toList_naturalText] at hc
      rcases List.mem_append.mp hc with hc | hc
      · exact isWordChar_of_isDigit (Text.isDigit_of_mem_decimal c hc)
      · exact List.all_eq_true.mp hmark.1 c hc
  constructor
  · exact after_append (silent_naturalText count).closed hmark.2.2
  · rw [breaks_append, (silent_naturalText count).breaks_eq, hmark.2.1, Nat.add_zero]
  · rw [spansIn, hword, List.filterMap_cons_some (spanOf?_counted count unit)]
    rfl

/-- A span mentions its own length; a sign in front is no part of the word. -/
theorem mentions_span (span : Span) : Mentions span.text [] [span.millis.natAbs] := by
  have hlength : span.millis.natAbs = span.count.natAbs * span.unit.millis := by
    rw [Span.millis, Int.natAbs_mul, Int.natAbs_natCast]
  rw [hlength, Span.text]
  unfold Text.integerText
  split_ifs with hneg
  · rw [String.append_assoc]
    exact (mentions_counted span.count.natAbs span.unit).lead (by decide)
  · exact mentions_counted span.count.natAbs span.unit

/-! ## Points in time -/

namespace Moment

/-- The names in the text of a point in time, which come with the text that it is computed from. -/
def names (source : List String) : Moment → List String
  | .source _ => source
  | .literal _ => []
  | .now => []
  | .since _ => []
  | .after _ => []
  | .add _ _ base => base.names source
  | .startOfYear base => base.names source
  | .startOfMonth base => base.names source
  | .startOfDay base => base.names source
  | .startOfQuarter base => base.names source ++ base.names source
  | .bin base _ => base.names source
  | .justBefore base => base.names source

/-- The lengths of the timespans of a point in time. -/
def spans : Moment → List Nat
  | .source _ => []
  | .literal _ => []
  | .now => []
  | .since span => [span.millis.natAbs]
  | .after span => [span.millis.natAbs]
  | .add _ _ base => base.spans
  | .startOfYear base => base.spans
  | .startOfMonth base => base.spans
  | .startOfDay base => base.spans
  | .startOfQuarter base => base.spans ++ base.spans
  | .bin base span => base.spans ++ [span.millis.natAbs]
  | .justBefore base => base.spans ++ [1]

theorem mentions_text {m : Moment} {source : List String}
    (h : ∀ s ∈ m.sourceText?, Mentions s source []) : Mentions m.text (m.names source) m.spans := by
  induction m with
  | source text => exact h text rfl
  | literal text => exact (silent_textLiteral text).call (by decide)
  | now => exact (by decide : Silent "now()")
  | since span => exact (mentions_span span).call (by decide)
  | after span => exact (mentions_span span).call (by decide)
  | add unit count base ih =>
    have hunit : Leads ("datetime_add('" ++ unit.name ++ "', ") ∧
        Silent ("datetime_add('" ++ unit.name ++ "', ") := by
      cases unit <;> decide
    exact (((silent_integerText count).lead hunit).divide (d := ", ") (by decide) (ih h)).close
  | startOfYear base ih => exact (ih h).call (by decide)
  | startOfMonth base ih => exact (ih h).call (by decide)
  | startOfDay base ih => exact (ih h).call (by decide)
  | startOfQuarter base ih =>
    -- the base is written twice
    have hfirst := (ih h).lead (d := "datetime_add('month', -((getmonth(") (by decide)
    have hboth := hfirst.divide (d := ") - 1) % 3), startofmonth(") (by decide) (ih h)
    exact hboth.finish (by decide)
  | bin base span ih =>
    have hbase := (ih h).lead (d := "bin(") (by decide)
    have hspan := hbase.divide (d := ", ") (by decide) (mentions_span span)
    rw [List.append_nil] at hspan
    exact hspan.close
  | justBefore base ih => exact (ih h).trail (by decide)

theorem names_of_isStepwise {m : Moment} (h : m.isStepwise = true) (source : List String) :
    m.names source = [] := by
  induction m with
  | source text => cases h
  | startOfQuarter base ih => cases h
  | add unit count base ih => exact ih h
  | startOfYear base ih => exact ih h
  | startOfMonth base ih => exact ih h
  | startOfDay base ih => exact ih h
  | bin base span ih => exact ih h
  | justBefore base ih => exact ih h
  | _ => rfl

end Moment

/-! ## Literals and conditions -/

/-- The lengths of the timespans of a literal. -/
def Literal.spans : Literal → List Nat
  | .moment m => m.spans
  | _ => []

theorem Literal.mentions_chars {l : Literal} (h : l.isStepwise = true) :
    Mentions l.chars [] l.spans := by
  cases l with
  | text s => exact silent_textLiteral s
  | number n => exact silent_numberText n
  | real x => exact silent_plainText x
  | bool b => cases b <;> decide
  | moment m =>
    have hnone : ∀ s ∈ m.sourceText?, Mentions s [] [] := by
      rw [Moment.sourceText?_of_isStepwise h]
      exact fun s hs => nomatch hs
    have htext := Moment.mentions_text hnone
    rw [Moment.names_of_isStepwise h] at htext
    exact htext
  | epoch unit n =>
    have hopening : Leads (unit.function ++ "(") ∧ Silent (unit.function ++ "(") := by
      cases unit <;> decide
    exact (silent_numberText n).call hopening

/-- The names in the text of a target. -/
def Target.names : Target → List String
  | .column name => [name]
  | .anyColumn => []

theorem Target.mentions_text (target : Target) : Mentions target.text target.names [] := by
  cases target with
  | column name => exact mentions_identifier name
  | anyColumn => exact (by decide : Silent "*")

namespace Predicate

mutual

/-- The names in the text of a condition. -/
def names : Predicate → List String
  | .constant _ => []
  | .test target _ _ => target.names
  | .oneOf column _ => [column]
  | .notEmpty column => [column]
  | .between lower upper => lower.names ++ upper.names
  | .join _ parts => namesOfAll parts
  | .atLeast _ parts => namesOfAll parts
  | .negation part => part.names

/-- The names in the texts of conditions. -/
def namesOfAll : List Predicate → List String
  | [] => []
  | part :: parts => part.names ++ namesOfAll parts

end

mutual

/-- The lengths of the timespans of a condition. -/
def spans : Predicate → List Nat
  | .constant _ => []
  | .test _ _ literal => literal.spans
  | .oneOf _ literals => literals.flatMap Literal.spans
  | .notEmpty _ => []
  | .between lower upper => lower.spans ++ upper.spans
  | .join _ parts => spansOfAll parts
  | .atLeast _ parts => spansOfAll parts
  | .negation part => part.spans

/-- The lengths of the timespans of conditions. -/
def spansOfAll : List Predicate → List Nat
  | [] => []
  | part :: parts => part.spans ++ spansOfAll parts

end

theorem namesOfAll_eq (parts : List Predicate) : namesOfAll parts = parts.flatMap names := by
  induction parts with
  | nil => rfl
  | cons part parts ih => rw [namesOfAll, ih, List.flatMap_cons]

theorem spansOfAll_eq (parts : List Predicate) : spansOfAll parts = parts.flatMap spans := by
  induction parts with
  | nil => rfl
  | cons part parts ih => rw [spansOfAll, ih, List.flatMap_cons]

theorem mentions_test (target : Target) (comparison : Comparison) {literal : Literal}
    (h : literal.isStepwise = true) :
    Mentions (Predicate.test target comparison literal).text target.names literal.spans := by
  have hcomparison : Divides (" " ++ comparison.text ++ " ") ∧
      Silent (" " ++ comparison.text ++ " ") := by
    cases comparison <;> decide
  have htest := target.mentions_text.divide hcomparison (Literal.mentions_chars h)
  rw [List.append_nil, List.nil_append] at htest
  rw [text]
  simpa only [String.append_assoc] using htest

theorem mentions_joinTexts (connective : Connective) {parts : List Predicate}
    (h : ∀ part ∈ parts, Mentions part.text part.names part.spans) :
    Mentions (joinTexts connective.word (parts.map text)) (parts.flatMap names)
      (parts.flatMap spans) := by
  have hword : Divides (" " ++ connective.word ++ " ") ∧
      Silent (" " ++ connective.word ++ " ") := by
    cases connective <;> decide
  have hparts : Mentions
      (Text.join (" " ++ connective.word ++ " ") ((parts.map text).map fun p => "(" ++ p ++ ")"))
      (parts.flatMap names) (parts.flatMap spans) := by
    rw [List.map_map]
    exact .list hword fun part hpart => (h part hpart).call (by decide)
  -- a part that is alone stands without parentheses
  cases parts with
  | nil => exact hparts
  | cons part parts =>
    cases parts with
    | nil => simpa [joinTexts] using h part List.mem_cons_self
    | cons next parts => exact hparts

/-- What a condition mentions, whatever values it is about. -/
theorem mentions_text {p : Predicate} (h : p.Readable) : Mentions p.text p.names p.spans := by
  induction h with
  | constant b =>
    rw [text, names, spans]
    cases b <;> decide
  | test target comparison hliteral =>
    rw [names, spans]
    exact mentions_test target comparison hliteral
  | @oneOf column literals _ hliterals =>
    have hlist : Mentions (Text.join ", " (literals.map Literal.chars))
        (literals.flatMap fun _ => []) (literals.flatMap Literal.spans) :=
      .list (by decide) fun l hl => Literal.mentions_chars (hliterals l hl)
    have hnone : (literals.flatMap fun _ => ([] : List String)) = [] := by simp
    rw [hnone] at hlist
    rw [text, names, spans]
    exact ((mentions_identifier column).divide (d := " in (") (by decide) hlist).close
  | notEmpty column =>
    rw [text, names, spans]
    exact (mentions_identifier column).call (by decide)
  | between target target' comparison comparison' hlower hupper =>
    have hboth := (mentions_test target comparison hlower).divide (d := " and ") (by decide)
      (mentions_test target' comparison' hupper)
    rw [text, names, spans, names, names, spans, spans]
    exact hboth
  | @join connective parts _ _ ih =>
    rw [text, texts_eq_map, names, spans, namesOfAll_eq, spansOfAll_eq]
    exact mentions_joinTexts connective ih
  | @atLeast count parts _ _ ih =>
    have hparts : Mentions
        (Text.join " + " ((parts.map text).map fun p => "toint(" ++ p ++ ")"))
        (parts.flatMap names) (parts.flatMap spans) := by
      rw [List.map_map]
      exact .list (by decide) fun part hpart => (ih part hpart).call (by decide)
    have hcount := hparts.divide (d := " >= ") (by decide) (silent_naturalText count)
    rw [List.append_nil, List.append_nil] at hcount
    rw [text, texts_eq_map, names, spans, namesOfAll_eq, spansOfAll_eq]
    exact hcount
  | negation _ ih =>
    rw [text, names, spans]
    exact ih.call (by decide)

end Predicate

end KustoSearch.Kql
