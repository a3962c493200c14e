import KustoSearch.Proofs.Text.Numeral
import KustoSearch.Text.Blank
import Mathlib.Data.List.DropRight
import Mathlib.Data.List.TakeWhile

/-! # Pieces and words

A text splits at a mark into the pieces before it and the pieces behind it. The blanks around a text
belong to no word, and a text that is not empty once it is trimmed has a word.
-/

namespace KustoSearch.Text

theorem isBlank_of_isDigit {c : Char} (h : isDigit c = true) : isBlank c = false := by
  obtain ⟨hlow, hhigh⟩ := isDigit_iff.mp h
  simp only [isBlank, Bool.or_eq_false_iff, Bool.and_eq_false_iff, decide_eq_false_iff_not,
    beq_eq_false_iff_ne, ne_eq]
  omega

theorem splitWhere_ne_nil (p : Char → Bool) (cs : List Char) : splitWhere p cs ≠ [] := by
  cases cs with
  | nil => simp [splitWhere]
  | cons c cs =>
    rw [splitWhere]
    split
    · simp
    · split_ifs <;> simp

theorem splitWhere_of_forall {p : Char → Bool} {cs : List Char} (h : ∀ c ∈ cs, p c = false) :
    splitWhere p cs = [cs] := by
  induction cs with
  | nil => rfl
  | cons c cs ih =>
    rw [splitWhere, ih fun d hd => h d (List.mem_cons_of_mem _ hd)]
    simp [h c List.mem_cons_self]

/-- A mark ends a piece; what stands behind it is split by itself. -/
theorem splitWhere_append_mark {p : Char → Bool} {mark : Char} (hmark : p mark = true)
    (cs rest : List Char) :
    splitWhere p (cs ++ mark :: rest) = splitWhere p cs ++ splitWhere p rest := by
  induction cs with
  | nil =>
    cases hsplit : splitWhere p rest with
    | nil => exact absurd hsplit (splitWhere_ne_nil p rest)
    | cons piece pieces => simp [splitWhere, hsplit, hmark]
  | cons c cs ih =>
    rw [List.cons_append, splitWhere, ih, splitWhere]
    cases hsplit : splitWhere p cs with
    | nil => exact absurd hsplit (splitWhere_ne_nil p cs)
    | cons piece pieces =>
      rw [List.cons_append]
      split_ifs <;> rfl

/-- The first mark ends the first piece. -/
theorem splitWhere_append_cons {p : Char → Bool} {cs rest : List Char} {mark : Char}
    (h : ∀ c ∈ cs, p c = false) (hmark : p mark = true) :
    splitWhere p (cs ++ mark :: rest) = cs :: splitWhere p rest := by
  rw [splitWhere_append_mark hmark, splitWhere_of_forall h, List.singleton_append]

/-- Pieces that are all empty leave nothing between the marks. -/
theorem all_of_splitWhere_empty {p : Char → Bool} {cs : List Char}
    (h : ∀ w ∈ splitWhere p cs, w = []) : ∀ c ∈ cs, p c = true := by
  induction cs with
  | nil => simp
  | cons c cs ih =>
    cases hsplit : splitWhere p cs with
    | nil =>
      simp only [splitWhere, hsplit] at h
      exact absurd (h [c] (by simp)) (by simp)
    | cons piece pieces =>
      cases hc : p c with
      | true =>
        simp only [splitWhere, hsplit, hc, if_true] at h
        intro d hd
        rcases List.mem_cons.mp hd with rfl | hd
        · exact hc
        · refine ih (fun w hw => h w ?_) d hd
          rw [hsplit] at hw
          exact List.mem_cons_of_mem _ hw
      | false =>
        simp only [splitWhere, hsplit, hc, Bool.false_eq_true, if_false] at h
        exact absurd (h (c :: piece) (by simp)) (by simp)

theorem all_blank_of_words {cs : List Char} (h : words cs = []) :
    ∀ c ∈ cs, isBlank c = true := by
  refine all_of_splitWhere_empty fun w hw => ?_
  rw [words, List.filter_eq_nil_iff] at h
  simpa using h w hw

/-- Words end at a blank. -/
theorem words_append_blank {blank : Char} (h : isBlank blank = true) (cs rest : List Char) :
    words (cs ++ blank :: rest) = words cs ++ words rest := by
  rw [words, splitWhere_append_mark h, List.filter_append, words, words]

theorem words_trimLeft (cs : List Char) : words (trimLeft cs) = words cs := by
  induction cs with
  | nil => rfl
  | cons c cs ih =>
    rw [trimLeft, List.dropWhile_cons]
    split_ifs with hc
    · exact ih.trans (words_append_blank hc [] cs).symm
    · rfl

theorem words_trimRight (cs : List Char) : words (trimRight cs) = words cs := by
  -- from the end, where the blanks are
  induction cs using List.reverseRecOn with
  | nil => rfl
  | append_singleton cs c ih =>
    rw [trimRight, List.reverse_concat, List.dropWhile_cons]
    split_ifs with hc
    · refine ih.trans ?_
      rw [words_append_blank hc]
      exact (List.append_nil _).symm
    · rw [← List.reverse_concat, List.reverse_reverse]

/-- The blanks around a text belong to no word. -/
theorem words_trim (cs : List Char) : words (trim cs) = words cs := by
  rw [trim, words_trimRight, words_trimLeft]

/-- A trimmed text of blanks only is empty. -/
theorem trim_eq_nil {cs : List Char} (h : ∀ c ∈ trim cs, isBlank c = true) : trim cs = [] := by
  have hrest : (((trimLeft cs).reverse.dropWhile isBlank).dropWhile isBlank) = [] := by
    rw [List.dropWhile_eq_nil_iff]
    intro c hc
    exact h c (by simpa [trim, trimRight] using hc)
  rw [List.dropWhile_idempotent] at hrest
  rw [trim, trimRight, hrest, List.reverse_nil]

/-- The blanks around a text without blanks are trimmed. -/
theorem trim_of_surrounded {before body after : List Char}
    (hbefore : ∀ c ∈ before, isBlank c = true) (hbody : ∀ c ∈ body, isBlank c = false)
    (hafter : ∀ c ∈ after, isBlank c = true) : trim (before ++ body ++ after) = body := by
  have hleft : trimLeft (before ++ body ++ after) = trimLeft (body ++ after) := by
    rw [List.append_assoc]
    exact List.dropWhile_append_of_pos hbefore
  cases body with
  | nil =>
    have hnone : trimLeft after = [] := List.dropWhile_eq_nil_iff.mpr hafter
    rw [trim, hleft, List.nil_append, hnone]
    rfl
  | cons c cs =>
    have hstays : trimLeft (c :: cs ++ after) = c :: cs ++ after :=
      List.dropWhile_cons_of_neg (by simp [hbody c List.mem_cons_self])
    -- from the end, the blanks come first and then a character that is none
    have hlast : ∀ d ∈ (c :: cs).reverse.head?, isBlank d = false := fun d hd =>
      hbody d (List.mem_reverse.mp (List.mem_of_mem_head? hd))
    have hright := (takeWhile_append_of_head
      (fun d hd => hafter d (List.mem_reverse.mp hd)) hlast).2
    rw [trim, hleft, hstays, trimRight, List.reverse_append, hright, List.reverse_reverse]

theorem trim_of_not_blank {cs : List Char} (h : ∀ c ∈ cs, isBlank c = false) : trim cs = cs := by
  have hnone : ∀ c ∈ ([] : List Char), isBlank c = true := nofun
  have htrim := trim_of_surrounded hnone h hnone
  rwa [List.nil_append, List.append_nil] at htrim

/-- A text is what is left of it once it is trimmed, with blanks around. -/
theorem exists_surrounded_trim (cs : List Char) : ∃ before after, cs = before ++ trim cs ++ after ∧
    (∀ c ∈ before, isBlank c = true) ∧ ∀ c ∈ after, isBlank c = true := by
  refine ⟨cs.takeWhile isBlank, ((trimLeft cs).reverse.takeWhile isBlank).reverse, ?_,
    fun c hc => List.mem_takeWhile_imp hc,
    fun c hc => List.mem_takeWhile_imp (List.mem_reverse.mp hc)⟩
  rw [List.append_assoc, trim, trimRight, ← List.reverse_append, List.takeWhile_append_dropWhile,
    List.reverse_reverse, trimLeft, List.takeWhile_append_dropWhile]

/-- What is left of a text is empty exactly if the text is of blanks only. -/
theorem isEmpty_trimmed_iff (s : String) :
    (trimmed s).isEmpty = true ↔ isBlankString s = true := by
  rw [trimmed, String.isEmpty_iff, String.ofList_eq_empty_iff, isBlankString, allBlank,
    List.all_eq_true]
  constructor
  · intro hnil
    refine all_blank_of_words ?_
    rw [← words_trim, hnil]
    rfl
  · intro hblank
    refine trim_eq_nil fun c hc => hblank c ?_
    rw [trim, trimRight, List.mem_reverse] at hc
    exact List.dropWhile_subset _ (List.mem_reverse.mp (List.dropWhile_subset _ hc))

theorem words_trimmed_ne_nil {s : String} (h : (trimmed s).isEmpty = false) :
    words (trimmed s).toList ≠ [] := by
  intro hwords
  rw [trimmed, String.toList_ofList, words_trim] at hwords
  have hblank : isBlankString s = true := List.all_eq_true.mpr (all_blank_of_words hwords)
  rw [(isEmpty_trimmed_iff s).mpr hblank] at h
  cases h

end KustoSearch.Text
