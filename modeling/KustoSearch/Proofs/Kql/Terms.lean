import KustoSearch.Plan.Stage
import KustoSearch.Proofs.Kql.Moment
import KustoSearch.Proofs.Kql.Steps

/-! # Texts that a step holds as a whole

The keys and computations of a step are texts whose tokens stay together: what divides a step stands
inside their brackets. `Term` says so of a text and its tokens.
-/

namespace KustoSearch.Kql

/-! ## Tokens of a text -/

/-- The tokens of a text. -/
def tokensOf (s : String) : List Token := (tokens? s.toList).getD []

theorem Scans.tokens?_eq {cs : List Char} {ts : List Token} (h : Scans cs ts) :
    tokens? cs = some ts := by
  have hend := h [] atEnd_nil
  have hnil : tokens? [] = some [] := by rw [tokens?]
  rw [List.append_nil, hnil] at hend
  simpa using hend

theorem tokens?_blanks {blanks : List Char} (h : Blanks blanks) (rest : List Char) :
    tokens? (blanks ++ rest) = tokens? rest := by
  induction blanks with
  | nil => rfl
  | cons c blanks ih =>
    obtain ⟨rfl, hblanks⟩ := List.forall_mem_cons.mp h
    rw [List.cons_append, tokens?_blank]
    exact ih hblanks

/-- Blanks around a text do not matter. -/
theorem Scans.tokens?_padded {cs ds : List Char} {ts : List Token} (h : Scans cs ts)
    (hds : Padded cs ds) : tokens? ds = some ts := by
  obtain ⟨before, after, hbefore, hafter, rfl⟩ := hds
  have hend : AtEnd after := by
    cases after with
    | nil => exact atEnd_nil
    | cons c after =>
      obtain ⟨rfl, _⟩ := List.forall_mem_cons.mp hafter
      exact atEnd_blank after
  have hnone : tokens? after = some [] := by
    have hblanks := tokens?_blanks hafter []
    rwa [List.append_nil, scans_nil.tokens?_eq] at hblanks
  rw [List.append_assoc, tokens?_blanks hbefore, h after hend, hnone]
  simp

/-- Two texts with a blank between them. -/
theorem scans_blank {s t : String} {ts us : List Token} (h : Scans s.toList ts)
    (h' : Scans t.toList us) : Scans (s ++ " " ++ t).toList (ts ++ us) := by
  have htext : (s ++ " " ++ t).toList = s.toList ++ ' ' :: t.toList := by simp
  rw [htext]
  exact h.append h'.blank fun _ _ => atEnd_blank _

theorem scans_operator (mark : String) (hne : mark.toList ≠ [])
    (h : mark.toList.all Lexer.isComparisonChar = true) : Scans mark.toList [.mark mark] := by
  obtain ⟨c, cs, hcs⟩ := List.exists_cons_of_ne_nil hne
  have hback : String.ofList (c :: cs) = mark := by rw [← hcs, String.ofList_toList]
  rw [hcs, List.all_cons, Bool.and_eq_true] at h
  have hscan := scans_comparison h.1 (List.all_eq_true.mp h.2)
  rwa [hback, ← hcs] at hscan

/-- Texts with commas between them. -/
theorem scans_join {α : Type} {text : α → String} {tokens : α → List Token} {items : List α}
    (h : ∀ item ∈ items, Scans (text item).toList (tokens item)) :
    Scans (Text.join ", " (items.map text)).toList ([.comma].intercalate (items.map tokens)) := by
  induction items with
  | nil => exact scans_nil
  | cons item items ih =>
    obtain ⟨hitem, hitems⟩ := List.forall_mem_cons.mp h
    cases items with
    | nil =>
      rw [List.map_singleton, List.map_singleton, List.intercalate_singleton]
      exact hitem
    | cons next items =>
      have htext : (Text.join ", " ((item :: next :: items).map text)).toList =
          (text item).toList ++
            ',' :: ' ' :: (Text.join ", " ((next :: items).map text)).toList := by
        simp [Text.join]
      have htokens : [.comma].intercalate ((item :: next :: items).map tokens) =
          tokens item ++ .comma :: [.comma].intercalate ((next :: items).map tokens) := by
        simp [List.intercalate_cons_cons]
      rw [htext, htokens]
      exact hitem.append (ih hitems).blank.comma fun _ _ => atEnd_comma _

/-- A list whose items no comma divides is read item by item. -/
theorem mapM_divided {α β : Type} {tokens : α → List Token} {read : List Token → Option β}
    {value : α → β} {items : List α} (hne : items ≠ [])
    (hitems : ∀ item ∈ items, Undivided .comma (tokens item))
    (hread : ∀ item ∈ items, read (tokens item) = some (value item)) :
    (divided .comma ([.comma].intercalate (items.map tokens))).mapM read =
      some (items.map value) := by
  have hparts : ∀ part ∈ items.map tokens, Undivided .comma part := List.forall_mem_map.mpr hitems
  rw [divided_intercalate (by simpa using hne) hparts]
  refine mapM_eq_some ?_
  rw [List.forall₂_map_right_iff, List.forall₂_same]
  exact hread

/-- A text that is read as a step. -/
def StepText (s : String) (step : Step) : Prop :=
  ∃ ts, Scans s.toList ts ∧ Step.ofTokens? ts = some step

theorem StepText.read?_eq {s : String} {step : Step} (h : StepText s step) {cs : List Char}
    (hcs : Padded s.toList cs) : Step.read? cs = some step := by
  obtain ⟨ts, hscan, hstep⟩ := h
  rw [Step.read?, hscan.tokens?_padded hcs, Option.bind_some, hstep]

/-- Steps are read one by one. -/
theorem mapM_read?_padded {texts : List String} {steps : List Step} {parts : List (List Char)}
    (hsteps : List.Forall₂ StepText texts steps)
    (hparts : List.Forall₂ (fun s part => Padded (String.toList s) part) texts parts) :
    parts.mapM Step.read? = some steps := by
  induction hsteps generalizing parts with
  | nil =>
    cases hparts
    rfl
  | cons hstep _ ih =>
    cases hparts with
    | cons hpadded hparts => simp [List.mapM_cons, hstep.read?_eq hpadded, ih hparts]

/-- A source with steps behind it, between pipes. -/
theorem exists_pieces_join {head : String} {texts : List String} {steps : List Step}
    (hhead : Whole '|' head.toList) (htexts : ∀ s ∈ texts, Whole '|' s.toList)
    (hsteps : List.Forall₂ StepText texts steps) :
    ∃ first parts, pieces '|' (Text.join " | " (head :: texts)).toList = first :: parts ∧
      Padded head.toList first ∧ parts.mapM Step.read? = some steps := by
  have hpieces := pieces_join separator_pipe (List.cons_ne_nil _ _)
    (List.forall_mem_cons.mpr ⟨hhead, htexts⟩) blanks_nil blanks_nil
  rw [List.nil_append, List.append_nil] at hpieces
  generalize pieces '|' (Text.join " | " (head :: texts)).toList = found at hpieces ⊢
  obtain _ | ⟨hfirst, hparts⟩ := hpieces
  exact ⟨_, _, rfl, hfirst, mapM_read?_padded hsteps hparts⟩

/-! ## Terms -/

/-- Whether a token divides a step outside brackets. -/
def Token.isDivider : Token → Bool
  | .comma => true
  | .name word => word = "by"
  | _ => false

/-- A text with its tokens, which stay together wherever they stand. -/
structure Term (s : String) (ts : List Token) : Prop where
  scans : Scans s.toList ts
  undivided : ∀ mark : Token, mark.isDivider = true → Undivided mark ts

/-- A text with its tokens, which stay together in a bracket. -/
structure BracketTerm (s : String) (ts : List Token) : Prop where
  scans : Scans s.toList ts
  enclosed : ∀ mark : Token, mark.isDivider = true → Enclosed mark ts

/-- Whether a token neither divides a step nor is a bracket. -/
def Token.isInner (t : Token) : Bool := t.isPlain && !t.isDivider

theorem Token.depth_of_isPlain {t : Token} (h : t.isPlain = true) (n : Nat) : t.depth n = n := by
  cases t with
  | opening => cases h
  | closing => cases h
  | _ => rfl

theorem undivided_of_isInner {t mark : Token} (h : t.isInner = true)
    (hmark : mark.isDivider = true) : Undivided mark [t] := by
  obtain ⟨hplain, hdivider⟩ := Bool.and_eq_true_iff.mp h
  refine undivided_token ?_ (Token.depth_of_isPlain hplain)
  rintro rfl
  rw [hmark] at hdivider
  cases hdivider

section

variable {s t : String} {ts us : List Token}

theorem Term.tokensOf_eq (h : Term s ts) : tokensOf s = ts := by
  rw [tokensOf, h.scans.tokens?_eq, Option.getD_some]

theorem term_tokensOf (h : ∃ ts, Term s ts) : Term s (tokensOf s) := by
  obtain ⟨ts, hterm⟩ := h
  rw [hterm.tokensOf_eq]
  exact hterm

theorem term_token {token : Token} (h : Scans s.toList [token]) (hinner : token.isInner = true) :
    Term s [token] :=
  ⟨h, fun _ hmark => undivided_of_isInner hinner hmark⟩

theorem term_identifier (name : String) : Term (identifier name) [.column name] :=
  term_token (scans_identifier name) rfl

theorem term_numeral {cs : List Char} (h : IsNumeral cs) :
    Term (String.ofList cs) [.number (String.ofList cs)] := by
  refine term_token ?_ rfl
  rw [String.toList_ofList]
  exact h.scans

theorem term_naturalText (n : Nat) : Term (Text.naturalText n) [.number (Text.naturalText n)] := by
  have hnumeral := isNumeral_decimal n [] (by simp)
  rw [List.append_nil] at hnumeral
  exact term_numeral hnumeral

/-- The name of a calendar unit in quotes. -/
theorem term_unit (unit : DateUnit) : Term ("'" ++ unit.name ++ "'") [.text unit.name] := by
  have htext : ("'" ++ unit.name ++ "'").toList = '\'' :: (unit.name.toList ++ ['\'']) := by simp
  have hscan := scans_plainText unit.name_chars
  rw [String.ofList_toList, ← htext] at hscan
  exact term_token hscan rfl

/-- A column with its term. -/
theorem Term.named (h : Term s ts) (name : String) :
    Term (identifier name ++ " = " ++ s) (.column name :: .mark "=" :: ts) := by
  have htext : identifier name ++ " = " ++ s = identifier name ++ " " ++ "=" ++ " " ++ s := by
    rw [← String.toList_inj]
    simp
  refine ⟨?_, fun mark hmark => ?_⟩
  · rw [htext]
    exact scans_blank (scans_blank (scans_identifier name)
      (scans_operator "=" (by decide) (by decide))) h.scans
  · exact (undivided_of_isInner rfl hmark).append
      ((undivided_of_isInner rfl hmark).append (h.undivided mark hmark))

/-- A minus sign before a term. -/
theorem Term.negative (h : Term s ts) : Term ("-" ++ s) (.mark "-" :: ts) := by
  refine ⟨?_, fun mark hmark => ?_⟩
  · rw [String.toList_append]
    exact h.scans.sign (by decide)
  · exact (undivided_of_isInner rfl hmark).append (h.undivided mark hmark)

theorem term_signed (isNegative : Bool) {cs : List Char} (h : IsNumeral cs) :
    ∃ ts, Term (String.ofList ((if isNegative then ['-'] else []) ++ cs)) ts := by
  cases isNegative with
  | false => exact ⟨_, term_numeral h⟩
  | true =>
    have htext : String.ofList ((if true then ['-'] else []) ++ cs) = "-" ++ String.ofList cs := by
      rw [← String.toList_inj]
      simp
    rw [htext]
    exact ⟨_, (term_numeral h).negative⟩

theorem exists_term_plainText (x : Binary64) : ∃ ts, Term (Decimal.plainText x) ts :=
  term_signed x.isNegative (isNumeral_magnitudeText Decimal.plain _)

theorem exists_term_span (span : Span) : ∃ ts, Term span.text ts := by
  have htext : String.ofList ((if decide (span.count < 0) then ['-'] else []) ++
      (Text.decimal span.count.natAbs ++ span.unit.mark.toList)) = span.text := by
    rw [← String.toList_inj]
    by_cases hn : span.count < 0
    · simp [Span.text, Text.integerText, hn]
    · simp [Span.text, Text.integerText, hn]
  rw [← htext]
  exact term_signed _ (isNumeral_decimal span.count.natAbs _ span.unit.mark_chars)

/-- Two terms with an operator between them. -/
theorem Term.between {mark : String} {c : Char} (hmark : mark.toList = [c])
    (hc : Lexer.isSignChar c = true) (h : Term s ts) (h' : Term t us) :
    Term (s ++ " " ++ mark ++ " " ++ t) (ts ++ .mark mark :: us) := by
  have htext : (s ++ " " ++ mark ++ " " ++ t).toList = s.toList ++ ' ' :: c :: ' ' :: t.toList := by
    simp [hmark]
  have hback : String.ofList [c] = mark := by rw [← hmark, String.ofList_toList]
  refine ⟨?_, fun divider hdivider => ?_⟩
  · rw [htext, ← hback]
    exact Scalar.scans_between hc h.scans h'.scans
  · exact (h.undivided divider hdivider).append
      ((undivided_of_isInner rfl hdivider).append (h'.undivided divider hdivider))

/-! ## Brackets -/

theorem Term.inBracket (h : Term s ts) : BracketTerm s ts :=
  ⟨h.scans, fun mark hmark => (h.undivided mark hmark).enclosed⟩

theorem Term.beforeComma (h : Term s ts) (h' : BracketTerm t us) :
    BracketTerm (s ++ ", " ++ t) (ts ++ .comma :: us) := by
  have htext : (s ++ ", " ++ t).toList = s.toList ++ ',' :: ' ' :: t.toList := by simp
  refine ⟨?_, fun mark hmark => ?_⟩
  · rw [htext]
    exact h.scans.append h'.scans.blank.comma fun _ _ => atEnd_comma _
  · have hcomma : Enclosed mark [.comma] := enclosed_token fun _ => rfl
    exact (h.undivided mark hmark).enclosed.append (hcomma.append (h'.enclosed mark hmark))

/-- Brackets around a text. -/
theorem BracketTerm.group (h : BracketTerm s ts) :
    Term ("(" ++ s ++ ")") (.opening :: (ts ++ [.closing])) := by
  have htext : ("(" ++ s ++ ")").toList = '(' :: (s.toList ++ [')']) := by simp
  refine ⟨?_, fun mark hmark => ?_⟩
  · rw [htext]
    exact h.scans.group
  · refine (h.enclosed mark hmark).bracketed ?_ ?_ <;>
    · rintro rfl
      cases hmark

/-- A call of a function. -/
theorem BracketTerm.call (h : BracketTerm s ts) (opening function : String)
    (hopening : opening.toList = function.toList ++ ['(']) (hword : isWord function.toList = true)
    (hinner : (Token.name function).isInner = true) :
    Term (opening ++ s ++ ")") (.name function :: .opening :: (ts ++ [.closing])) := by
  have htext : (opening ++ s ++ ")").toList =
      function.toList ++ ("(" ++ s ++ ")").toList := by simp [hopening]
  refine ⟨?_, fun mark hmark => ?_⟩
  · rw [htext]
    refine (Scalar.scans_word function hword).append h.group.scans fun rest _ => ?_
    simpa using atEnd_opening (s.toList ++ ')' :: rest)
  · exact (undivided_of_isInner hinner hmark).append (h.group.undivided mark hmark)

/-- A call without arguments. -/
theorem term_call_nil (opening function : String)
    (hopening : opening.toList = function.toList ++ ['(', ')'])
    (hword : isWord function.toList = true) (hinner : (Token.name function).isInner = true) :
    Term opening [.name function, .opening, .closing] := by
  refine ⟨?_, fun mark hmark => ?_⟩
  · rw [hopening]
    exact (Scalar.scans_word function hword).append scans_nil.closing.opening
      fun _ _ => atEnd_opening _
  · have hbracket : Undivided mark (.opening :: ([] ++ [.closing])) := by
      refine Enclosed.bracketed (undivided_nil.enclosed) ?_ ?_ <;>
      · rintro rfl
        cases hmark
    exact (undivided_of_isInner hinner hmark).append hbracket

/-- The start of a quarter is the start of the month, some months back. -/
theorem Term.startOfQuarter {base : Moment} (h : Term base.text ts) :
    ∃ us, Term base.startOfQuarter.text us := by
  have hmonth := h.inBracket.call "getmonth(" "getmonth" (by decide) (by decide) (by decide)
  have hminus := hmonth.between (show "-".toList = ['-'] from rfl) (by decide) (term_naturalText 1)
  have hback := (hminus.inBracket.group.between (show "%".toList = ['%'] from rfl) (by decide)
    (term_naturalText 3)).inBracket.group.negative
  have hstart := h.inBracket.call "startofmonth(" "startofmonth" (by decide) (by decide) (by decide)
  have hcall := ((term_unit .month).beforeComma (hback.beforeComma hstart.inBracket)).call
    "datetime_add(" "datetime_add" (by decide) (by decide) (by decide)
  have hdigits : Text.naturalText 1 = "1" ∧ Text.naturalText 3 = "3" := by
    simp [Text.naturalText, Text.decimal_of_lt]
    exact ⟨rfl, rfl⟩
  have htext : base.startOfQuarter.text = "datetime_add(" ++ ("'" ++ DateUnit.month.name ++ "'" ++
      ", " ++ ("-" ++ ("(" ++ ("(" ++ ("getmonth(" ++ base.text ++ ")" ++ " " ++ "-" ++ " " ++
        "1") ++ ")" ++ " " ++ "%" ++ " " ++ "3") ++ ")") ++ ", " ++
          ("startofmonth(" ++ base.text ++ ")"))) ++ ")" := by
    rw [Moment.text_startOfQuarter, ← String.toList_inj]
    simp [DateUnit.name]
  rw [hdigits.1, hdigits.2] at hcall
  rw [htext]
  exact ⟨_, hcall⟩

end

end KustoSearch.Kql
