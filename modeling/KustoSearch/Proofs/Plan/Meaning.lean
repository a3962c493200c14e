import KustoSearch.Plan.Filter
import KustoSearch.Proofs.Kql.Condition
import KustoSearch.Proofs.Outcome
import KustoSearch.Proofs.Text.Blank

/-! # What a query means

`Query.meaning` says which rows a query is meant to select, given which single tests hold of a row.
The main statement, `Query.meaning_of_text`, says that the text written for a query, read with the
precedence of the engine, comes to this meaning.
-/

namespace KustoSearch

open Kql (Comparison Literal Predicate Target Test)

namespace Query

section Meaning

variable (truth : Test → Bool)

/-- Whether a column compares with a literal. -/
def columnHolds (field : String) (comparison : Comparison) (literal : Literal) : Bool :=
  truth (.holds (.column field) comparison literal.expression)

/-- All of some truths or any of them. -/
def combined : MatchOperator → List Bool → Bool
  | .and, bs => bs.all id
  | .or, bs => bs.any id

/-- An exact value. -/
def termMeaning (field : String) (value : Json) (ignoreCase : Bool) : Bool :=
  match scalar? value with
  | some (literal, kind) =>
    columnHolds truth field
      (if ignoreCase && kind = .string then .equalIgnoringCase else .equal) literal
  | none => false

/-- One of the values. -/
def termsMeaning (field : String) (values : List Json) : Bool :=
  values.any fun value => termMeaning truth field value false

/-- All words of a text, any of them, or the text as a phrase; a text without words selects
nothing, and a value that is no text is compared as it is. -/
def textMeaning (field : String) (query : Json) (operator : MatchOperator) (phrase : Bool) : Bool :=
  match query with
  | .string s =>
    if phrase then
      !(Text.trimmed s).isEmpty && columnHolds truth field .hasTerm (.text (Text.trimmed s))
    else
      !(tokens s).isEmpty &&
        combined operator ((tokens s).map fun word => columnHolds truth field .hasTerm (.text word))
  | value => termMeaning truth field value false

/-- How a word is looked for, and what of it. -/
def wordTest (word : String) : Comparison × String :=
  match stem? word with
  | some stem => (.hasTermFrom, stem)
  | none => (.hasTerm, word)

/-- A word in any of the targets. -/
def wordMeaning (targets : List Target) (word : String) : Bool :=
  targets.any fun target =>
    truth (.holds target (wordTest word).1 (Literal.text (wordTest word).2).expression)

/-- All words of a text or any of them, each in any of the columns; nothing and a star alone select
every row. -/
def wordsMeaning (query : String) (fields : List String) (operator : MatchOperator) : Bool :=
  let query := Text.trimmed query
  query.isEmpty || query = "*" ||
    combined operator ((tokens query).map
      (wordMeaning truth (if fields.isEmpty then [.anyColumn] else fields.map Target.column)))

/-- Whether a column is on the right side of a bound. -/
def boundMeaning (field : String) (comparison : Comparison) (literal : Except Failure Literal) :
    Bool :=
  match literal with
  | .ok literal => columnHolds truth field comparison literal
  | .error _ => false

/-- Both bounds, as far as there are any. -/
def rangeMeaning (field : String) (lower upper : Option Bound) (format : Option String) : Bool :=
  lower.all (fun b => boundMeaning truth field (if b.inclusive then .atLeast else .greater)
      (boundLiteral field b.value format (!b.inclusive))) &&
    upper.all (fun b => boundMeaning truth field (if b.inclusive then .atMost else .less)
      (boundLiteral field b.value format b.inclusive))

/-- Whether enough of the optional clauses hold; without such clauses there is no condition. -/
def enough (hasRequired : Bool) (minimum : Option MinimumMatch) (should : List Bool) : Bool :=
  should.isEmpty ||
    match requiredCount hasRequired should.length minimum with
    | .ok required => required ≤ should.count true
    | .error _ => false

mutual

/-- Whether a query selects a row, given which tests hold of it. -/
def meaning : Query → Bool
  | .matchAll => true
  | .matchNone => false
  | .bool must filter should mustNot minimum =>
    (meanings must).all id && (meanings filter).all id && (meanings mustNot).all (!·) &&
      enough (!must.isEmpty || !filter.isEmpty) minimum (meanings should)
  | .range field lower upper format => rangeMeaning truth field lower upper format
  | .fullText field query operator phrase => textMeaning truth field query operator phrase
  | .term field value ignoreCase => termMeaning truth field value ignoreCase
  | .terms field values => termsMeaning truth field values
  | .present field => truth (.notEmpty field)
  | .startsWith field value => columnHolds truth field .startsWith (.text value)
  | .wildcard field pattern ignoreCase =>
    columnHolds truth field .matchesRegex (.text (Kql.wildcardRegex pattern ignoreCase))
  | .words query fields operator => wordsMeaning truth query fields operator
  | .unimplemented _ => false

/-- Which of some queries select a row. -/
def meanings : List Query → List Bool
  | [] => []
  | query :: queries => meaning query :: meanings queries

end

end Meaning

/-- A predicate that can be read and holds when something is meant to. -/
structure Says (p : Predicate) (meant : (Test → Bool) → Bool) : Prop where
  readable : p.Readable
  holds : ∀ truth, p.holds truth = meant truth

/-- The text of a predicate is read as an expression that comes to what is meant. -/
theorem Says.truth?_text {p : Predicate} {meant : (Test → Bool) → Bool} (h : Says p meant)
    (truth : Test → Bool) :
    (Kql.Expression.read? p.text).bind (Kql.Expression.truth? truth) = some (meant truth) := by
  rw [p.truth?_text h.readable, h.holds]

theorem says_constant (b : Bool) : Says (.constant b) fun _ => b :=
  ⟨.constant b, fun _ => rfl⟩

theorem says_test (field : String) (comparison : Comparison) {literal : Literal}
    (h : literal.isStepwise = true) :
    Says (.test (.column field) comparison literal) fun truth =>
      columnHolds truth field comparison literal :=
  ⟨.test _ _ h, fun _ => rfl⟩

/-! ## Single tests -/

theorem isStepwise_of_scalar? {value : Json} {literal : Literal} {kind : ScalarKind}
    (h : scalar? value = some (literal, kind)) : literal.isStepwise = true := by
  cases value with
  | string s =>
    obtain ⟨rfl, _⟩ := by simpa [scalar?] using h
    rfl
  | number n =>
    obtain ⟨rfl, _⟩ := by simpa [scalar?] using h
    rfl
  | bool b =>
    obtain ⟨rfl, _⟩ := by simpa [scalar?] using h
    rfl
  | _ => simp [scalar?] at h

theorem says_term {field : String} {value : Json} {ignoreCase : Bool} {p : Predicate}
    (h : termPredicate field value ignoreCase = .ok p) :
    Says p fun truth => termMeaning truth field value ignoreCase := by
  unfold termPredicate at h
  split at h
  · exact absurd h (by simp)
  · rename_i literal kind hscalar
    cases h
    refine ⟨.test _ _ (isStepwise_of_scalar? hscalar), fun truth => ?_⟩
    simp only [termMeaning, hscalar]
    rfl

/-- The literals of a list are those of its values. -/
theorem termLiterals_eq {field : String} {kind : Option ScalarKind} {values : List Json}
    {literals : List Literal} (h : termLiterals field kind values = .ok literals) :
    List.Forall₂ (fun value literal => ∃ k, scalar? value = some (literal, k)) values literals := by
  induction values generalizing kind literals with
  | nil =>
    cases h
    exact .nil
  | cons value values ih =>
    unfold termLiterals at h
    split at h
    · exact absurd h (by simp)
    · rename_i literal k hscalar
      split_ifs at h
      obtain ⟨rest, hrest, h⟩ := Outcome.bind_eq_ok.mp h
      cases h
      exact .cons ⟨k, hscalar⟩ (ih hrest)

theorem says_oneOf {field : String} {values : List Json} {literals : List Literal}
    (h : List.Forall₂ (fun value literal => ∃ k, scalar? value = some (literal, k)) values literals)
    (hne : values ≠ []) : Says (.oneOf field literals) fun truth =>
      termsMeaning truth field values := by
  have hliterals : ∀ l ∈ literals, l.isStepwise = true := by
    clear hne
    induction h with
    | nil => simp
    | cons hfirst _ ih =>
      intro l hl
      rcases List.mem_cons.mp hl with rfl | hl
      · exact isStepwise_of_scalar? hfirst.choose_spec
      · exact ih l hl
  have hholds : ∀ truth, (Predicate.oneOf field literals).holds truth =
      termsMeaning truth field values := by
    intro truth
    rw [Predicate.holds, termsMeaning]
    clear hne hliterals
    induction h with
    | nil => rfl
    | cons hfirst _ ih =>
      obtain ⟨k, hk⟩ := hfirst
      rw [List.any_cons, List.any_cons, ih]
      simp [termMeaning, hk, columnHolds]
  refine ⟨.oneOf field ?_ hliterals, hholds⟩
  rintro rfl
  cases h
  exact hne rfl

theorem says_terms {field : String} {values : List Json} {p : Predicate}
    (h : termsPredicate field values = .ok p) :
    Says p fun truth => termsMeaning truth field values := by
  unfold termsPredicate at h
  split_ifs at h with hempty
  · cases h
    have hnil : values = [] := by simpa using hempty
    subst hnil
    exact says_constant false
  · obtain ⟨literals, hliterals, h⟩ := Outcome.bind_eq_ok.mp h
    cases h
    exact says_oneOf (termLiterals_eq hliterals) (by simpa using hempty)

/-! ## Words -/

theorem forall_readable {parts : List Predicate} {meant : List ((Test → Bool) → Bool)}
    (h : List.Forall₂ Says parts meant) : ∀ part ∈ parts, part.Readable :=
  Kql.forall_mem_of_forall₂ h fun _ _ hsays => hsays.readable

theorem truths_of_parts {parts : List Predicate} {meant : List ((Test → Bool) → Bool)}
    (h : List.Forall₂ Says parts meant) (truth : Test → Bool) :
    Predicate.truths truth parts = meant.map fun m => m truth := by
  induction h with
  | nil => rfl
  | cons hfirst _ ih => rw [Predicate.truths, List.map_cons, ih, hfirst.holds]

/-- Parts joined as an operator says. -/
theorem says_join (operator : MatchOperator) {parts : List Predicate}
    {meant : List ((Test → Bool) → Bool)} (h : List.Forall₂ Says parts meant)
    (hne : parts ≠ []) :
    Says (.join (connective operator) parts) fun truth =>
      combined operator (meant.map fun m => m truth) := by
  refine ⟨.join _ hne (forall_readable h), fun truth => ?_⟩
  cases operator with
  | and => rw [connective, Predicate.holds, truths_of_parts h, combined]
  | or => rw [connective, Predicate.holds, truths_of_parts h, combined]

theorem says_text {field : String} {query : Json} {operator : MatchOperator} {phrase : Bool}
    {p : Predicate} (h : fullTextPredicate field query operator phrase = .ok p) :
    Says p fun truth => textMeaning truth field query operator phrase := by
  have hhas : ∀ s, Says (.test (.column field) .hasTerm (.text s)) fun truth =>
      columnHolds truth field .hasTerm (.text s) := fun s => says_test field .hasTerm rfl
  cases query with
  | string s =>
    cases phrase with
    | true =>
      simp only [fullTextPredicate, if_true] at h
      obtain rfl := Except.ok.inj h
      simp only [textMeaning, if_true]
      cases hempty : (Text.trimmed s).isEmpty with
      | true => exact says_constant false
      | false => exact hhas _
    | false =>
      simp only [fullTextPredicate, Bool.false_eq_true, if_false] at h
      obtain rfl := Except.ok.inj h
      simp only [textMeaning, Bool.false_eq_true, if_false]
      cases hempty : (tokens s).isEmpty with
      | true => exact says_constant false
      | false =>
        have hwords : List.Forall₂ Says
            ((tokens s).map fun word => Predicate.test (.column field) .hasTerm (.text word))
            ((tokens s).map fun word truth => columnHolds truth field .hasTerm (.text word)) := by
          rw [List.forall₂_map_left_iff, List.forall₂_map_right_iff, List.forall₂_same]
          exact fun word _ => hhas word
        have hne : tokens s ≠ [] := by simpa using hempty
        simpa [List.map_map, Function.comp_def] using says_join operator hwords (by simpa using hne)
  | number n =>
    cases h
    exact says_test field .equal rfl
  | bool b =>
    cases h
    exact says_test field .equal rfl
  | _ => exact absurd h (by simp [fullTextPredicate])

theorem says_word {targets : List Target} {word : String} {p : Predicate}
    (h : wordPredicate targets word = .ok p) (hne : targets ≠ []) :
    Says p fun truth => wordMeaning truth targets word := by
  have hp : p = .join .any (targets.map fun target =>
      .test target (wordTest word).1 (.text (wordTest word).2)) := by
    unfold wordPredicate at h
    unfold wordTest
    cases hstem : stem? word with
    | none =>
      simp only [hstem] at h
      split_ifs at h
      cases h
      rfl
    | some stem =>
      simp only [hstem] at h
      split_ifs at h
      cases h
      rfl
  have htests : List.Forall₂ Says
      (targets.map fun target =>
        Predicate.test target (wordTest word).1 (.text (wordTest word).2))
      (targets.map fun target truth =>
        truth (.holds target (wordTest word).1 (Literal.text (wordTest word).2).expression)) := by
    rw [List.forall₂_map_left_iff, List.forall₂_map_right_iff, List.forall₂_same]
    exact fun target _ => ⟨.test _ _ rfl, fun _ => rfl⟩
  rw [hp]
  have hany := says_join .or htests (by simpa using hne)
  simpa [connective, combined, wordMeaning, List.any_map, Function.comp_def] using hany

theorem says_words {query : String} {fields : List String} {operator : MatchOperator}
    {p : Predicate} (h : wordsPredicate query fields operator = .ok p) :
    Says p fun truth => wordsMeaning truth query fields operator := by
  unfold wordsPredicate at h
  unfold wordsMeaning
  simp only at h ⊢
  cases hall : (Text.trimmed query).isEmpty || Text.trimmed query = "*" with
  | true =>
    rw [if_pos hall] at h
    cases h
    simpa using says_constant true
  | false =>
    rw [if_neg (by simpa using hall)] at h
    have htargets : (if fields.isEmpty then [Target.anyColumn] else fields.map Target.column) ≠
        [] := by
      cases fields <;> simp
    generalize (if fields.isEmpty then [Target.anyColumn] else fields.map Target.column) = targets
      at h htargets ⊢
    split_ifs at h with hsyntax
    obtain ⟨parts, hparts, h⟩ := Outcome.bind_eq_ok.mp h
    cases h
    have hwords : List.Forall₂ Says parts ((tokens (Text.trimmed query)).map fun word truth =>
        wordMeaning truth targets word) := by
      rw [List.forall₂_map_right_iff]
      exact (Outcome.mapM_eq_ok.mp hparts).flip.imp fun _ _ hword => says_word hword htargets
    have hne : parts ≠ [] := by
      -- a text that is not empty has a word
      rintro rfl
      have htokens : tokens (Text.trimmed query) = [] := by
        cases hsplit : tokens (Text.trimmed query) with
        | nil => rfl
        | cons word words =>
          rw [hsplit] at hparts
          cases Outcome.mapM_eq_ok.mp hparts
      have hempty : (Text.trimmed query).isEmpty = false := by
        cases h : (Text.trimmed query).isEmpty with
        | true => simp [h] at hall
        | false => rfl
      exact Text.words_trimmed_ne_nil hempty (by simpa [tokens] using htokens)
    simpa [List.map_map, Function.comp_def] using says_join operator hwords hne

/-! ## Ranges -/

theorem isStepwise_textBound {field s : String} {format : Option String} {roundUp : Bool}
    {literal : Literal} (h : textBound field s format roundUp = .ok literal) :
    literal.isStepwise = true := by
  simp only [textBound] at h
  split at h
  · -- a count of time
    cases h
    rfl
  · split at h
    · exact absurd h (by simp)
    · -- date math
      cases h
      exact Kql.isStepwise_moment roundUp _
    · split at h
      · -- a number
        cases h
        rfl
      · split at h
        · -- a date
          cases h
          rfl
        · exact absurd h (by simp)

theorem isStepwise_boundLiteral {field : String} {value : Json} {format : Option String}
    {roundUp : Bool} {literal : Literal}
    (h : boundLiteral field value format roundUp = .ok literal) : literal.isStepwise = true := by
  cases value with
  | number n =>
    simp only [boundLiteral] at h
    split at h
    · cases h
      rfl
    · cases h
      rfl
  | string s => exact isStepwise_textBound h
  | _ => exact absurd h (by simp [boundLiteral])

/-- A test of a bound, with the literal that it compares with. -/
theorem exists_boundTest {field : String} {comparison : Comparison}
    {literal : Except Failure Literal} {p : Predicate}
    (h : (do
      let l ← literal
      .ok (.test (.column field) comparison l)) = Except.ok p) :
    ∃ l, literal = .ok l ∧ p = .test (.column field) comparison l := by
  obtain ⟨l, hl, h⟩ := Outcome.bind_eq_ok.mp h
  cases h
  exact ⟨l, hl, rfl⟩

theorem says_range {field : String} {lower upper : Option Bound} {format : Option String}
    {p : Predicate} (h : rangePredicate field lower upper format = .ok p) :
    Says p fun truth => rangeMeaning truth field lower upper format := by
  cases lower with
  | none =>
    cases upper with
    | none => exact absurd h (by simp [rangePredicate])
    | some u =>
      obtain ⟨l, hl, rfl⟩ := exists_boundTest h
      have htest := says_test field (if u.inclusive then .atMost else .less)
        (isStepwise_boundLiteral hl)
      simpa [rangeMeaning, boundMeaning, hl] using htest
  | some b =>
    cases upper with
    | none =>
      obtain ⟨l, hl, rfl⟩ := exists_boundTest h
      have htest := says_test field (if b.inclusive then .atLeast else .greater)
        (isStepwise_boundLiteral hl)
      simpa [rangeMeaning, boundMeaning, hl] using htest
    | some u =>
      obtain ⟨pl, hpl, h⟩ := Outcome.bind_eq_ok.mp h
      obtain ⟨pu, hpu, h⟩ := Outcome.bind_eq_ok.mp h
      obtain ⟨l, hl, rfl⟩ := exists_boundTest hpl
      obtain ⟨m, hm, rfl⟩ := exists_boundTest hpu
      cases h
      refine ⟨.between _ _ _ _ (isStepwise_boundLiteral hl) (isStepwise_boundLiteral hm),
        fun truth => ?_⟩
      simp only [rangeMeaning, Option.all_some, boundMeaning, hl, hm]
      rfl

/-! ## Boolean combinations -/

/-- The condition on the optional parts. -/
theorem all_shouldParts (truth : Test → Bool) (required : Nat) (parts : List Predicate) :
    (Predicate.truths truth (shouldParts required parts)).all id =
      decide (required ≤ (Predicate.truths truth parts).count true) := by
  have hlen : (Predicate.truths truth parts).length = parts.length := by simp
  have hcount : (Predicate.truths truth parts).count true ≤ parts.length :=
    hlen ▸ List.count_le_length
  unfold shouldParts
  split_ifs with hfew hone hzero
  · have hnot : ¬ required ≤ (Predicate.truths truth parts).count true := by omega
    rw [decide_eq_false hnot]
    rfl
  · subst hone
    have hany : ((Predicate.truths truth parts).any id) =
        decide (1 ≤ (Predicate.truths truth parts).count true) := by
      rw [Bool.eq_iff_iff, List.any_eq_true, decide_eq_true_iff, Nat.succ_le_iff,
        List.count_pos_iff]
      simp
    simp only [Predicate.truths, Predicate.holds, List.all_cons, List.all_nil, Bool.and_true]
    exact hany
  · subst hzero
    simp [Predicate.truths]
  · simp only [Predicate.truths, Predicate.holds, List.all_cons, List.all_nil, Bool.and_true]
    rfl

theorem readable_shouldParts (required : Nat) {parts : List Predicate} (hne : parts ≠ [])
    (h : ∀ part ∈ parts, part.Readable) : ∀ part ∈ shouldParts required parts, part.Readable := by
  unfold shouldParts
  split_ifs with hfew hone hzero
  · intro part hpart
    rw [List.mem_singleton.mp hpart]
    exact .constant false
  · intro part hpart
    rw [List.mem_singleton.mp hpart]
    exact .join .any hne h
  · simp
  · intro part hpart
    rw [List.mem_singleton.mp hpart]
    exact .atLeast required hne h

/-- The queries that some predicates are written for. -/
def meant (queries : List Query) : List ((Test → Bool) → Bool) :=
  queries.map fun query truth => query.meaning truth

theorem map_meant (truth : Test → Bool) (queries : List Query) :
    (meant queries).map (fun m => m truth) = meanings truth queries := by
  induction queries with
  | nil => rfl
  | cons query queries ih => rw [meanings, ← ih]; rfl

theorem isEmpty_iff_parts {parts : List Predicate} {queries : List Query}
    (h : List.Forall₂ Says parts (meant queries)) : parts.isEmpty = queries.isEmpty := by
  cases queries with
  | nil =>
    cases h
    rfl
  | cons query queries =>
    cases h
    rfl

/-- The optional parts of a combination as they stand in its predicate. -/
def optionalParts (hasRequired : Bool) (should : List Predicate) (minimum : Option MinimumMatch) :
    Except Failure (List Predicate) :=
  if should.isEmpty then .ok []
  else (requiredCount hasRequired should.length minimum).map fun required =>
    shouldParts required should

/-- The conditions of a combination side by side. -/
def besides (must filter optional mustNot : List Predicate) : List Predicate :=
  must ++ filter ++ optional ++ mustNot.map Predicate.negation

theorem exists_optionalParts {must filter should mustNot : List Predicate}
    {minimum : Option MinimumMatch} {p : Predicate}
    (h : boolPredicate must filter should mustNot minimum = .ok p) :
    ∃ optional, optionalParts (!must.isEmpty || !filter.isEmpty) should minimum = .ok optional ∧
      p = if (besides must filter optional mustNot).isEmpty then .constant true
        else .join .all (besides must filter optional mustNot) := by
  unfold boolPredicate at h
  unfold optionalParts
  simp only at h
  by_cases hempty : should.isEmpty = true
  · rw [if_pos hempty] at h ⊢
    cases h
    exact ⟨[], rfl, rfl⟩
  · rw [if_neg hempty] at h ⊢
    obtain ⟨required, hrequired, h⟩ := Outcome.bind_eq_ok.mp h
    cases h
    exact ⟨_, by rw [hrequired]; rfl, rfl⟩

theorem optionalParts_says {hasRequired : Bool} {should optional : List Predicate}
    {queries : List Query} {minimum : Option MinimumMatch}
    (h : optionalParts hasRequired should minimum = .ok optional)
    (hshould : List.Forall₂ Says should (meant queries)) :
    (∀ part ∈ optional, part.Readable) ∧ ∀ truth, (Predicate.truths truth optional).all id =
      enough hasRequired minimum (meanings truth queries) := by
  have hlen : ∀ truth, (meanings truth queries).length = should.length := fun truth => by
    rw [← map_meant, List.length_map, hshould.length_eq]
  unfold optionalParts at h
  split_ifs at h with hempty
  · cases h
    refine ⟨by simp, fun truth => ?_⟩
    have hnil : should = [] := by simpa using hempty
    have hmeanings : meanings truth queries = [] := by
      rw [← List.length_eq_zero_iff, hlen truth, hnil]
      rfl
    simp [Predicate.truths, enough, hmeanings]
  · have hne : should ≠ [] := by simpa using hempty
    cases hrequired : requiredCount hasRequired should.length minimum with
    | error e =>
      rw [hrequired] at h
      cases h
    | ok required =>
      rw [hrequired] at h
      cases h
      refine ⟨readable_shouldParts required hne (forall_readable hshould), fun truth => ?_⟩
      have hmeanings : meanings truth queries ≠ [] := by
        rw [ne_eq, ← List.length_eq_zero_iff, hlen truth, List.length_eq_zero_iff]
        exact hne
      have hisEmpty : (meanings truth queries).isEmpty = false := by simpa using hmeanings
      rw [all_shouldParts, truths_of_parts hshould, map_meant, enough, hisEmpty, Bool.false_or,
        hlen truth, hrequired]

/-- A combination says that all its conditions hold. -/
theorem says_bool {must filter should mustNot : List Predicate}
    {musts filters shoulds mustNots : List Query} {minimum : Option MinimumMatch} {p : Predicate}
    (hmust : List.Forall₂ Says must (meant musts))
    (hfilter : List.Forall₂ Says filter (meant filters))
    (hshould : List.Forall₂ Says should (meant shoulds))
    (hmustNot : List.Forall₂ Says mustNot (meant mustNots))
    (h : boolPredicate must filter should mustNot minimum = .ok p) :
    Says p fun truth => (Query.bool musts filters shoulds mustNots minimum).meaning truth := by
  obtain ⟨optional, hparts, rfl⟩ := exists_optionalParts h
  obtain ⟨hreadable, henough⟩ := optionalParts_says hparts hshould
  rw [isEmpty_iff_parts hmust, isEmpty_iff_parts hfilter] at henough
  have hnegations : ∀ truth, (Predicate.truths truth (mustNot.map .negation)).all id =
      (meanings truth mustNots).all (!·) := fun truth => by
    rw [← map_meant, ← truths_of_parts hmustNot]
    simp [Predicate.holds, List.all_map, Function.comp_def]
  have hmeaning : ∀ truth, (Predicate.truths truth (besides must filter optional mustNot)).all id =
      (Query.bool musts filters shoulds mustNots minimum).meaning truth := fun truth => by
    have hsplit : ∀ as bs, Predicate.truths truth (as ++ bs) =
        Predicate.truths truth as ++ Predicate.truths truth bs := fun as bs => by simp
    -- both sides ask for all four groups, in different orders
    rw [besides, hsplit, hsplit, hsplit, List.all_append, List.all_append, List.all_append, henough,
      hnegations, truths_of_parts hmust, truths_of_parts hfilter, map_meant, map_meant, meaning]
    simp only [Bool.and_assoc, Bool.and_comm, Bool.and_left_comm]
  have hall : ∀ part ∈ besides must filter optional mustNot, part.Readable := by
    intro part hpart
    simp only [besides, List.mem_append, List.mem_map] at hpart
    rcases hpart with ((hpart | hpart) | hpart) | ⟨q, hq, rfl⟩
    · exact forall_readable hmust part hpart
    · exact forall_readable hfilter part hpart
    · exact hreadable part hpart
    · exact .negation (forall_readable hmustNot q hq)
  split_ifs with hempty
  · refine ⟨.constant true, fun truth => ?_⟩
    rw [← hmeaning truth, List.isEmpty_iff.mp hempty]
    rfl
  · refine ⟨.join .all (by simpa using hempty) hall, fun truth => ?_⟩
    rw [← hmeaning truth, Predicate.holds]

/-! ## Query trees -/

mutual

/-- The predicate of a query can be read, and holds as the query means. -/
theorem says_predicate : ∀ (query : Query) {p : Predicate}, query.predicate = .ok p →
    Says p fun truth => query.meaning truth
  | .matchAll, _, h => by
    cases h
    exact says_constant true
  | .matchNone, _, h => by
    cases h
    exact says_constant false
  | .bool must filter should mustNot minimum, p, h => by
    obtain ⟨musts, hmust, h⟩ := Outcome.bind_eq_ok.mp h
    obtain ⟨filters, hfilter, h⟩ := Outcome.bind_eq_ok.mp h
    obtain ⟨shoulds, hshould, h⟩ := Outcome.bind_eq_ok.mp h
    obtain ⟨mustNots, hmustNot, h⟩ := Outcome.bind_eq_ok.mp h
    exact says_bool (says_predicates must hmust) (says_predicates filter hfilter)
      (says_predicates should hshould) (says_predicates mustNot hmustNot) h
  | .range _ _ _ _, _, h => says_range h
  | .fullText _ _ _ _, _, h => by
    simp only [meaning]
    exact says_text h
  | .term _ _ _, _, h => says_term h
  | .terms _ _, _, h => says_terms h
  | .present field, _, h => by
    cases h
    exact ⟨.notEmpty field, fun _ => rfl⟩
  | .startsWith field value, _, h => by
    cases h
    exact says_test field .startsWith rfl
  | .wildcard field pattern ignoreCase, _, h => by
    cases h
    exact says_test field .matchesRegex rfl
  | .words _ _ _, _, h => by
    simp only [meaning]
    exact says_words h
  | .unimplemented _, _, h => by cases h

/-- The predicates of queries, one by one. -/
theorem says_predicates : ∀ (queries : List Query) {ps : List Predicate},
    predicates queries = .ok ps → List.Forall₂ Says ps (meant queries)
  | [], _, h => by
    cases h
    exact .nil
  | query :: queries, _, h => by
    obtain ⟨p, hp, h⟩ := Outcome.bind_eq_ok.mp h
    obtain ⟨rest, hrest, h⟩ := Outcome.bind_eq_ok.mp h
    cases h
    exact .cons (says_predicate query hp) (says_predicates queries hrest)

end

/-- The text written for a query is read as an expression that comes to what the query means,
whichever single tests hold. -/
theorem meaning_of_text (query : Query) {p : Predicate} (h : query.predicate = .ok p)
    (truth : Test → Bool) :
    (Kql.Expression.read? p.text).bind (Kql.Expression.truth? truth) =
      some (query.meaning truth) :=
  (says_predicate query h).truth?_text truth

/-- A range stands unbracketed inside brackets of its own, a count of parts beside it. -/
theorem meaning_of_text_range_and_count :
    ∃ p, (Query.bool
        [.range "a" (some ⟨.number (.natural 1), true⟩) (some ⟨.number (.natural 5), false⟩) none]
        [] [.matchNone, .present "b", .startsWith "c" "x"] [.matchNone]
        (some (.count 2))).predicate = .ok p ∧
      (Kql.Expression.read? p.text).bind (Kql.Expression.truth? fun _ => true) = some true :=
  ⟨.join .all [.between (.test (.column "a") .atLeast (.number (.natural 1)))
      (.test (.column "a") .less (.number (.natural 5))),
      .atLeast 2 [.constant false, .notEmpty "b", .test (.column "c") .startsWith (.text "x")],
      .negation (.constant false)],
    rfl,
    meaning_of_text (.bool
      [.range "a" (some ⟨.number (.natural 1), true⟩) (some ⟨.number (.natural 5), false⟩) none]
      [] [.matchNone, .present "b", .startsWith "c" "x"] [.matchNone] (some (.count 2)))
      rfl fun _ => true⟩

end Query

end KustoSearch
