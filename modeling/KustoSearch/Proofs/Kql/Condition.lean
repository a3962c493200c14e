import KustoSearch.Proofs.Kql.Literal

/-! # What a written condition is read as

`Predicate.expression` is the expression that a condition stands for. `Predicate.text_reads` says
that the text of a condition is read as this expression: no part binds to a neighbour that it does
not belong to, at any depth. `Predicate.value?_expression` says what the expression comes to.
-/

namespace KustoSearch.Kql

/-! ## Tests -/

/-- The expression of a target. -/
def Target.expression : Target → Expression
  | .column name => .column name
  | .anyColumn => .star

theorem Target.operandText (t : Target) : OperandText t.text t.expression := by
  cases t with
  | column name => exact operandText_identifier name
  | anyColumn => exact operandText_star

/-- The items of an operator: the first decides which comparison it is, and some operators have
another word behind it. -/
structure IsOperator (c : Comparison) (mark : Item) (more : List Item) : Prop where
  spells : Spells c.text.toList (mark :: more)
  comparator : mark.isComparator = true
  both : mark.isWord "and" = false
  either : mark.isWord "or" = false
  loose : ∀ i ∈ more, i.isLoose = false
  compared : ∀ left right r, Item.IsSum right r →
    Item.compared left mark (more ++ right) = some (.compare c left r)

/-- An operator that is one item. -/
theorem isOperator_single {c : Comparison} {t : Token} (h : Spells c.text.toList [.token t])
    (hcomparison : (Item.token t).comparison? = some c) (hregex : c ≠ .matchesRegex)
    (hand : (Item.token t).isWord "and" = false) (hor : (Item.token t).isWord "or" = false) :
    IsOperator c (.token t) [] := by
  refine ⟨h, by simp [Item.isComparator, hcomparison], hand, hor, by simp, ?_⟩
  intro left right r hright
  unfold Item.compared
  rw [List.nil_append, hcomparison]
  cases c with
  | matchesRegex => exact absurd rfl hregex
  | _ => simp [hright.read]

/-- The operator of a regular expression has two words. -/
theorem isOperator_matchesRegex :
    IsOperator .matchesRegex (.token (.name "matches")) [.token (.name "regex")] := by
  have htext : Comparison.matchesRegex.text.toList =
      "matches".toList ++ ' ' :: "regex".toList := by decide
  refine ⟨?_, by decide, by decide, by decide, ?_, ?_⟩
  · rw [htext]
    exact (spells_word "matches" (by decide)).append_blank (spells_word "regex" (by decide))
  · intro i hi
    rw [List.mem_singleton.mp hi]
    decide
  · intro left right r hright
    have hregex : (Item.token (.name "regex")).isWord "regex" = true := by decide
    have hmatches : (Item.token (.name "matches")).comparison? = some .matchesRegex := by decide
    unfold Item.compared
    rw [hmatches]
    simp [hregex, hright.read]

/-- Every comparison has an operator. -/
theorem exists_isOperator (c : Comparison) : ∃ mark more, IsOperator c mark more := by
  have hsign (a : Char) (as : List Char) (ha : Lexer.isComparisonChar a = true)
      (has : as.all Lexer.isComparisonChar = true) (htext : c.text.toList = a :: as) :
      Spells c.text.toList [.token (.mark (String.ofList (a :: as)))] := by
    rw [htext]
    exact spells_comparison ha (List.all_eq_true.mp has)
  cases c with
  | equal =>
    exact ⟨_, _, isOperator_single (hsign '=' ['='] rfl rfl (by decide)) rfl (by decide) rfl rfl⟩
  | equalIgnoringCase =>
    exact ⟨_, _, isOperator_single (hsign '=' ['~'] rfl rfl (by decide)) rfl (by decide) rfl rfl⟩
  | less =>
    exact ⟨_, _, isOperator_single (hsign '<' [] rfl rfl (by decide)) rfl (by decide) rfl rfl⟩
  | atMost =>
    exact ⟨_, _, isOperator_single (hsign '<' ['='] rfl rfl (by decide)) rfl (by decide) rfl rfl⟩
  | greater =>
    exact ⟨_, _, isOperator_single (hsign '>' [] rfl rfl (by decide)) rfl (by decide) rfl rfl⟩
  | atLeast =>
    exact ⟨_, _, isOperator_single (hsign '>' ['='] rfl rfl (by decide)) rfl (by decide) rfl rfl⟩
  | hasTerm =>
    exact ⟨_, _, isOperator_single (spells_word "has" (by decide)) rfl (by decide) rfl rfl⟩
  | hasTermFrom =>
    exact ⟨_, _, isOperator_single (spells_word "hasprefix" (by decide)) rfl (by decide) rfl rfl⟩
  | startsWith =>
    exact ⟨_, _, isOperator_single (spells_word "startswith_cs" (by decide)) rfl (by decide) rfl rfl⟩
  | matchesRegex => exact ⟨_, _, isOperator_matchesRegex⟩

/-- Two sums with an operator between them. -/
theorem SumText.compare {s t : String} {l r : Expression} (c : Comparison) (hl : SumText s l)
    (hr : SumText t r) : ComparisonText (s ++ " " ++ c.text ++ " " ++ t) (.compare c l r) := by
  obtain ⟨left, hs, hleft⟩ := hl
  obtain ⟨right, ht, hright⟩ := hr
  obtain ⟨mark, more, hop⟩ := exists_isOperator c
  have htext : (s ++ " " ++ c.text ++ " " ++ t).toList =
      s.toList ++ ' ' :: (c.text.toList ++ ' ' :: t.toList) := by simp
  have hloose : ∀ i ∈ more ++ right, i.isLoose = false := fun i hi =>
    (List.mem_append.mp hi).elim (hop.loose i) (hright.loose i)
  refine ⟨left ++ (mark :: more ++ right), ?_, ?_⟩
  · rw [htext]
    exact hs.append_blank (hop.spells.append_blank ht)
  · exact hleft.isComparison_append hop.comparator hop.both hop.either hloose
      (hop.compared l right r hright)

/-- Membership of a column in a list. -/
theorem ListText.oneOf {s : String} {es : List Expression} (column : String)
    (h : ListText s es) :
    ComparisonText (identifier column ++ " in (" ++ s ++ ")") (.oneOf (.column column) es) := by
  obtain ⟨left, hs, hleft⟩ := (operandText_identifier column).sum
  have htext : (identifier column ++ " in (" ++ s ++ ")").toList =
      (identifier column).toList ++ ' ' :: ("in".toList ++ ' ' :: '(' :: (s.toList ++ [')'])) := by
    simp
  have hin : (Item.token (.name "in")).isComparator = true := by decide
  have hgroup : ∀ i ∈ [Item.group es], i.isLoose = false := by
    intro i hi
    rw [List.mem_singleton.mp hi]
    rfl
  refine ⟨left ++ ([.token (.name "in")] ++ [.group es]), ?_, ?_⟩
  · rw [htext]
    exact hs.append_blank ((spells_word "in" (by decide)).append_blank h.group)
  · exact hleft.isComparison_append hin (by decide) (by decide) hgroup (by rfl)

/-! ## Parts side by side -/

/-- Texts with a word and blanks between them. -/
theorem spells_join {word : String} {mark : Item} (hword : Spells word.toList [mark])
    {texts : List String} {parts : List (List Item)}
    (h : List.Forall₂ (fun s items => Spells s.toList items) texts parts) :
    Spells (Text.join (" " ++ word ++ " ") texts).toList (Item.separated mark parts) := by
  induction h with
  | nil => exact spells_nil
  | @cons text part texts parts htext htexts ih =>
    cases htexts with
    | nil => exact htext
    | @cons next nextPart texts parts hnext htexts =>
      have hsplit : (Text.join (" " ++ word ++ " ") (text :: next :: texts)).toList =
          text.toList ++ ' ' :: (word.toList ++
            ' ' :: (Text.join (" " ++ word ++ " ") (next :: texts)).toList) := by
        simp [Text.join]
      rw [hsplit]
      exact htext.append_blank (hword.append_blank ih)

/-- The items of several texts that are read at one level. -/
theorem exists_parts {level : List Item → Expression → Prop} {texts : List String}
    {es : List Expression}
    (h : List.Forall₂ (fun s e => ∃ items, Spells s.toList items ∧ level items e) texts es) :
    ∃ parts, List.Forall₂ (fun s items => Spells s.toList items) texts parts ∧
      List.Forall₂ level parts es := by
  induction h with
  | nil => exact ⟨[], .nil, .nil⟩
  | cons hfirst _ ih =>
    obtain ⟨items, hs, he⟩ := hfirst
    obtain ⟨parts, htexts, hparts⟩ := ih
    exact ⟨items :: parts, .cons hs htexts, .cons he hparts⟩

/-- Parts joined by a connective; one part stands for itself. -/
def joinExpressions (connective : Connective) : List Expression → Expression
  | [e] => e
  | es =>
    match connective with
    | .all => .all es
    | .any => .any es

/-- Comparisons with the word of a connective between them. -/
theorem conditionText_connective {texts : List String} {es : List Expression}
    (connective : Connective) (h : List.Forall₂ ComparisonText texts es) (hlen : 2 ≤ es.length) :
    ConditionText (Text.join (" " ++ connective.word ++ " ") texts)
      (match connective with
        | .all => .all es
        | .any => .any es) := by
  obtain ⟨parts, htexts, hparts⟩ := exists_parts h
  cases connective with
  | all =>
    exact ⟨_, spells_join (spells_word "and" (by decide)) htexts, Item.expression_all hparts hlen⟩
  | any =>
    exact ⟨_, spells_join (spells_word "or" (by decide)) htexts, Item.expression_any hparts hlen⟩

/-- Parts of any kind that are joined as conditions are. -/
theorem conditionText_joinTexts {texts : List String} {es : List Expression}
    (connective : Connective) (h : List.Forall₂ ConditionText texts es) (hne : texts ≠ []) :
    ConditionText (joinTexts connective.word texts) (joinExpressions connective es) := by
  have hgroups : List.Forall₂ ComparisonText (texts.map fun s => "(" ++ s ++ ")") es := by
    rw [List.forall₂_map_left_iff]
    exact h.imp fun _ _ htext => htext.group.sum.comparison
  cases h with
  | nil => exact absurd rfl hne
  | cons hfirst hrest =>
    cases hrest with
    | nil => exact hfirst
    | cons hnext hrest => exact conditionText_connective connective hgroups (by simp)

/-- Two comparisons without brackets. -/
theorem ComparisonText.between {s t : String} {l u : Expression} (hl : ComparisonText s l)
    (hu : ComparisonText t u) : ConditionText (s ++ " and " ++ t) (.all [l, u]) := by
  have htext : Text.join (" " ++ Connective.all.word ++ " ") [s, t] = s ++ " and " ++ t := by
    rw [← String.toList_inj]
    simp [Text.join, Connective.word]
  have hjoin := conditionText_connective .all (.cons hl (.cons hu .nil)) (by simp)
  rwa [htext] at hjoin

theorem spells_plus : Spells "+".toList [.token (.mark "+")] := spells_nil.sign (by decide)

/-- The number of parts that hold. -/
def countExpression : List Expression → Expression
  | [] => .number "0"
  | e :: es => (es.map fun e => .call "toint" [e]).foldl .plus (.call "toint" [e])

theorem sumText_count {texts : List String} {es : List Expression}
    (h : List.Forall₂ ConditionText texts es) (hne : texts ≠ []) :
    SumText (Text.join " + " (texts.map fun s => "toint(" ++ s ++ ")")) (countExpression es) := by
  have hcalls : List.Forall₂ OperandText (texts.map fun s => "toint(" ++ s ++ ")")
      (es.map fun e => .call "toint" [e]) := by
    rw [List.forall₂_map_left_iff, List.forall₂_map_right_iff]
    exact h.imp fun _ _ htext =>
      htext.call "toint(" "toint" (by decide) (by decide) (by decide)
  obtain ⟨parts, htexts, hparts⟩ := exists_parts hcalls
  cases h with
  | nil => exact absurd rfl hne
  | cons hfirst hrest =>
    cases hparts with
    | cons hpart hparts =>
      exact ⟨_, spells_join spells_plus htexts, Item.isSum_separated hpart hparts⟩

/-! ## Conditions -/

mutual

/-- The expression of a predicate. -/
def Predicate.expression : Predicate → Expression
  | .constant b => .name (if b then "true" else "false")
  | .test target comparison literal =>
    .compare comparison target.expression literal.expression
  | .oneOf column literals => .oneOf (.column column) (literals.map Literal.expression)
  | .notEmpty column => .call "isnotempty" [.column column]
  | .between lower upper => .all [lower.expression, upper.expression]
  | .join connective parts => joinExpressions connective (Predicate.expressions parts)
  | .atLeast count parts =>
    .compare .atLeast (countExpression (Predicate.expressions parts))
      (.number (Text.naturalText count))
  | .negation part => .call "not" [part.expression]

/-- The expressions of predicates. -/
def Predicate.expressions : List Predicate → List Expression
  | [] => []
  | part :: parts => part.expression :: Predicate.expressions parts

end

/-- Predicates whose texts can be read: no connective is without parts, only tests stand side by
side without brackets, and points in time are reached by calendar steps. -/
inductive Predicate.Readable : Predicate → Prop where
  | constant (b : Bool) : Readable (.constant b)
  | test (target : Target) (comparison : Comparison) {literal : Literal}
      (hliteral : literal.isStepwise = true) : Readable (.test target comparison literal)
  | oneOf (column : String) {literals : List Literal} (hne : literals ≠ [])
      (hliterals : ∀ l ∈ literals, l.isStepwise = true) : Readable (.oneOf column literals)
  | notEmpty (column : String) : Readable (.notEmpty column)
  | between (target target' : Target) (comparison comparison' : Comparison)
      {lower upper : Literal} (hlower : lower.isStepwise = true)
      (hupper : upper.isStepwise = true) :
      Readable (.between (.test target comparison lower) (.test target' comparison' upper))
  | join (connective : Connective) {parts : List Predicate} (hne : parts ≠ [])
      (hparts : ∀ part ∈ parts, Readable part) : Readable (.join connective parts)
  | atLeast (count : Nat) {parts : List Predicate} (hne : parts ≠ [])
      (hparts : ∀ part ∈ parts, Readable part) : Readable (.atLeast count parts)
  | negation {part : Predicate} (hpart : Readable part) : Readable (.negation part)

namespace Predicate

@[simp] theorem texts_eq_map (parts : List Predicate) : texts parts = parts.map text := by
  induction parts with
  | nil => rfl
  | cons part parts ih => rw [texts, ih, List.map_cons]

@[simp] theorem expressions_eq_map (parts : List Predicate) :
    expressions parts = parts.map expression := by
  induction parts with
  | nil => rfl
  | cons part parts ih => rw [expressions, ih, List.map_cons]

theorem comparisonText_test (target : Target) (comparison : Comparison) {literal : Literal}
    (h : literal.isStepwise = true) :
    ComparisonText (Predicate.test target comparison literal).text
      (Predicate.test target comparison literal).expression := by
  rw [text, expression]
  exact target.operandText.sum.compare comparison (literal.sumText h)

/-- Parts that are read one by one are read as the parts of a list. -/
theorem forall₂_conditionText {parts : List Predicate}
    (h : ∀ part ∈ parts, ConditionText part.text part.expression) :
    List.Forall₂ ConditionText (texts parts) (expressions parts) := by
  rw [texts_eq_map, expressions_eq_map, List.forall₂_map_left_iff, List.forall₂_map_right_iff,
    List.forall₂_same]
  exact h

/-- The text of a predicate is read as its expression. -/
theorem conditionText {p : Predicate} (h : p.Readable) : ConditionText p.text p.expression := by
  induction h with
  | constant b =>
    rw [text, expression]
    exact (operandText_constant b).sum.condition
  | test target comparison hliteral =>
    exact (comparisonText_test target comparison hliteral).condition
  | @oneOf column literals hne hliterals =>
    rw [text, expression]
    have hlist : List.Forall₂ ConditionText (literals.map Literal.chars)
        (literals.map Literal.expression) := by
      rw [List.forall₂_map_left_iff, List.forall₂_map_right_iff, List.forall₂_same]
      exact fun l hl => (l.sumText (hliterals l hl)).condition
    exact ((listText_join hlist (by simpa using hne)).oneOf column).condition
  | notEmpty column =>
    rw [text, expression]
    have hcolumn := (operandText_identifier column).sum.condition
    exact (hcolumn.call "isnotempty(" "isnotempty" (by decide) (by decide)
      (by decide)).sum.condition
  | between target target' comparison comparison' hlower hupper =>
    rw [text, expression]
    exact (comparisonText_test target comparison hlower).between
      (comparisonText_test target' comparison' hupper)
  | join connective hne _ ih =>
    rw [text, expression]
    exact conditionText_joinTexts connective (forall₂_conditionText ih) (by simpa using hne)
  | @atLeast count parts hne _ ih =>
    -- the parts are summed up as numbers, and the sum is compared with the count
    rw [expression]
    have hnumber : SumText (Text.naturalText count) (.number (Text.naturalText count)) := by
      have hnumeral := isNumeral_decimal count [] (by simp)
      rw [List.append_nil] at hnumeral
      exact (operandText_number hnumeral).sum
    have hcount := sumText_count (forall₂_conditionText ih) (by simpa using hne)
    have htext : (Predicate.atLeast count parts).text =
        Text.join " + " ((texts parts).map fun s => "toint(" ++ s ++ ")") ++ " " ++
          Comparison.atLeast.text ++ " " ++ Text.naturalText count := by
      rw [text, ← String.toList_inj]
      simp [Comparison.text]
    rw [htext]
    exact (hcount.compare .atLeast hnumber).condition
  | negation _ ih =>
    rw [text, expression]
    exact (ih.call "not(" "not" (by decide) (by decide) (by decide)).sum.condition

/-- Reading the text of a predicate gives its expression. -/
theorem read?_text {p : Predicate} (h : p.Readable) :
    Expression.read? p.text = some p.expression :=
  (conditionText h).read?_eq

mutual

/-- Whether a predicate holds, given which tests do. -/
def holds (truth : Test → Bool) : Predicate → Bool
  | .constant b => b
  | .test target comparison literal => truth (.holds target comparison literal.expression)
  | .oneOf column literals =>
    literals.any fun l => truth (.holds (.column column) .equal l.expression)
  | .notEmpty column => truth (.notEmpty column)
  | .between lower upper => lower.holds truth && upper.holds truth
  | .join .all parts => (truths truth parts).all id
  | .join .any parts => (truths truth parts).any id
  | .atLeast count parts => count ≤ (truths truth parts).count true
  | .negation part => !part.holds truth

/-- Which of some predicates hold. -/
def truths (truth : Test → Bool) : List Predicate → List Bool
  | [] => []
  | part :: parts => part.holds truth :: truths truth parts

end

@[simp] theorem truths_eq_map (truth : Test → Bool) (parts : List Predicate) :
    truths truth parts = parts.map (holds truth) := by
  induction parts with
  | nil => rfl
  | cons part parts ih => rw [truths, ih, List.map_cons]

end Predicate

/-! ## What expressions come to -/

namespace Expression

theorem target?_expression (t : Target) : t.expression.target? = some t := by
  cases t <;> rfl

/-- What comes to a value by itself is no target. -/
theorem target?_of_value? {truth : Test → Bool} {e : Expression} {v : Value}
    (h : e.value? truth = some v) : e.target? = none := by
  cases e with
  | column name => simp [value?] at h
  | star => simp [value?] at h
  | _ => rfl

/-- A list of conditions, when each of them comes to a truth. -/
theorem values?_of_truths {truth : Test → Bool} {es : List Expression} {bs : List Bool}
    (h : List.Forall₂ (fun e b => e.value? truth = some (.truth b)) es bs) :
    values? truth es = some (bs.map .truth) := by
  induction h with
  | nil => rfl
  | cons hfirst _ ih => simp [values?, hfirst, ih]

theorem mapM_truth? (bs : List Bool) : (bs.map Value.truth).mapM Value.truth? = some bs := by
  induction bs with
  | nil => rfl
  | cons b bs ih => simp [List.mapM_cons, Value.truth?, ih]

theorem value?_all {truth : Test → Bool} {es : List Expression} {bs : List Bool}
    (h : List.Forall₂ (fun e b => e.value? truth = some (.truth b)) es bs) :
    (Expression.all es).value? truth = some (.truth (bs.all id)) := by
  rw [value?, values?_of_truths h]
  simp only [Option.bind_eq_bind, Option.bind_some, mapM_truth?]

theorem value?_any {truth : Test → Bool} {es : List Expression} {bs : List Bool}
    (h : List.Forall₂ (fun e b => e.value? truth = some (.truth b)) es bs) :
    (Expression.any es).value? truth = some (.truth (bs.any id)) := by
  rw [value?, values?_of_truths h]
  simp only [Option.bind_eq_bind, Option.bind_some, mapM_truth?]

/-- One part alone is all of one, and any of one. -/
theorem value?_joinExpressions {truth : Test → Bool} (connective : Connective)
    {es : List Expression} {bs : List Bool}
    (h : List.Forall₂ (fun e b => e.value? truth = some (.truth b)) es bs) :
    (joinExpressions connective es).value? truth = some (.truth (match connective with
      | .all => bs.all id
      | .any => bs.any id)) := by
  cases h with
  | nil =>
    cases connective with
    | all => exact value?_all .nil
    | any => exact value?_any .nil
  | @cons e b es bs hfirst hrest =>
    cases hrest with
    | nil => cases connective <;> simp [joinExpressions, hfirst]
    | cons hnext hrest =>
      cases connective with
      | all => exact value?_all (.cons hfirst (.cons hnext hrest))
      | any => exact value?_any (.cons hfirst (.cons hnext hrest))

theorem value?_toint {truth : Test → Bool} {e : Expression} {b : Bool}
    (h : e.value? truth = some (.truth b)) :
    (Expression.call "toint" [e]).value? truth = some (.number (if b then 1 else 0)) := by
  simp [value?, values?, h]

/-- Adding up truths as numbers counts those that hold. -/
theorem value?_foldl_plus {truth : Test → Bool} {es : List Expression} {bs : List Bool}
    (h : List.Forall₂ (fun e b => e.value? truth = some (.truth b)) es bs) {start : Expression}
    {n : Nat} (hstart : start.value? truth = some (.number n)) :
    ((es.map fun e => Expression.call "toint" [e]).foldl .plus start).value? truth =
      some (.number (n + bs.count true : Nat)) := by
  induction h generalizing start n with
  | nil => simpa using hstart
  | @cons e b es bs hfirst _ ih =>
    have hnext : (Expression.plus start (.call "toint" [e])).value? truth =
        some (.number ((n + if b then 1 else 0 : Nat) : Int)) := by
      rw [value?, hstart, value?_toint hfirst]
      cases b <;> simp
    rw [List.map_cons, List.foldl_cons, ih hnext]
    cases b with
    | true => simp [Nat.add_comm, Nat.add_left_comm]
    | false => simp

theorem value?_countExpression {truth : Test → Bool} {es : List Expression} {bs : List Bool}
    (h : List.Forall₂ (fun e b => e.value? truth = some (.truth b)) es bs) (hne : es ≠ []) :
    (countExpression es).value? truth = some (.number (bs.count true : Nat)) := by
  cases h with
  | nil => exact absurd rfl hne
  | @cons e b es bs hfirst hrest =>
    have hstart : (Expression.call "toint" [e]).value? truth =
        some (.number ((if b then 1 else 0 : Nat) : Int)) := by
      rw [value?_toint hfirst]
      cases b <;> rfl
    rw [countExpression, value?_foldl_plus hrest hstart]
    cases b with
    | true => simp [Nat.add_comm]
    | false => simp

end Expression

/-- The expression of a predicate comes to whether the predicate holds. -/
theorem Predicate.value?_expression {p : Predicate} (h : p.Readable) (truth : Test → Bool) :
    p.expression.value? truth = some (.truth (p.holds truth)) := by
  have hparts : ∀ parts : List Predicate,
      (∀ part ∈ parts, part.expression.value? truth = some (.truth (part.holds truth))) →
      List.Forall₂ (fun e b => e.value? truth = some (.truth b)) (expressions parts)
        (truths truth parts) := by
    intro parts hall
    rw [expressions_eq_map, truths_eq_map, List.forall₂_map_left_iff, List.forall₂_map_right_iff,
      List.forall₂_same]
    exact hall
  induction h with
  | constant b => cases b <;> simp [expression, holds, Expression.value?]
  | test target comparison _ =>
    simp [expression, holds, Expression.value?, Expression.target?_expression]
  | oneOf column _ _ =>
    simp [expression, holds, Expression.value?, Expression.target?, List.any_map, Function.comp_def]
  | notEmpty column => simp [expression, holds, Expression.value?]
  | between target target' comparison comparison' _ _ =>
    simp [expression, holds, Expression.value?, Expression.values?,
      Expression.target?_expression, Value.truth?]
  | join connective _ _ ih =>
    rw [expression, Expression.value?_joinExpressions connective (hparts _ ih)]
    cases connective <;> rfl
  | @atLeast count parts hne _ ih =>
    have hcount := Expression.value?_countExpression (hparts _ ih) (by simpa using hne)
    rw [expression, holds, Expression.value?, Expression.target?_of_value? hcount]
    simp only
    rw [hcount]
    simp [Expression.value?, Comparison.ofNumbers?]
  | negation _ ih => simp [expression, holds, Expression.value?, Expression.values?, ih]

/-- The text of a predicate, read and evaluated, says whether the predicate holds. -/
theorem Predicate.truth?_text {p : Predicate} (h : p.Readable) (truth : Test → Bool) :
    (Expression.read? p.text).bind (Expression.truth? truth) = some (p.holds truth) := by
  rw [p.read?_text h, Option.bind_some, Expression.truth?, p.value?_expression h truth]
  rfl

end KustoSearch.Kql
