import KustoSearch.DateMath
import KustoSearch.Kql.Predicate
import KustoSearch.Proofs.Decimal.Layout
import KustoSearch.Proofs.Kql.Reading

/-! # What a written literal is read as

Texts at the levels of precedence, and the texts of numbers, points in time and other literals:
`Literal.sumText` says that a literal of a condition is read as the expression it stands for.
-/

namespace KustoSearch.Kql

/-! ## Texts at the levels of precedence -/

/-- A text that is read as something that binds closest. -/
def OperandText (s : String) (e : Expression) : Prop :=
  ∃ items, Spells s.toList items ∧ Item.IsOperand items e

/-- A text that is read as a sum. -/
def SumText (s : String) (e : Expression) : Prop :=
  ∃ items, Spells s.toList items ∧ Item.IsSum items e

/-- A text that is read as a comparison. -/
def ComparisonText (s : String) (e : Expression) : Prop :=
  ∃ items, Spells s.toList items ∧ Item.IsComparison items e

/-- A text that is read as a whole expression. -/
def ConditionText (s : String) (e : Expression) : Prop :=
  ∃ items, Spells s.toList items ∧ Item.expression items = some e

/-- A text that is read as the arguments of a call. -/
def ListText (s : String) (es : List Expression) : Prop := SpellsList s.toList es

theorem OperandText.sum {s : String} {e : Expression} (h : OperandText s e) : SumText s e := by
  obtain ⟨items, hs, he⟩ := h
  exact ⟨items, hs, he.isSum⟩

theorem SumText.comparison {s : String} {e : Expression} (h : SumText s e) :
    ComparisonText s e := by
  obtain ⟨items, hs, he⟩ := h
  exact ⟨items, hs, he.isComparison⟩

theorem ComparisonText.condition {s : String} {e : Expression} (h : ComparisonText s e) :
    ConditionText s e := by
  obtain ⟨items, hs, he⟩ := h
  exact ⟨items, hs, he.expression_eq⟩

theorem SumText.condition {s : String} {e : Expression} (h : SumText s e) : ConditionText s e :=
  h.comparison.condition

theorem ConditionText.read?_eq {s : String} {e : Expression} (h : ConditionText s e) :
    Expression.read? s = some e := by
  obtain ⟨items, hs, he⟩ := h
  exact hs.read?_eq he

/-- A single token that is an operand. -/
theorem operandText_token {s : String} {t : Token} {e : Expression}
    (h : Spells s.toList [.token t]) (he : Item.operand [.token t] = some e)
    (hsign : (Item.token t).isSign = false) (hloose : (Item.token t).isLoose = false) :
    OperandText s e := by
  refine ⟨_, h, he, fun i hi => ?_, fun i hi => ?_⟩
  · rw [List.mem_singleton.mp hi]
    exact hsign
  · rw [List.mem_singleton.mp hi]
    exact hloose

theorem operandText_identifier (name : String) : OperandText (identifier name) (.column name) :=
  operandText_token (spells_column name) rfl rfl rfl

theorem operandText_textLiteral (s : String) : OperandText (textLiteral s) (.text s) :=
  operandText_token (spells_text s) rfl rfl rfl

theorem operandText_number {cs : List Char} (h : IsNumeral cs) :
    OperandText (String.ofList cs) (.number (String.ofList cs)) := by
  have hspells : Spells (String.ofList cs).toList [.token (.number (String.ofList cs))] := by
    rw [String.toList_ofList]
    exact h.spells
  exact operandText_token hspells rfl rfl rfl

/-- Words that are no operators. -/
theorem operandText_word (word : String) (h : isWord word.toList = true)
    (hloose : (Item.token (.name word)).isLoose = false) : OperandText word (.name word) :=
  operandText_token (spells_word word h) rfl rfl hloose

theorem operandText_star : OperandText "*" .star :=
  operandText_token spells_star rfl (by decide) (by decide)

theorem ConditionText.list {s : String} {e : Expression} (h : ConditionText s e) :
    ListText s [e] := by
  obtain ⟨items, hs, he⟩ := h
  exact hs.list_singleton he

theorem ConditionText.list_cons {s t : String} {e : Expression} {es : List Expression}
    (h : ConditionText s e) (hlist : ListText t es) : ListText (s ++ ", " ++ t) (e :: es) := by
  obtain ⟨items, hs, he⟩ := h
  have htext : (s ++ ", " ++ t).toList = s.toList ++ ',' :: ' ' :: t.toList := by simp
  rw [ListText, htext]
  exact hs.list_cons he hlist

/-- Texts with commas between them. -/
theorem listText_join {texts : List String} {es : List Expression}
    (h : List.Forall₂ ConditionText texts es) (hne : texts ≠ []) :
    ListText (Text.join ", " texts) es := by
  induction h with
  | nil => exact absurd rfl hne
  | @cons text e texts es htext htexts ih =>
    cases htexts with
    | nil => exact htext.list
    | cons hnext htexts => exact htext.list_cons (ih (by simp))

/-- A call of a function, whose name opens a bracket. -/
theorem ListText.call {s : String} {es : List Expression} (opening function : String)
    (hopening : opening.toList = function.toList ++ ['(']) (hword : isWord function.toList = true)
    (hloose : (Item.token (.name function)).isLoose = false) (h : ListText s es) :
    OperandText (opening ++ s ++ ")") (.call function es) := by
  have htext : (opening ++ s ++ ")").toList =
      function.toList ++ '(' :: (s.toList ++ [')']) := by simp [hopening]
  refine ⟨[.token (.name function), .group es], ?_, ?_, fun i hi => ?_, fun i hi => ?_⟩
  · rw [htext]
    exact Spells.call function hword h.group
  · rfl
  · rcases List.mem_pair.mp hi with rfl | rfl <;> rfl
  · rcases List.mem_pair.mp hi with rfl | rfl
    · exact hloose
    · rfl

/-- A call with one argument. -/
theorem ConditionText.call {s : String} {e : Expression} (opening function : String)
    (hopening : opening.toList = function.toList ++ ['(']) (hword : isWord function.toList = true)
    (hloose : (Item.token (.name function)).isLoose = false) (h : ConditionText s e) :
    OperandText (opening ++ s ++ ")") (.call function [e]) :=
  h.list.call opening function hopening hword hloose

/-- Brackets around a condition. -/
theorem ConditionText.group {s : String} {e : Expression} (h : ConditionText s e) :
    OperandText ("(" ++ s ++ ")") e := by
  have htext : ("(" ++ s ++ ")").toList = '(' :: (s.toList ++ [')']) := by simp
  obtain ⟨items, hs, he⟩ := h
  refine ⟨[.group [e]], ?_, rfl, fun i hi => ?_, fun i hi => ?_⟩
  · rw [htext]
    exact hs.group he
  · rw [List.mem_singleton.mp hi]
    rfl
  · rw [List.mem_singleton.mp hi]
    rfl

/-! ## Numbers -/

/-- A numeral, with a sign before it when it is negative. -/
def signedExpression (isNegative : Bool) (numeral : List Char) : Expression :=
  if isNegative then .negative (.number (String.ofList numeral))
  else .number (String.ofList numeral)

/-- A whole number. -/
def integerExpression (n : Int) : Expression :=
  signedExpression (n < 0) (Text.decimal n.natAbs)

/-- A floating-point number in a layout. -/
def layoutExpression (layout : Decimal.Layout) (x : Binary64) : Expression :=
  signedExpression x.isNegative (layout.magnitudeText (Decimal.shortest layout.tie x))

/-- A number of a document. -/
def numberExpression : Number → Expression
  | .natural n => .number (String.ofList (Text.decimal n.toNat))
  | .negative k => .negative (.number (String.ofList (Text.decimal (k + 1))))
  | .double x => layoutExpression Number.doubleLayout x

/-- A timespan. -/
def Span.expression (s : Span) : Expression :=
  signedExpression (s.count < 0) (Text.decimal s.count.natAbs ++ s.unit.mark.toList)

/-- The parts of a written magnitude are those of a numeral. -/
theorem numeralParts_of_spells {p : Decimal.Parts} {text : List Char} (h : p.Spells text) :
    ∃ fraction tail, text = p.whole ++ fraction ++ tail ++ [] ∧
      NumeralParts p.whole fraction tail [] := by
  obtain ⟨tail, htail, htext⟩ := h.text
  refine ⟨Decimal.pointed p.fraction, tail, by rw [htext, List.append_nil], h.whole, ?_, ?_, ?_⟩
  · unfold Decimal.pointed
    split_ifs with hnil
    · exact Or.inl rfl
    · exact Or.inr ⟨p.fraction, ⟨hnil, h.fraction⟩, rfl⟩
  · generalize p.exponent = exponent at htail
    cases htail with
    | none => exact Or.inl rfl
    | plain n => exact Or.inr ⟨[], _, by simp, Text.isDigits_decimal n, rfl⟩
    | plus n => exact Or.inr ⟨['+'], _, by simp, Text.isDigits_decimal n, rfl⟩
    | minus n => exact Or.inr ⟨['-'], _, by simp, Text.isDigits_decimal n, rfl⟩
  · simp

theorem isNumeral_magnitudeText (layout : Decimal.Layout) (d : Decimal.Numeral) :
    IsNumeral (layout.magnitudeText d) := by
  obtain ⟨p, hp, _⟩ := layout.magnitudeText_spells d
  obtain ⟨fraction, tail, htext, hparts⟩ := numeralParts_of_spells hp
  rw [htext]
  exact hparts.isNumeral

/-- Digits with a unit behind them, or without one. -/
theorem isNumeral_decimal (n : Nat) (unit : List Char) (h : ∀ c ∈ unit,
      Lexer.isNameChar c = true ∧ Text.isDigit c = false ∧ c ≠ 'e' ∧ c ≠ 'E') :
    IsNumeral (Text.decimal n ++ unit) := by
  have hparts : NumeralParts (Text.decimal n) [] [] unit :=
    ⟨Text.isDigits_decimal n, Or.inl rfl, Or.inl rfl, h⟩
  simpa using hparts.isNumeral

theorem sumText_negative {cs : List Char} (h : IsNumeral cs) :
    SumText (String.ofList ('-' :: cs)) (.negative (.number (String.ofList cs))) := by
  obtain ⟨items, hs, he⟩ := operandText_number h
  rw [String.toList_ofList] at hs
  refine ⟨_, ?_, he.negative⟩
  rw [String.toList_ofList]
  exact hs.sign (by decide)

/-- A numeral behind the sign that it may have. -/
theorem sumText_signed {cs : List Char} (isNegative : Bool) (h : IsNumeral cs) :
    SumText (String.ofList ((if isNegative then ['-'] else []) ++ cs))
      (signedExpression isNegative cs) := by
  cases isNegative with
  | true => exact sumText_negative h
  | false => exact (operandText_number h).sum

theorem sumText_integer (n : Int) : SumText (Text.integerText n) (integerExpression n) := by
  have hnumeral : IsNumeral (Text.decimal n.natAbs) := by
    simpa using isNumeral_decimal n.natAbs [] (by simp)
  have h := sumText_signed (decide (n < 0)) hnumeral
  have htext : String.ofList ((if decide (n < 0) then ['-'] else []) ++ Text.decimal n.natAbs) =
      Text.integerText n := by
    rw [← String.toList_inj]
    by_cases hn : n < 0
    · simp [Text.integerText, hn]
    · simp [Text.integerText, hn]
  rwa [htext] at h

theorem sumText_layout (layout : Decimal.Layout) (x : Binary64) :
    SumText (String.ofList (layout.text x)) (layoutExpression layout x) :=
  sumText_signed x.isNegative (isNumeral_magnitudeText layout _)

theorem sumText_numberText (n : Number) : SumText n.text (numberExpression n) := by
  have hdecimal : ∀ k : Nat, IsNumeral (Text.decimal k) := fun k => by
    simpa using isNumeral_decimal k [] (by simp)
  cases n with
  | natural n => exact (operandText_number (hdecimal n.toNat)).sum
  | negative k => exact sumText_negative (hdecimal (k + 1))
  | double x => exact sumText_layout Number.doubleLayout x

theorem SpanUnit.mark_chars (u : SpanUnit) : ∀ c ∈ u.mark.toList,
    Lexer.isNameChar c = true ∧ Text.isDigit c = false ∧ c ≠ 'e' ∧ c ≠ 'E' := by
  cases u <;> simp [SpanUnit.mark, Lexer.isNameChar, Text.isDigit]

theorem sumText_span (s : Span) : SumText s.text s.expression := by
  have h := sumText_signed (decide (s.count < 0))
    (isNumeral_decimal s.count.natAbs _ s.unit.mark_chars)
  have htext : String.ofList ((if decide (s.count < 0) then ['-'] else []) ++
      (Text.decimal s.count.natAbs ++ s.unit.mark.toList)) = s.text := by
    rw [← String.toList_inj]
    by_cases hn : s.count < 0
    · simp [Span.text, Text.integerText, hn]
    · simp [Span.text, Text.integerText, hn]
  rwa [htext] at h

/-! ## Points in time -/

/-- The expression of a point in time. A source, which may be any text, and the start of a quarter
are in no condition; they are not taken apart. -/
def Moment.expression : Moment → Expression
  | .source text => .name text
  | .literal text => .call "todatetime" [.text text]
  | .now => .call "now" []
  | .since span => .call "ago" [span.expression]
  | .after span => .call "now" [span.expression]
  | .add unit count base =>
    .call "datetime_add" [.text unit.name, integerExpression count, base.expression]
  | .startOfYear base => .call "startofyear" [base.expression]
  | .startOfMonth base => .call "startofmonth" [base.expression]
  | .startOfDay base => .call "startofday" [base.expression]
  | .startOfQuarter base => .call "startofquarter" [base.expression]
  | .bin base span => .call "bin" [base.expression, span.expression]
  | .justBefore base => .minus base.expression (.number "1ms")

/-- Whether a point in time is reached from now or from a date by calendar steps. -/
def Moment.isStepwise : Moment → Bool
  | .source _ => false
  | .literal _ => true
  | .now => true
  | .since _ => true
  | .after _ => true
  | .add _ _ base => base.isStepwise
  | .startOfYear base => base.isStepwise
  | .startOfMonth base => base.isStepwise
  | .startOfDay base => base.isStepwise
  | .startOfQuarter _ => false
  | .bin base _ => base.isStepwise
  | .justBefore base => base.isStepwise

theorem operandText_now : OperandText "now()" (.call "now" []) := by
  have htext : "now()".toList = "now".toList ++ '(' :: [')'] := by decide
  refine ⟨[.token (.name "now"), .group []], ?_, rfl, fun i hi => ?_, fun i hi => ?_⟩
  · rw [htext]
    exact Spells.call "now" (by decide) spells_emptyGroup
  · rcases List.mem_pair.mp hi with rfl | rfl <;> rfl
  · rcases List.mem_pair.mp hi with rfl | rfl
    · decide
    · rfl

theorem DateUnit.name_chars (unit : DateUnit) :
    ∀ c ∈ unit.name.toList, c ≠ '\'' ∧ c ≠ '\\' := by
  cases unit <;> simp [DateUnit.name]

/-- The name of a unit in single quotes. -/
theorem conditionText_unit (unit : DateUnit) :
    ConditionText ("'" ++ unit.name ++ "'") (.text unit.name) := by
  have htext : ("'" ++ unit.name ++ "'").toList = '\'' :: (unit.name.toList ++ ['\'']) := by simp
  have hspells : Spells ("'" ++ unit.name ++ "'").toList [.token (.text unit.name)] := by
    rw [htext]
    have hscan := scans_plainText unit.name_chars
    rw [String.ofList_toList] at hscan
    exact spells_token hscan rfl
  exact (operandText_token hspells rfl rfl rfl).sum.condition

/-- One millisecond less than a sum. -/
theorem SumText.justBefore {s : String} {e : Expression} (h : SumText s e) :
    SumText (s ++ " - 1ms") (.minus e (.number "1ms")) := by
  obtain ⟨items, hs, he⟩ := h
  have htext : (s ++ " - 1ms").toList = s.toList ++ ' ' :: '-' :: ' ' :: "1ms".toList := by simp
  have hone : Text.decimal 1 ++ SpanUnit.milli.mark.toList = "1ms".toList := by
    rw [Text.decimal_of_lt (by decide)]
    rfl
  have hnumeral := isNumeral_decimal 1 _ SpanUnit.milli.mark_chars
  rw [hone] at hnumeral
  obtain ⟨piece, hpiece, hp⟩ := operandText_number hnumeral
  rw [String.ofList_toList] at hpiece hp
  have hminus : Item.isSign (.token (.mark "-")) = true := by decide
  refine ⟨_, ?_, he.append hminus rfl hp⟩
  rw [htext]
  exact hs.append_blank (hpiece.blank.sign (by decide))

theorem Moment.text_add (unit : DateUnit) (count : Int) (base : Moment) :
    (Moment.add unit count base).text = "datetime_add('" ++ unit.name ++ "', " ++
      Text.integerText count ++ ", " ++ base.text ++ ")" := rfl

theorem Moment.text_startOfYear (base : Moment) :
    (Moment.startOfYear base).text = "startofyear(" ++ base.text ++ ")" := rfl

theorem Moment.text_startOfMonth (base : Moment) :
    (Moment.startOfMonth base).text = "startofmonth(" ++ base.text ++ ")" := rfl

theorem Moment.text_startOfDay (base : Moment) :
    (Moment.startOfDay base).text = "startofday(" ++ base.text ++ ")" := rfl

theorem Moment.text_bin (base : Moment) (span : Span) :
    (Moment.bin base span).text = "bin(" ++ base.text ++ ", " ++ span.text ++ ")" := rfl

/-- Calendar steps from a point in time. -/
theorem Moment.sumText_add (unit : DateUnit) (count : Int) {base : Moment}
    (h : SumText base.text base.expression) :
    SumText (Moment.add unit count base).text (Moment.add unit count base).expression := by
  have hlist : ListText
      ("'" ++ unit.name ++ "'" ++ ", " ++ (Text.integerText count ++ ", " ++ base.text))
      [.text unit.name, integerExpression count, base.expression] :=
    (conditionText_unit unit).list_cons
      ((sumText_integer count).condition.list_cons h.condition.list)
  have hcall : OperandText _ (.call "datetime_add"
      [.text unit.name, integerExpression count, base.expression]) :=
    hlist.call "datetime_add(" "datetime_add" (by decide) (by decide) (by decide)
  have htext : (Moment.add unit count base).text = "datetime_add(" ++
      ("'" ++ unit.name ++ "'" ++ ", " ++ (Text.integerText count ++ ", " ++ base.text)) ++
      ")" := by
    rw [text_add, ← String.toList_inj]
    simp
  rw [htext]
  exact hcall.sum

theorem Moment.sumText_bin (span : Span) {base : Moment}
    (h : SumText base.text base.expression) :
    SumText (Moment.bin base span).text (Moment.bin base span).expression := by
  have hlist := h.condition.list_cons (sumText_span span).condition.list
  have hcall := hlist.call "bin(" "bin" (by decide) (by decide) (by decide)
  have htext : (Moment.bin base span).text = "bin(" ++ (base.text ++ ", " ++ span.text) ++
      ")" := by
    rw [text_bin, ← String.toList_inj]
    simp
  rw [htext]
  exact hcall.sum

/-- The text of a point in time that calendar steps lead to. -/
theorem Moment.sumText (m : Moment) (h : m.isStepwise = true) : SumText m.text m.expression := by
  induction m with
  | source text => exact absurd h (by simp [isStepwise])
  | literal text =>
    have hargument := (operandText_textLiteral text).sum.condition
    exact (hargument.call "todatetime(" "todatetime" (by decide) (by decide) (by decide)).sum
  | now => exact operandText_now.sum
  | since span =>
    exact ((sumText_span span).condition.call "ago(" "ago" (by decide) (by decide) (by decide)).sum
  | after span =>
    exact ((sumText_span span).condition.call "now(" "now" (by decide) (by decide) (by decide)).sum
  | add unit count base ih => exact sumText_add unit count (ih h)
  | startOfYear base ih =>
    have hcall := (ih h).condition.call "startofyear(" "startofyear" (by decide)
      (by decide) (by decide)
    rw [text_startOfYear]
    exact hcall.sum
  | startOfMonth base ih =>
    have hcall := (ih h).condition.call "startofmonth(" "startofmonth" (by decide)
      (by decide) (by decide)
    rw [text_startOfMonth]
    exact hcall.sum
  | startOfDay base ih =>
    have hcall := (ih h).condition.call "startofday(" "startofday" (by decide)
      (by decide) (by decide)
    rw [text_startOfDay]
    exact hcall.sum
  | startOfQuarter base ih => exact absurd h (by simp [isStepwise])
  | bin base span ih => exact sumText_bin span (ih h)
  | justBefore base ih => exact (ih h).justBefore

/-- Date math gives points in time of this kind. -/
theorem isStepwise_moment (roundUp : Bool) (d : DateMath) :
    (d.moment roundUp).isStepwise = true := by
  have hround : ∀ unit (base : Moment), (DateMath.roundDown unit base).isStepwise = base.isStepwise := by
    intro unit base
    cases unit <;> rfl
  have hstep : ∀ (base : Moment) step, base.isStepwise = true →
      (DateMath.Step.apply roundUp base step).isStepwise = true := by
    intro base step hbase
    cases step with
    | shift count unit => exact hbase
    | round unit =>
      cases roundUp with
      | true => exact (hround unit base).trans hbase
      | false => exact (hround unit base).trans hbase
  have hsteps : ∀ (steps : List DateMath.Step) (base : Moment), base.isStepwise = true →
      (steps.foldl (DateMath.Step.apply roundUp) base).isStepwise = true := by
    intro steps
    induction steps with
    | nil => exact fun base hbase => hbase
    | cons step steps ih => exact fun base hbase => ih _ (hstep base step hbase)
  have hanchor : d.anchor.moment.isStepwise = true := by
    cases d.anchor <;> rfl
  have hshort : ∀ m, d.short? = some m → m.isStepwise = true := by
    intro m hm
    unfold DateMath.short? at hm
    split at hm
    · split_ifs at hm
      · obtain ⟨span, _, rfl⟩ := Option.map_eq_some_iff.mp hm
        rfl
      · obtain ⟨span, _, rfl⟩ := Option.map_eq_some_iff.mp hm
        rfl
    · exact absurd hm (by simp)
  unfold DateMath.moment
  split
  · exact hshort _ ‹_›
  · exact hsteps _ _ hanchor

/-! ## Literals -/

/-- The expression of a literal. -/
def Literal.expression : Literal → Expression
  | .text s => .text s
  | .number n => numberExpression n
  | .real x => layoutExpression Decimal.plain x
  | .bool b => .name (if b then "true" else "false")
  | .moment m => m.expression
  | .epoch unit n => .call unit.function [numberExpression n]

/-- Whether a literal can be in a condition. -/
def Literal.isStepwise : Literal → Bool
  | .moment m => m.isStepwise
  | _ => true

theorem operandText_constant (b : Bool) :
    OperandText (if b then "true" else "false") (.name (if b then "true" else "false")) := by
  cases b with
  | true => exact operandText_word "true" (by decide) (by decide)
  | false => exact operandText_word "false" (by decide) (by decide)

/-- The text of a literal is read as its expression. -/
theorem Literal.sumText (l : Literal) (h : l.isStepwise = true) :
    SumText l.chars l.expression := by
  cases l with
  | text s => exact (operandText_textLiteral s).sum
  | number n => exact sumText_numberText n
  | real x => exact sumText_layout Decimal.plain x
  | bool b => exact (operandText_constant b).sum
  | moment m => exact m.sumText h
  | epoch unit n =>
    have hnumber := (sumText_numberText n).condition
    cases unit with
    | millis =>
      exact (hnumber.call "unixtime_milliseconds_todatetime("
        "unixtime_milliseconds_todatetime" (by decide) (by decide) (by decide)).sum
    | seconds =>
      exact (hnumber.call "unixtime_seconds_todatetime("
        "unixtime_seconds_todatetime" (by decide) (by decide) (by decide)).sum

end KustoSearch.Kql
