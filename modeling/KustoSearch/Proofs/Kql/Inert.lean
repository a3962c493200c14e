import KustoSearch.Proofs.Json.Printer
import KustoSearch.Proofs.Kql.Condition
import KustoSearch.Proofs.Kql.Quoting

/-! # Conditions stay within their quotes

The text of a number, of a point in time, of a literal and of a condition is inert: outside quotes
it has no semicolon, no pipe and no slash, and it closes its brackets, whatever names and values
are in it.
-/

namespace KustoSearch.Kql

/-! ## Numbers and spans -/

theorem inert_naturalText (n : Nat) : Inert (Text.naturalText n) := by
  refine inert_of_plain fun c hc => isPlain_of_kind Text.isDigit (by decide) ?_
  rw [Text.toList_naturalText] at hc
  exact Text.isDigit_of_mem_decimal c hc

theorem inert_integerText (n : Int) : Inert (Text.integerText n) := by
  unfold Text.integerText
  split_ifs with hneg
  · exact Inert.append (by decide) (inert_naturalText n.natAbs)
  · exact inert_naturalText n.natAbs

theorem inert_numberText (n : Number) : Inert n.text := by
  refine inert_of_plain fun c hc => isPlain_of_kind Decimal.isNumberChar (by decide) ?_
  rw [Number.text, String.toList_ofList] at hc
  exact n.chars_isNumberChar c hc

theorem isNumberChar_of_mem_plainText {x : Binary64} {c : Char}
    (hc : c ∈ (Decimal.plainText x).toList) : Decimal.isNumberChar c = true := by
  obtain ⟨p, hp, _⟩ := Decimal.plain.magnitudeText_spells (Decimal.shortest Decimal.plain.tie x)
  rw [Decimal.plainText, String.toList_ofList] at hc
  rcases List.mem_append.mp hc with hc | hc
  · split_ifs at hc
    · rw [List.mem_singleton.mp hc]
      rfl
    · cases hc
  · exact hp.chars c hc

theorem inert_plainText (x : Binary64) : Inert (Decimal.plainText x) :=
  inert_of_plain fun _ hc =>
    isPlain_of_kind Decimal.isNumberChar (by decide) (isNumberChar_of_mem_plainText hc)

theorem inert_span (span : Span) : Inert span.text := by
  refine (inert_integerText span.count).append ?_
  cases span.unit <;> decide

/-! ## Points in time -/

/-- The text that a point in time is computed from, when it is any text. -/
def Moment.sourceText? : Moment → Option String
  | .source text => some text
  | .literal _ => none
  | .now => none
  | .since _ => none
  | .after _ => none
  | .add _ _ base => base.sourceText?
  | .startOfYear base => base.sourceText?
  | .startOfMonth base => base.sourceText?
  | .startOfDay base => base.sourceText?
  | .startOfQuarter base => base.sourceText?
  | .bin base _ => base.sourceText?
  | .justBefore base => base.sourceText?

theorem Moment.sourceText?_of_isStepwise {m : Moment} (h : m.isStepwise = true) :
    m.sourceText? = none := by
  induction m with
  | source text => cases h
  | startOfQuarter base ih => cases h
  | add unit count base ih => exact ih h
  | startOfYear base ih => exact ih h
  | startOfMonth base ih => exact ih h
  | startOfDay base ih => exact ih h
  | bin base span ih => exact ih h
  | justBefore base ih => exact ih h
  | _ => rfl

/-- A point in time is inert where the text that it is computed from is. -/
theorem Moment.inert_text {m : Moment} (h : ∀ s ∈ m.sourceText?, Inert s) : Inert m.text := by
  have hcomma : Inert ", " := by decide
  induction m with
  | source text => exact h text rfl
  | literal text => exact (inert_textLiteral text).call (by decide)
  | now => exact (by decide : Inert "now()")
  | since span => exact (inert_span span).call (by decide)
  | after span => exact (inert_span span).call (by decide)
  | add unit count base ih =>
    have hunit : Fragment ("datetime_add('" ++ unit.name ++ "', ") [] [')'] 0 0 := by
      cases unit <;> decide
    exact (((hunit.inert (inert_integerText count)).inert hcomma).inert (ih h)).close
  | startOfYear base ih => exact (ih h).call (by decide)
  | startOfMonth base ih => exact (ih h).call (by decide)
  | startOfDay base ih => exact (ih h).call (by decide)
  | startOfQuarter base ih =>
    -- three calls and a group are open where the base stands first, two where it stands again
    have hopening : Fragment "datetime_add('month', -((getmonth(" [] [')', ')', ')', ')'] 0 0 := by
      decide
    have hmiddle : Fragment ") - 1) % 3), startofmonth(" [')', ')', ')', ')'] [')', ')'] 0 0 := by
      decide
    have hclosing : Fragment "))" [')', ')'] [] 0 0 := by decide
    exact (((hopening.inert (ih h)).append hmiddle).inert (ih h)).append hclosing
  | bin base span ih =>
    have hopening : Fragment "bin(" [] [')'] 0 0 := by decide
    exact (((hopening.inert (ih h)).inert hcomma).inert (inert_span span)).close
  | justBefore base ih => exact (ih h).append (by decide)

/-! ## Literals -/

theorem inert_bool (b : Bool) : Inert (if b then "true" else "false") := by
  cases b <;> decide

theorem Literal.inert_chars {l : Literal} (h : l.isStepwise = true) : Inert l.chars := by
  cases l with
  | text s => exact inert_textLiteral s
  | number n => exact inert_numberText n
  | real x => exact inert_plainText x
  | bool b => exact inert_bool b
  | moment m =>
    refine Moment.inert_text ?_
    rw [Moment.sourceText?_of_isStepwise h]
    exact fun s hs => nomatch hs
  | epoch unit n =>
    have hopening : Fragment (unit.function ++ "(") [] [')'] 0 0 := by
      cases unit <;> decide
    exact (inert_numberText n).call hopening

/-! ## Conditions -/

theorem Target.inert_text (target : Target) : Inert target.text := by
  cases target with
  | column name => exact inert_identifier name
  | anyColumn => exact (by decide : Inert "*")

namespace Predicate

theorem inert_test (target : Target) (comparison : Comparison) {literal : Literal}
    (h : literal.isStepwise = true) :
    Inert (Predicate.test target comparison literal).text := by
  have hcomparison : Inert comparison.text := by
    cases comparison <;> decide
  have hblank : Inert " " := by decide
  rw [text]
  exact (((target.inert_text.append hblank).append hcomparison).append hblank).append
    (Literal.inert_chars h)

theorem inert_joinTexts (connective : Connective) {parts : List String}
    (h : ∀ part ∈ parts, Inert part) : Inert (joinTexts connective.word parts) := by
  have hword : Inert (" " ++ connective.word ++ " ") := by
    cases connective <;> decide
  unfold joinTexts
  split
  · exact h _ List.mem_cons_self
  · refine inert_join hword fun part hpart => ?_
    obtain ⟨p, hp, rfl⟩ := List.mem_map.mp hpart
    exact (h p hp).call (by decide)

/-- The text of a condition is inert, whatever names and values it is about. -/
theorem inert_text {p : Predicate} (h : p.Readable) : Inert p.text := by
  -- the cases of a readable condition, in which every point in time is reached by steps
  induction h with
  | constant b =>
    rw [text]
    exact inert_bool b
  | test target comparison hliteral => exact inert_test target comparison hliteral
  | @oneOf column literals _ hliterals =>
    have hopening : Fragment " in (" [] [')'] 0 0 := by decide
    have hcomma : Inert ", " := by decide
    have hlist : Inert (Text.join ", " (literals.map Literal.chars)) := by
      refine inert_join hcomma fun part hpart => ?_
      obtain ⟨l, hl, rfl⟩ := List.mem_map.mp hpart
      exact Literal.inert_chars (hliterals l hl)
    rw [text]
    exact ((Fragment.append (inert_identifier column) hopening).inert hlist).close
  | notEmpty column =>
    rw [text]
    exact (inert_identifier column).call (by decide)
  | between target target' comparison comparison' hlower hupper =>
    have hand : Inert " and " := by decide
    rw [text]
    exact ((inert_test target comparison hlower).append hand).append
      (inert_test target' comparison' hupper)
  | @join connective parts _ _ ih =>
    rw [text, texts_eq_map]
    refine inert_joinTexts connective fun part hpart => ?_
    obtain ⟨p, hp, rfl⟩ := List.mem_map.mp hpart
    exact ih p hp
  | @atLeast count parts _ _ ih =>
    have hplus : Inert " + " := by decide
    have hcomparison : Inert " >= " := by decide
    rw [text, texts_eq_map]
    refine ((inert_join hplus fun part hpart => ?_).append hcomparison).append
      (inert_naturalText count)
    obtain ⟨s, hs, rfl⟩ := List.mem_map.mp hpart
    obtain ⟨p, hp, rfl⟩ := List.mem_map.mp hs
    exact (ih p hp).call (by decide)
  | negation _ ih =>
    rw [text]
    exact ih.call (by decide)

end Predicate

end KustoSearch.Kql
