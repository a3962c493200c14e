import KustoSearch.Proofs.Kql.Condition

/-! # Names and texts that are read back

What the caller writes reaches the engine through `textLiteral` and `identifier`. A token reader
that stands at the beginning of either one takes that token and nothing else, whatever the text
holds and whatever follows: a text may end in backslashes, mix both kinds of quotes or look like
an operator. So no two texts share a literal and no two names share a column, and in a condition
the engine compares the column the caller named with the text the caller wrote.
-/

namespace KustoSearch.Kql

namespace Lexer

/-- A text literal is one token, and the reader stops right behind it. -/
theorem next?_textLiteral (s : String) (rest : List Char) :
    next? ((textLiteral s).toList ++ rest) = some (.text s, rest) := by
  have hchars : (textLiteral s).toList ++ rest =
      '"' :: (s.toList.flatMap literalChar ++ '"' :: rest) := by
    simp [textLiteral]
  rw [hchars, next?_text, String.ofList_toList]

/-- A bracketed name is one token, and the reader stops right behind it. -/
theorem next?_identifier (name : String) (rest : List Char) :
    next? ((identifier name).toList ++ rest) = some (.column name, rest) := by
  have hchars : (identifier name).toList ++ rest =
      '[' :: '\'' :: (name.toList.flatMap identifierChar ++ '\'' :: ']' :: rest) := by
    simp [identifier]
  rw [hchars, next?_column, String.ofList_toList]

end Lexer

/-- Two literals that begin the same text are one literal: none goes on where another ends. -/
theorem textLiteral_append_inj {s t : String} {r r' : List Char}
    (h : (textLiteral s).toList ++ r = (textLiteral t).toList ++ r') : s = t ∧ r = r' := by
  have hread := Lexer.next?_textLiteral s r
  rw [h, Lexer.next?_textLiteral t r'] at hread
  simp only [Option.some.injEq, Prod.mk.injEq, Token.text.injEq] at hread
  exact ⟨hread.1.symm, hread.2.symm⟩

/-- Two bracketed names that begin the same text are one name. -/
theorem identifier_append_inj {s t : String} {r r' : List Char}
    (h : (identifier s).toList ++ r = (identifier t).toList ++ r') : s = t ∧ r = r' := by
  have hread := Lexer.next?_identifier s r
  rw [h, Lexer.next?_identifier t r'] at hread
  simp only [Option.some.injEq, Prod.mk.injEq, Token.column.injEq] at hread
  exact ⟨hread.1.symm, hread.2.symm⟩

theorem textLiteral_injective : Function.Injective textLiteral := by
  intro s t h
  have happend : (textLiteral s).toList ++ [] = (textLiteral t).toList ++ [] := by rw [h]
  exact (textLiteral_append_inj happend).1

theorem identifier_injective : Function.Injective identifier := by
  intro s t h
  have happend : (identifier s).toList ++ [] = (identifier t).toList ++ [] := by rw [h]
  exact (identifier_append_inj happend).1

/-- The engine reads a comparison as the caller's column against the caller's text. -/
theorem read?_compareText (column : String) (comparison : Comparison) (s : String) :
    Expression.read? (Predicate.test (.column column) comparison (.text s)).text =
      some (.compare comparison (.column column) (.text s)) :=
  Predicate.read?_text (.test (.column column) comparison (by rfl))

/-- The engine reads a membership test as the caller's column against the caller's texts. -/
theorem read?_oneOfTexts (column : String) {values : List String} (hne : values ≠ []) :
    Expression.read? (Predicate.oneOf column (values.map Literal.text)).text =
      some (.oneOf (.column column) (values.map Expression.text)) := by
  have hreadable : (Predicate.oneOf column (values.map Literal.text)).Readable := by
    apply Predicate.Readable.oneOf
    · simpa using hne
    · intro literal hliteral
      obtain ⟨value, _, rfl⟩ := List.mem_map.mp hliteral
      rfl
  rw [Predicate.read?_text hreadable, Predicate.expression, List.map_map]
  rfl

/-- Quoting can be undone in any context. The token reader takes exactly the literal or the
bracketed name, gives back what was quoted and leaves what follows; both functions are injective,
and they stay so with other text behind them; conditions are read with the caller's column on one
side and the caller's text on the other. -/
theorem quoting_read_back :
    (∀ (s : String) (rest : List Char),
      Lexer.next? ((textLiteral s).toList ++ rest) = some (.text s, rest)) ∧
    (∀ (name : String) (rest : List Char),
      Lexer.next? ((identifier name).toList ++ rest) = some (.column name, rest)) ∧
    Function.Injective textLiteral ∧ Function.Injective identifier ∧
    (∀ (column : String) (comparison : Comparison) (s : String),
      Expression.read? (Predicate.test (.column column) comparison (.text s)).text =
        some (.compare comparison (.column column) (.text s))) ∧
    (∀ (column : String) (value : String) (values : List String),
      Expression.read? (Predicate.oneOf column ((value :: values).map Literal.text)).text =
        some (.oneOf (.column column) ((value :: values).map Expression.text))) := by
  refine ⟨Lexer.next?_textLiteral, Lexer.next?_identifier, textLiteral_injective,
    identifier_injective, read?_compareText, ?_⟩
  intro column value values
  exact read?_oneOfTexts column (List.cons_ne_nil value values)

end KustoSearch.Kql
