import KustoSearch.Kql.Quoted
import KustoSearch.Proofs.Text.Numeral

/-! # Tokens of a statement

How the engine cuts the text of an expression into tokens. A quote opens a quoted token and the
same quote closes it; a backslash inside makes an escape of the next character. Names, numerals
and marks are longest runs. The main statements, `tokens?_textLiteral` and `tokens?_identifier`,
say that a quoted text or name is one token again, whatever characters it holds and whatever
follows it.
-/

namespace KustoSearch.Kql

open Text (IsDigits)

/-- A token. Quoted tokens hold what they stand for. -/
inductive Token where
  /-- A bare word. -/
  | name (word : String)
  /-- A numeral, with its unit where it is a timespan. -/
  | number (numeral : String)
  /-- A bracketed column name. -/
  | column (name : String)
  /-- A quoted text. -/
  | text (value : String)
  /-- An operator. -/
  | mark (operator : String)
  | opening
  | closing
  | comma
deriving DecidableEq, Repr

namespace Lexer

/-- The characters that a bare word may start with. -/
def isNameStart (c : Char) : Bool := c.isAlpha || c = '_'

/-- The characters of a bare word. -/
def isNameChar (c : Char) : Bool := c.isAlphanum || c = '_'

/-- The characters that comparison operators are made of. -/
def isComparisonChar (c : Char) : Bool := ['=', '~', '<', '>', '!'].contains c

/-- The operators of one character. -/
def isSignChar (c : Char) : Bool := ['+', '-', '*', '/', '%'].contains c

/-- What a character after a backslash stands for. -/
def escaped? (c : Char) : Option Char :=
  if c = '\\' || c = '"' || c = '\'' then some c
  else if c = 'n' then some '\n'
  else if c = 'r' then some '\r'
  else if c = 't' then some '\t'
  else none

/-- The text up to the closing quote, and what follows it. -/
def quoted? (quote : Char) : List Char → Option (List Char × List Char)
  | [] => none
  | c :: cs =>
    if c = quote then some ([], cs)
    else if c = '\\' then
      match cs with
      | [] => none
      | e :: cs =>
        match escaped? e, quoted? quote cs with
        | some c, some (text, rest) => some (c :: text, rest)
        | _, _ => none
    else (quoted? quote cs).map fun (text, rest) => (c :: text, rest)

/-- The exponent of a numeral and what follows it; without digits there is no exponent. -/
def exponent (cs : List Char) : List Char × List Char :=
  match cs with
  | e :: cs' =>
    if e = 'e' || e = 'E' then
      let (sign, cs') := match cs' with
        | '+' :: cs' => (['+'], cs')
        | '-' :: cs' => (['-'], cs')
        | cs' => ([], cs')
      let digits := cs'.takeWhile Text.isDigit
      if digits.isEmpty then ([], cs)
      else (e :: (sign ++ digits), cs'.dropWhile Text.isDigit)
    else ([], cs)
  | [] => ([], [])

/-- The fraction of a numeral and what follows it; a point without digits is none. -/
def fraction (cs : List Char) : List Char × List Char :=
  match cs with
  | '.' :: cs' =>
    let digits := cs'.takeWhile Text.isDigit
    if digits.isEmpty then ([], cs) else ('.' :: digits, cs'.dropWhile Text.isDigit)
  | cs => ([], cs)

/-- A numeral that starts with a digit: digits, a fraction, an exponent and the letters of a unit,
with what follows. -/
def numeral (cs : List Char) : List Char × List Char :=
  let whole := cs.takeWhile Text.isDigit
  let (fraction, cs) := fraction (cs.dropWhile Text.isDigit)
  let (exponent, cs) := exponent cs
  (whole ++ fraction ++ exponent ++ cs.takeWhile isNameChar, cs.dropWhile isNameChar)

/-- The first token of a text that starts with no blank, and what follows it. -/
def next? : List Char → Option (Token × List Char)
  | [] => none
  | c :: cs =>
    if Text.isDigit c then
      let (numeral, rest) := numeral (c :: cs)
      some (.number (String.ofList numeral), rest)
    else if isNameStart c then
      some (.name (String.ofList (c :: cs.takeWhile isNameChar)), cs.dropWhile isNameChar)
    else if isComparisonChar c then
      some (.mark (String.ofList (c :: cs.takeWhile isComparisonChar)),
        cs.dropWhile isComparisonChar)
    else if isSignChar c then some (.mark (String.ofList [c]), cs)
    else
      match c, cs with
      | '(', cs => some (.opening, cs)
      | ')', cs => some (.closing, cs)
      | ',', cs => some (.comma, cs)
      | '"', cs => (quoted? '"' cs).map fun (text, rest) => (.text (String.ofList text), rest)
      | '\'', cs => (quoted? '\'' cs).map fun (text, rest) => (.text (String.ofList text), rest)
      | '[', '\'' :: cs =>
        match quoted? '\'' cs with
        | some (name, ']' :: rest) => some (.column (String.ofList name), rest)
        | _ => none
      | _, _ => none

end Lexer

/-- The tokens of a text; blanks between them do not matter. -/
def tokens? : List Char → Option (List Token)
  | [] => some []
  | ' ' :: cs => tokens? cs
  | c :: cs =>
    match Lexer.next? (c :: cs) with
    | none => none
    | some (token, rest) =>
      if rest.length ≤ cs.length then (tokens? rest).map (token :: ·) else none
termination_by cs => cs.length

/-! ## Quoted tokens -/

namespace Lexer

@[simp] theorem quoted?_close (quote : Char) (cs : List Char) :
    quoted? quote (quote :: cs) = some ([], cs) := by
  rw [quoted?.eq_def]
  simp

theorem quoted?_escape {quote e c : Char} {cs text rest : List Char} (hq : '\\' ≠ quote)
    (he : escaped? e = some c) (h : quoted? quote cs = some (text, rest)) :
    quoted? quote ('\\' :: e :: cs) = some (c :: text, rest) := by
  rw [quoted?.eq_def]
  simp [hq, he, h]

theorem quoted?_char {quote c : Char} {cs text rest : List Char} (hq : c ≠ quote)
    (hc : c ≠ '\\') (h : quoted? quote cs = some (text, rest)) :
    quoted? quote (c :: cs) = some (c :: text, rest) := by
  rw [quoted?.eq_def]
  simp [hq, hc, h]

theorem quoted?_literalChar (text rest : List Char) :
    quoted? '"' (text.flatMap literalChar ++ '"' :: rest) = some (text, rest) := by
  induction text with
  | nil => exact quoted?_close '"' rest
  | cons c cs ih =>
    rw [List.flatMap_cons, List.append_assoc, literalChar]
    split_ifs with h₁ h₂ h₃ h₄ h₅
    · exact quoted?_escape (by decide) (by rw [h₁]; rfl) ih
    · exact quoted?_escape (by decide) (by rw [h₂]; rfl) ih
    · exact quoted?_escape (by decide) (by rw [h₃]; rfl) ih
    · exact quoted?_escape (by decide) (by rw [h₄]; rfl) ih
    · exact quoted?_escape (by decide) (by rw [h₅]; rfl) ih
    · exact quoted?_char h₂ h₁ ih

theorem quoted?_identifierChar (name rest : List Char) :
    quoted? '\'' (name.flatMap identifierChar ++ '\'' :: rest) = some (name, rest) := by
  induction name with
  | nil => exact quoted?_close '\'' rest
  | cons c cs ih =>
    rw [List.flatMap_cons, List.append_assoc, identifierChar]
    split_ifs with h₁ h₂
    · exact quoted?_escape (by decide) (by rw [h₁]; rfl) ih
    · exact quoted?_escape (by decide) (by rw [h₂]; rfl) ih
    · exact quoted?_char h₂ h₁ ih

/-- Characters that need no escape are read as they are. -/
theorem quoted?_plain (quote : Char) (text rest : List Char)
    (h : ∀ c ∈ text, c ≠ quote ∧ c ≠ '\\') :
    quoted? quote (text ++ quote :: rest) = some (text, rest) := by
  induction text with
  | nil => exact quoted?_close quote rest
  | cons c cs ih =>
    have hc := h c (by simp)
    exact quoted?_char hc.1 hc.2 (ih fun x hx => h x (by simp [hx]))

/-! ## Names, numerals and marks -/

theorem next?_number {c : Char} (cs : List Char) (h : Text.isDigit c = true) :
    next? (c :: cs) =
      some (.number (String.ofList (numeral (c :: cs)).1), (numeral (c :: cs)).2) := by
  simp only [next?, if_pos h]

theorem next?_name {c : Char} (cs : List Char) (hd : Text.isDigit c = false)
    (h : isNameStart c = true) :
    next? (c :: cs) =
      some (.name (String.ofList (c :: cs.takeWhile isNameChar)), cs.dropWhile isNameChar) := by
  simp only [next?, hd, h, Bool.false_eq_true, if_false, if_true]

theorem next?_comparison {c : Char} (cs : List Char) (h : isComparisonChar c = true) :
    next? (c :: cs) =
      some (.mark (String.ofList (c :: cs.takeWhile isComparisonChar)),
        cs.dropWhile isComparisonChar) := by
  have hc : c = '=' ∨ c = '~' ∨ c = '<' ∨ c = '>' ∨ c = '!' := by
    simpa [isComparisonChar] using h
  rcases hc with rfl | rfl | rfl | rfl | rfl <;> rfl

theorem next?_sign {c : Char} (cs : List Char) (h : isSignChar c = true) :
    next? (c :: cs) = some (.mark (String.ofList [c]), cs) := by
  have hc : c = '+' ∨ c = '-' ∨ c = '*' ∨ c = '/' ∨ c = '%' := by
    simpa [isSignChar] using h
  rcases hc with rfl | rfl | rfl | rfl | rfl <;> rfl

theorem next?_text (text rest : List Char) :
    next? ('"' :: (text.flatMap literalChar ++ '"' :: rest)) =
      some (.text (String.ofList text), rest) := by
  have h := quoted?_literalChar text rest
  show (quoted? '"' (text.flatMap literalChar ++ '"' :: rest)).map _ = _
  rw [h]
  rfl

theorem next?_plainText (text rest : List Char) (h : ∀ c ∈ text, c ≠ '\'' ∧ c ≠ '\\') :
    next? ('\'' :: (text ++ '\'' :: rest)) = some (.text (String.ofList text), rest) := by
  have hq := quoted?_plain '\'' text rest h
  show (quoted? '\'' (text ++ '\'' :: rest)).map _ = _
  rw [hq]
  rfl

theorem next?_column (name rest : List Char) :
    next? ('[' :: '\'' :: (name.flatMap identifierChar ++ '\'' :: ']' :: rest)) =
      some (.column (String.ofList name), rest) := by
  have h := quoted?_identifierChar name (']' :: rest)
  show (match quoted? '\'' (name.flatMap identifierChar ++ '\'' :: ']' :: rest) with
    | some (name, ']' :: rest) => some (Token.column (String.ofList name), rest)
    | _ => none) = _
  rw [h]
  rfl

end Lexer

/-! ## Scanning

`Scans cs ts` says that a text is cut into some tokens wherever it stands, as long as what follows
cannot belong to its last token.
-/

/-- A text that begins with no character of a name, numeral or operator. -/
def AtEnd (rest : List Char) : Prop :=
  rest = [] ∨ ∃ c cs, rest = c :: cs ∧ (c = ' ' ∨ c = '(' ∨ c = ')' ∨ c = ',')

/-- A text that is cut into tokens wherever it stands. -/
def Scans (cs : List Char) (ts : List Token) : Prop :=
  ∀ rest, AtEnd rest → tokens? (cs ++ rest) = (tokens? rest).map (ts ++ ·)

theorem atEnd_nil : AtEnd [] := Or.inl rfl

theorem atEnd_blank (cs : List Char) : AtEnd (' ' :: cs) := Or.inr ⟨_, _, rfl, by simp⟩

theorem atEnd_opening (cs : List Char) : AtEnd ('(' :: cs) := Or.inr ⟨_, _, rfl, by simp⟩

theorem atEnd_closing (cs : List Char) : AtEnd (')' :: cs) := Or.inr ⟨_, _, rfl, by simp⟩

theorem atEnd_comma (cs : List Char) : AtEnd (',' :: cs) := Or.inr ⟨_, _, rfl, by simp⟩

/-- A class of characters without the four that end a token takes nothing from what follows. -/
theorem AtEnd.head_eq_false {rest : List Char} (h : AtEnd rest) {p : Char → Bool}
    (hp : p ' ' = false ∧ p '(' = false ∧ p ')' = false ∧ p ',' = false) :
    ∀ c ∈ rest.head?, p c = false := by
  rcases h with rfl | ⟨c, cs, rfl, h⟩
  · simp
  · intro d hd
    simp only [List.head?_cons, Option.mem_some_iff] at hd
    subst hd
    rcases h with rfl | rfl | rfl | rfl
    · exact hp.1
    · exact hp.2.1
    · exact hp.2.2.1
    · exact hp.2.2.2

theorem tokens?_blank (cs : List Char) : tokens? (' ' :: cs) = tokens? cs := by
  rw [tokens?]

theorem tokens?_next {c : Char} {cs rest : List Char} {token : Token} (hc : c ≠ ' ')
    (h : Lexer.next? (c :: cs) = some (token, rest)) (hlen : rest.length ≤ cs.length) :
    tokens? (c :: cs) = (tokens? rest).map (token :: ·) := by
  rw [tokens?, h]
  · simp [hlen]
  · exact hc

theorem scans_nil : Scans [] [] := by
  intro rest _
  simp

theorem Scans.append {a b : List Char} {ts us : List Token} (ha : Scans a ts) (hb : Scans b us)
    (hend : ∀ rest, AtEnd rest → AtEnd (b ++ rest)) : Scans (a ++ b) (ts ++ us) := by
  intro rest hrest
  rw [List.append_assoc, ha _ (hend rest hrest), hb rest hrest, Option.map_map]
  simp only [Function.comp_def, List.append_assoc]

/-- One token that is found at the head of a text scans. -/
theorem scans_of_next? {c : Char} {cs : List Char} {token : Token} (hc : c ≠ ' ')
    (h : ∀ rest, AtEnd rest → Lexer.next? (c :: cs ++ rest) = some (token, rest)) :
    Scans (c :: cs) [token] := by
  intro rest hrest
  exact tokens?_next hc (h rest hrest) (by simp)

theorem Scans.blank {a : List Char} {ts : List Token} (ha : Scans a ts) :
    Scans (' ' :: a) ts := by
  intro rest hrest
  rw [List.cons_append, tokens?_blank, ha rest hrest]

/-- A token of one character that is read whatever follows it. -/
theorem Scans.cons {c : Char} {a : List Char} {token : Token} {ts : List Token} (hc : c ≠ ' ')
    (h : ∀ cs, Lexer.next? (c :: cs) = some (token, cs)) (ha : Scans a ts) :
    Scans (c :: a) (token :: ts) := by
  intro rest hrest
  rw [List.cons_append, tokens?_next hc (h _) (le_refl _), ha rest hrest, Option.map_map]
  simp only [Function.comp_def, List.cons_append]

/-- A bare word. -/
theorem scans_name {c : Char} {cs : List Char} (hd : Text.isDigit c = false)
    (hc : Lexer.isNameStart c = true) (hcs : ∀ x ∈ cs, Lexer.isNameChar x = true) :
    Scans (c :: cs) [.name (String.ofList (c :: cs))] := by
  have hblank : c ≠ ' ' := by
    rintro rfl
    exact absurd hc (by decide)
  refine scans_of_next? hblank fun rest hrest => ?_
  obtain ⟨ht, hdrop⟩ := Text.takeWhile_append_of_head hcs (hrest.head_eq_false (by decide))
  rw [List.cons_append, Lexer.next?_name _ hd hc, ht, hdrop]

/-- An operator made of comparison characters. -/
theorem scans_comparison {c : Char} {cs : List Char} (hc : Lexer.isComparisonChar c = true)
    (hcs : ∀ x ∈ cs, Lexer.isComparisonChar x = true) :
    Scans (c :: cs) [.mark (String.ofList (c :: cs))] := by
  have hblank : c ≠ ' ' := by
    rintro rfl
    exact absurd hc (by decide)
  refine scans_of_next? hblank fun rest hrest => ?_
  obtain ⟨ht, hdrop⟩ := Text.takeWhile_append_of_head hcs (hrest.head_eq_false (by decide))
  rw [List.cons_append, Lexer.next?_comparison _ hc, ht, hdrop]

/-- A sign before a text. -/
theorem Scans.sign {c : Char} {a : List Char} {ts : List Token}
    (hc : Lexer.isSignChar c = true) (ha : Scans a ts) :
    Scans (c :: a) (.mark (String.ofList [c]) :: ts) := by
  have hblank : c ≠ ' ' := by
    rintro rfl
    exact absurd hc (by decide)
  exact ha.cons hblank fun cs => Lexer.next?_sign cs hc

theorem Scans.opening {a : List Char} {ts : List Token} (ha : Scans a ts) :
    Scans ('(' :: a) (.opening :: ts) :=
  ha.cons (by decide) fun _ => rfl

theorem Scans.closing {a : List Char} {ts : List Token} (ha : Scans a ts) :
    Scans (')' :: a) (.closing :: ts) :=
  ha.cons (by decide) fun _ => rfl

theorem Scans.comma {a : List Char} {ts : List Token} (ha : Scans a ts) :
    Scans (',' :: a) (.comma :: ts) :=
  ha.cons (by decide) fun _ => rfl

/-- Brackets around a text. -/
theorem Scans.group {a : List Char} {ts : List Token} (ha : Scans a ts) :
    Scans ('(' :: (a ++ [')'])) (.opening :: (ts ++ [.closing])) := by
  have hclosing : Scans [')'] [.closing] := scans_nil.closing
  exact (ha.append hclosing fun _ _ => atEnd_closing _).opening

/-- A token that ends where a certain text begins. -/
theorem Scans.next {c : Char} {cs a : List Char} {token : Token} {ts : List Token} (hc : c ≠ ' ')
    (h : ∀ rest, Lexer.next? (c :: (cs ++ (a ++ rest))) = some (token, a ++ rest))
    (ha : Scans a ts) : Scans (c :: (cs ++ a)) (token :: ts) := by
  intro rest hrest
  rw [List.cons_append, List.append_assoc, tokens?_next hc (h rest) (by simp), ha rest hrest,
    Option.map_map]
  simp only [Function.comp_def, List.cons_append]

/-- A quoted text of the caller is one token. -/
theorem scans_textLiteral (s : String) : Scans (textLiteral s).toList [.text s] := by
  have htext : (textLiteral s).toList = '"' :: (s.toList.flatMap literalChar ++ ['"']) := by
    simp [textLiteral]
  rw [htext]
  refine scans_of_next? (by decide) fun rest _ => ?_
  have h := Lexer.next?_text s.toList rest
  rw [String.ofList_toList] at h
  simpa using h

/-- A column name of the caller is one token. -/
theorem scans_identifier (name : String) : Scans (identifier name).toList [.column name] := by
  have htext : (identifier name).toList =
      '[' :: '\'' :: (name.toList.flatMap identifierChar ++ ['\'', ']']) := by
    simp [identifier]
  rw [htext]
  refine scans_of_next? (by decide) fun rest _ => ?_
  have h := Lexer.next?_column name.toList rest
  rw [String.ofList_toList] at h
  simpa using h

/-- A text in single quotes that needs no escapes is one token. -/
theorem scans_plainText {text : List Char} (h : ∀ c ∈ text, c ≠ '\'' ∧ c ≠ '\\') :
    Scans ('\'' :: (text ++ ['\''])) [.text (String.ofList text)] := by
  refine scans_of_next? (by decide) fun rest _ => ?_
  have hnext := Lexer.next?_plainText text rest h
  simpa using hnext

/-! ## Numerals -/

/-- A text that is read as one numeral wherever it stands. -/
def IsNumeral (cs : List Char) : Prop :=
  (∃ c ∈ cs.head?, Text.isDigit c = true) ∧
    ∀ rest, AtEnd rest → Lexer.numeral (cs ++ rest) = (cs, rest)

theorem IsNumeral.scans {cs : List Char} (h : IsNumeral cs) :
    Scans cs [.number (String.ofList cs)] := by
  obtain ⟨⟨c, hmem, hc⟩, hnumeral⟩ := h
  cases cs with
  | nil => simp at hmem
  | cons d cs =>
    obtain rfl : d = c := by simpa using hmem
    have hblank : d ≠ ' ' := by
      rintro rfl
      exact absurd hc (by decide)
    refine scans_of_next? hblank fun rest hrest => ?_
    rw [List.cons_append, Lexer.next?_number _ hc, ← List.cons_append, hnumeral rest hrest]

/-- The parts that a numeral is made of. -/
structure NumeralParts (whole fraction exponent unit : List Char) : Prop where
  whole : IsDigits whole
  fraction : fraction = [] ∨ ∃ ds, IsDigits ds ∧ fraction = '.' :: ds
  exponent : exponent = [] ∨ ∃ sign ds, (sign = [] ∨ sign = ['+'] ∨ sign = ['-']) ∧ IsDigits ds ∧
    exponent = 'e' :: (sign ++ ds)
  unit : ∀ c ∈ unit, Lexer.isNameChar c = true ∧ Text.isDigit c = false ∧ c ≠ 'e' ∧ c ≠ 'E'

/-- A text that begins with nothing a number could go on with. -/
def AfterNumber (cs : List Char) : Prop :=
  ∀ c ∈ cs.head?, Text.isDigit c = false ∧ c ≠ '.' ∧ c ≠ 'e' ∧ c ≠ 'E'

theorem NumeralParts.afterNumber {whole fraction exponent unit rest : List Char}
    (h : NumeralParts whole fraction exponent unit) (hrest : AtEnd rest) :
    AfterNumber (unit ++ rest) := by
  intro c hc
  cases unit with
  | nil =>
    rcases hrest with rfl | ⟨d, ds, rfl, hd⟩
    · simp at hc
    · obtain rfl : d = c := by simpa using hc
      rcases hd with rfl | rfl | rfl | rfl <;> decide
  | cons u us =>
    obtain rfl : u = c := by simpa using hc
    obtain ⟨hname, hdigit, he, hE⟩ := h.unit u (by simp)
    refine ⟨hdigit, ?_, he, hE⟩
    rintro rfl
    exact absurd hname (by decide)

/-- An exponent is read up to its last digit, and none is found before anything else. -/
theorem Lexer.exponent_append {part rest : List Char} (hrest : AfterNumber rest)
    (h : part = [] ∨ ∃ sign ds, (sign = [] ∨ sign = ['+'] ∨ sign = ['-']) ∧ IsDigits ds ∧
      part = 'e' :: (sign ++ ds)) :
    Lexer.exponent (part ++ rest) = (part, rest) := by
  rcases h with rfl | ⟨sign, ds, hsign, hds, rfl⟩
  · cases rest with
    | nil => rfl
    | cons c cs =>
      obtain ⟨_, _, he, hE⟩ := hrest c (by simp)
      simp [Lexer.exponent, he, hE]
  · obtain ⟨ht, hd⟩ := Text.takeWhile_append_of_head (r := rest) hds.2 fun c hc => (hrest c hc).1
    have hne : ds.isEmpty = false := by simpa using hds.1
    rcases hsign with rfl | rfl | rfl
    · -- without a sign the first digit must not be taken for one
      obtain ⟨d, ds', rfl⟩ := List.exists_cons_of_ne_nil hds.1
      have hdigit : Text.isDigit d = true := hds.2 d (by simp)
      have hplus : d ≠ '+' := by
        rintro rfl
        exact absurd hdigit (by decide)
      have hminus : d ≠ '-' := by
        rintro rfl
        exact absurd hdigit (by decide)
      simp only [Lexer.exponent, List.nil_append, List.cons_append] at ht hd ⊢
      simp [hplus, hminus, ht, hd]
    · simp [Lexer.exponent, ht, hd, hne]
    · simp [Lexer.exponent, ht, hd, hne]

/-- A fraction is read up to its last digit, and none is found before anything but a point. -/
theorem Lexer.fraction_append {part rest : List Char} (hdigit : ∀ c ∈ rest.head?,
      Text.isDigit c = false ∧ c ≠ '.')
    (h : part = [] ∨ ∃ ds, IsDigits ds ∧ part = '.' :: ds) :
    Lexer.fraction (part ++ rest) = (part, rest) := by
  rcases h with rfl | ⟨ds, hds, rfl⟩
  · cases rest with
    | nil => rfl
    | cons c cs =>
      have hc := (hdigit c (by simp)).2
      simp [Lexer.fraction, hc]
  · obtain ⟨ht, hd⟩ := Text.takeWhile_append_of_head (r := rest) hds.2 fun c hc => (hdigit c hc).1
    have hne : ds.isEmpty = false := by simpa using hds.1
    simp [Lexer.fraction, ht, hd, hne]

/-- The exponent part leaves no digit and no point at the head. -/
theorem NumeralParts.head_exponent {whole fraction exponent unit rest : List Char}
    (h : NumeralParts whole fraction exponent unit) (hrest : AtEnd rest) :
    ∀ c ∈ (exponent ++ (unit ++ rest)).head?, Text.isDigit c = false ∧ c ≠ '.' := by
  intro c hc
  rcases h.exponent with rfl | ⟨sign, ds, _, _, rfl⟩
  · have hafter := h.afterNumber hrest c hc
    exact ⟨hafter.1, hafter.2.1⟩
  · obtain rfl : 'e' = c := by simpa using hc
    decide

theorem NumeralParts.isNumeral {whole fraction exponent unit : List Char}
    (h : NumeralParts whole fraction exponent unit) :
    IsNumeral (whole ++ fraction ++ exponent ++ unit) := by
  constructor
  · obtain ⟨c, cs, rfl⟩ := List.exists_cons_of_ne_nil h.whole.1
    exact ⟨c, by simp, h.whole.2 c (by simp)⟩
  · intro rest hrest
    have hhead := h.head_exponent hrest
    have hwhole : ∀ c ∈ (fraction ++ (exponent ++ (unit ++ rest))).head?,
        Text.isDigit c = false := by
      intro c hc
      rcases h.fraction with rfl | ⟨ds, _, rfl⟩
      · exact (hhead c hc).1
      · obtain rfl : '.' = c := by simpa using hc
        decide
    obtain ⟨ht, hd⟩ := Text.takeWhile_append_of_head h.whole.2 hwhole
    have hf := Lexer.fraction_append hhead h.fraction
    have hx := Lexer.exponent_append (h.afterNumber hrest) h.exponent
    obtain ⟨hut, hud⟩ := Text.takeWhile_append_of_head (fun c hc => (h.unit c hc).1)
      (hrest.head_eq_false (p := Lexer.isNameChar) (by decide))
    have hassoc : whole ++ fraction ++ exponent ++ unit ++ rest =
        whole ++ (fraction ++ (exponent ++ (unit ++ rest))) := by
      simp only [List.append_assoc]
    rw [hassoc, Lexer.numeral, ht, hd, hf]
    simp only [hx, hut, hud]

end KustoSearch.Kql
