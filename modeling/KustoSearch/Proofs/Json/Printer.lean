import KustoSearch.Json.Printer
import KustoSearch.Json.Reader
import KustoSearch.Proofs.Decimal.Shortest

/-! # Documents are told by their texts

Two documents with the same text are the same: `text_injective`. Texts are taken apart from the
left, so every statement is about a text with something behind it.
-/

namespace KustoSearch

open Text (IsDigits decimal isDigit)

/-! ## Numbers -/

namespace Decimal

/-- Reading an exponent gives back what was written. -/
theorem WritesExponent.exponentPart?_eq {e : Int} {text : List Char} (h : WritesExponent e text) :
    exponentPart? text = some e := by
  cases h with
  | none => rfl
  | plain n =>
    cases hdecimal : decimal n with
    | nil => exact absurd hdecimal (Text.decimal_ne_nil n)
    | cons c cs =>
      have hdigit : isDigit c = true := by
        have hmem : c ∈ decimal n := by simp [hdecimal]
        exact Text.isDigit_of_mem_decimal c hmem
      have hminus : c ≠ '-' := by
        rintro rfl
        exact absurd hdigit (by decide)
      have hplus : c ≠ '+' := by
        rintro rfl
        exact absurd hdigit (by decide)
      have hread : Text.signed? (c :: cs) = (Text.natural? (c :: cs)).map fun n => (n : Int) := by
        unfold Text.signed?
        split
        · simp_all
        · simp_all
        · rfl
      rw [exponentPart?, hread, ← hdecimal, Text.natural?_decimal]
      rfl
  | plus n => simp [exponentPart?, Text.signed?]
  | minus n => simp [exponentPart?, Text.signed?]

/-- No digit and no point stand at the head of an exponent. -/
theorem WritesExponent.head {e : Int} {text : List Char} (h : WritesExponent e text) :
    ∀ c ∈ text.head?, isDigit c = false ∧ c ≠ '.' := by
  intro c hc
  cases h with
  | none => simp at hc
  | _ =>
    obtain rfl : 'e' = c := by simpa using hc
    decide

/-- Reading a magnitude gives back the parts that it is made of. -/
theorem Parts.Spells.parts?_eq {p : Parts} {text : List Char} (h : p.Spells text) :
    parts? text = some p := by
  obtain ⟨tail, htail, htext⟩ := h.text
  have hhead := htail.head
  have hwhole : p.whole.isEmpty = false := by simpa using h.whole.1
  by_cases hfraction : p.fraction = []
  · obtain ⟨htake, hdrop⟩ := Text.takeWhile_append_of_head h.whole.2 fun c hc => (hhead c hc).1
    have hrest : text = p.whole ++ tail := by simp [htext, pointed, hfraction]
    have hexponent := htail.exponentPart?_eq
    have hback : (⟨p.whole, [], p.exponent⟩ : Parts) = p := by rw [← hfraction]
    cases tail with
    | nil =>
      simp only [parts?, hrest, htake, hdrop, hwhole, hexponent]
      simp [hback]
    | cons c cs =>
      have hc : c ≠ '.' := (hhead c (by simp)).2
      simp only [parts?, hrest, htake, hdrop, hwhole]
      simp [hc, hexponent, hback]
  · have hpoint : ∀ c ∈ ('.' :: (p.fraction ++ tail)).head?, isDigit c = false := by
      intro c hc
      obtain rfl : '.' = c := by simpa using hc
      decide
    obtain ⟨htake, hdrop⟩ := Text.takeWhile_append_of_head h.whole.2 hpoint
    obtain ⟨hftake, hfdrop⟩ := Text.takeWhile_append_of_head h.fraction fun c hc => (hhead c hc).1
    have hrest : text = p.whole ++ '.' :: (p.fraction ++ tail) := by
      simp [htext, pointed, hfraction]
    unfold parts?
    simp only [hrest, htake, hdrop, hftake, hfdrop, hwhole, Bool.false_and, Bool.false_eq_true,
      if_false, htail.exponentPart?_eq, Option.bind_eq_bind, Option.bind_some]

/-- The characters of written numbers. -/
def isNumberChar (c : Char) : Bool := isDigit c || ['.', 'e', '+', '-'].contains c

theorem isNumberChar_of_digit {c : Char} (h : isDigit c = true) : isNumberChar c = true := by
  simp [isNumberChar, h]

theorem WritesExponent.chars {e : Int} {text : List Char} (h : WritesExponent e text) :
    ∀ c ∈ text, isNumberChar c = true := by
  have hdecimal : ∀ n, ∀ c ∈ decimal n, isNumberChar c = true := fun n c hc =>
    isNumberChar_of_digit (Text.isDigit_of_mem_decimal c hc)
  cases h with
  | none => simp
  | plain n =>
    intro c hc
    rcases List.mem_cons.mp hc with rfl | hc
    · decide
    · exact hdecimal n c hc
  | plus n =>
    intro c hc
    rcases List.mem_cons.mp hc with rfl | hc
    · decide
    · rcases List.mem_cons.mp hc with rfl | hc
      · decide
      · exact hdecimal n c hc
  | minus n =>
    intro c hc
    rcases List.mem_cons.mp hc with rfl | hc
    · decide
    · rcases List.mem_cons.mp hc with rfl | hc
      · decide
      · exact hdecimal n c hc

theorem Parts.Spells.chars {p : Parts} {text : List Char} (h : p.Spells text) :
    ∀ c ∈ text, isNumberChar c = true := by
  obtain ⟨tail, htail, rfl⟩ := h.text
  intro c hc
  simp only [List.mem_append] at hc
  rcases hc with (hc | hc) | hc
  · exact isNumberChar_of_digit (h.whole.2 c hc)
  · unfold pointed at hc
    split_ifs at hc
    · simp at hc
    · rcases List.mem_cons.mp hc with rfl | hc
      · decide
      · exact isNumberChar_of_digit (h.fraction c hc)
  · exact htail.chars c hc

/-- A magnitude starts with a digit. -/
theorem Parts.Spells.head {p : Parts} {text : List Char} (h : p.Spells text) :
    ∃ c cs, text = c :: cs ∧ isDigit c = true := by
  obtain ⟨tail, _, rfl⟩ := h.text
  obtain ⟨c, cs, hwhole⟩ := List.exists_cons_of_ne_nil h.whole.1
  rw [hwhole]
  exact ⟨c, _, rfl, h.whole.2 c (by simp [hwhole])⟩

/-- A layout that shows a whole number as such writes something beside digits. -/
theorem Layout.exists_not_digit {layout : Layout} (h : layout.pointZero = true) (d : Numeral) :
    ∃ c ∈ layout.magnitudeText d, isDigit c = false := by
  have hpositional : ∀ digits whole, '.' ∈ positionalText true digits whole := by
    intro digits whole
    simp only [positionalText, if_true]
    split_ifs <;> simp
  have hexponent : ∀ plus digits e, 'e' ∈ exponentText plus digits e := by
    intro plus digits e
    unfold exponentText
    simp
  unfold magnitudeText
  simp only [h]
  split_ifs
  · exact ⟨'.', hpositional _ _, by decide⟩
  · exact ⟨'e', hexponent _ _ _, by decide⟩

/-- Texts in a layout that are the same have the same sign and the same magnitude. -/
theorem Layout.magnitudeText_eq {layout : Layout} {x y : Binary64}
    (h : layout.text x = layout.text y) : x.isNegative = y.isNegative ∧
      layout.magnitudeText (shortest layout.tie x) =
        layout.magnitudeText (shortest layout.tie y) := by
  -- a magnitude starts with a digit, so that the first character tells the sign
  have hhead : ∀ z : Binary64, ∃ c cs, layout.magnitudeText (shortest layout.tie z) = c :: cs ∧
      isDigit c = true := fun z => by
    obtain ⟨r, hr, _⟩ := layout.magnitudeText_spells (shortest layout.tie z)
    exact hr.head
  unfold Layout.text at h
  cases hx : x.isNegative with
  | true =>
    cases hy : y.isNegative with
    | true => exact ⟨rfl, by simpa [hx, hy] using h⟩
    | false =>
      obtain ⟨c, cs, hc, hdigit⟩ := hhead y
      rw [hx, hy, hc] at h
      obtain rfl : '-' = c := by simpa using (List.cons.inj h).1
      exact absurd hdigit (by decide)
  | false =>
    cases hy : y.isNegative with
    | true =>
      obtain ⟨c, cs, hc, hdigit⟩ := hhead x
      rw [hx, hy, hc] at h
      obtain rfl : c = '-' := by simpa using (List.cons.inj h).1
      exact absurd hdigit (by decide)
    | false => exact ⟨rfl, by simpa [hx, hy] using h⟩

/-- Numbers are told by their texts in a layout. -/
theorem Layout.text_injective {layout : Layout} {x y : Binary64}
    (h : layout.text x = layout.text y) : x = y := by
  obtain ⟨p, hp, hpvalue⟩ := layout.magnitudeText_spells (shortest layout.tie x)
  obtain ⟨q, hq, hqvalue⟩ := layout.magnitudeText_spells (shortest layout.tie y)
  have hparts := magnitudeText_eq h
  rw [hparts.2] at hp
  have hpq : p = q := by
    have hread := hp.parts?_eq
    rw [hq.parts?_eq, Option.some.injEq] at hread
    exact hread.symm
  have hvalue : (shortest layout.tie x).value = (shortest layout.tie y).value := by
    rw [← hpvalue, ← hqvalue, hpq]
  exact shortest_injective hparts.1 hvalue

end Decimal

namespace Number

theorem chars_isNumberChar (n : Number) : ∀ c ∈ n.chars, Decimal.isNumberChar c = true := by
  have hdecimal : ∀ k, ∀ c ∈ decimal k, Decimal.isNumberChar c = true := fun k c hc =>
    Decimal.isNumberChar_of_digit (Text.isDigit_of_mem_decimal c hc)
  cases n with
  | natural n => exact hdecimal _
  | negative k =>
    intro c hc
    rcases List.mem_cons.mp hc with rfl | hc
    · decide
    · exact hdecimal _ c hc
  | double x =>
    obtain ⟨p, hp, _⟩ := doubleLayout.magnitudeText_spells (Decimal.shortest doubleLayout.tie x)
    intro c hc
    rcases List.mem_append.mp hc with hc | hc
    · split_ifs at hc
      · rw [List.mem_singleton.mp hc]
        decide
      · simp at hc
    · exact hp.chars c hc

/-- A floating-point number is visibly none of the whole ones. -/
theorem magnitudeText_ne_decimal (d : Decimal.Numeral) (k : Nat) :
    doubleLayout.magnitudeText d ≠ decimal k := by
  intro h
  obtain ⟨c, hc, hdigit⟩ := @Decimal.Layout.exists_not_digit doubleLayout rfl d
  rw [h] at hc
  rw [Text.isDigit_of_mem_decimal c hc] at hdigit
  exact absurd hdigit (by decide)

theorem decimal_ne_minus (n : Nat) (cs : List Char) : decimal n ≠ '-' :: cs := by
  intro h
  have hmem : '-' ∈ decimal n := by simp [h]
  exact absurd (Text.isDigit_of_mem_decimal '-' hmem) (by decide)

theorem text_double_ne (x : Binary64) (k : Nat) :
    doubleLayout.text x ≠ decimal k ∧ doubleLayout.text x ≠ '-' :: decimal k := by
  have hne := magnitudeText_ne_decimal (Decimal.shortest doubleLayout.tie x)
  unfold Decimal.Layout.text
  cases x.isNegative with
  | true =>
    refine ⟨fun h => decimal_ne_minus k _ h.symm, fun h => hne k ?_⟩
    simpa using h
  | false =>
    refine ⟨hne k, fun h => ?_⟩
    obtain ⟨p, hp, _⟩ := doubleLayout.magnitudeText_spells (Decimal.shortest doubleLayout.tie x)
    obtain ⟨c, cs, hc, hdigit⟩ := hp.head
    have hhead : c :: cs = '-' :: decimal k := by rw [← hc]; simpa using h
    rw [(List.cons.inj hhead).1] at hdigit
    exact absurd hdigit (by decide)

/-- Numbers of any kind are told by their texts. -/
theorem chars_injective {n m : Number} (h : n.chars = m.chars) : n = m := by
  cases n with
  | natural a =>
    cases m with
    | natural b => rw [UInt64.toNat_inj.mp (Text.decimal_injective h)]
    | negative k => exact absurd h (decimal_ne_minus _ _)
    | double x => exact absurd h.symm (text_double_ne x _).1
  | negative j =>
    cases m with
    | natural b => exact absurd h.symm (decimal_ne_minus _ _)
    | negative k =>
      have hvalue := Text.decimal_injective (List.cons.inj h).2
      rw [Fin.ext (Nat.succ.inj hvalue)]
    | double x => exact absurd h.symm (text_double_ne x _).2
  | double x =>
    cases m with
    | natural b => exact absurd h (text_double_ne x _).1
    | negative k => exact absurd h (text_double_ne x _).2
    | double y => rw [Decimal.Layout.text_injective h]

end Number

namespace Json

/-! ## Texts -/

/-- The first character of a quoted text, and what follows it. -/
def firstChar? : List Char → Option (Char × List Char)
  | '\\' :: 'u' :: a :: b :: c :: d :: rest =>
    (Reader.hex4? a b c d).map fun n => (Char.ofNat n, rest)
  | '\\' :: c :: rest => (Reader.escape? c).map fun c => (c, rest)
  | c :: rest => some (c, rest)
  | [] => none

theorem hex4?_hexDigit : ∀ n < 32,
    Reader.hex4? '0' '0' (Text.hexDigit (n / 16)) (Text.hexDigit (n % 16)) = some n := by
  decide

/-- An escaped character is read as itself. -/
theorem firstChar?_escapeChar (c : Char) (rest : List Char) :
    firstChar? (escapeChar c ++ rest) = some (c, rest) := by
  have hofNat : ∀ n, c.toNat = n → Char.ofNat n = c := fun n h => by
    rw [← h, Char.ofNat_toNat]
  unfold escapeChar
  split_ifs with h₁ h₂ h₃ h₄ h₅ h₆ h₇ h₈
  · rw [h₁]; rfl
  · rw [h₂]; rfl
  · rw [h₃]; rfl
  · rw [h₄]; rfl
  · rw [h₅]; rfl
  · rw [← hofNat 8 h₆]; rfl
  · rw [← hofNat 12 h₇]; rfl
  · simp only [List.cons_append, List.nil_append, firstChar?, hex4?_hexDigit _ h₈, Option.map_some,
      hofNat _ rfl]
  · have hplain : c ≠ '\\' := h₂
    simp [firstChar?, hplain]

theorem escapeChar_head (c : Char) : ∃ d ds, escapeChar c = d :: ds ∧ d ≠ '"' := by
  unfold escapeChar
  split_ifs with hquote
  · exact ⟨'\\', _, rfl, by decide⟩
  · exact ⟨'\\', _, rfl, by decide⟩
  · exact ⟨'\\', _, rfl, by decide⟩
  · exact ⟨'\\', _, rfl, by decide⟩
  · exact ⟨'\\', _, rfl, by decide⟩
  · exact ⟨'\\', _, rfl, by decide⟩
  · exact ⟨'\\', _, rfl, by decide⟩
  · exact ⟨'\\', _, rfl, by decide⟩
  · exact ⟨c, _, rfl, hquote⟩

/-- Quoted texts end at the first quote that is not escaped. -/
theorem flatMap_escapeChar_injective {cs ds r s : List Char}
    (h : cs.flatMap escapeChar ++ '"' :: r = ds.flatMap escapeChar ++ '"' :: s) :
    cs = ds ∧ r = s := by
  induction cs generalizing ds with
  | nil =>
    cases ds with
    | nil => exact ⟨rfl, (List.cons.inj h).2⟩
    | cons d ds =>
      obtain ⟨e, es, he, hne⟩ := escapeChar_head d
      rw [List.flatMap_cons, he] at h
      exact absurd (List.cons.inj h).1.symm hne
  | cons c cs ih =>
    cases ds with
    | nil =>
      obtain ⟨e, es, he, hne⟩ := escapeChar_head c
      rw [List.flatMap_cons, he] at h
      exact absurd (List.cons.inj h).1 hne
    | cons d ds =>
      rw [List.flatMap_cons, List.flatMap_cons, List.append_assoc, List.append_assoc] at h
      have hfirst := congrArg firstChar? h
      rw [firstChar?_escapeChar, firstChar?_escapeChar, Option.some.injEq, Prod.mk.injEq] at hfirst
      obtain ⟨hcs, hr⟩ := ih hfirst.2
      exact ⟨by rw [hfirst.1, hcs], hr⟩

theorem quoted_injective {a b : String} {r s : List Char} (h : quoted a ++ r = quoted b ++ s) :
    a = b ∧ r = s := by
  simp only [quoted, List.cons_append, List.append_assoc, List.cons.injEq, true_and] at h
  obtain ⟨hchars, hr⟩ := flatMap_escapeChar_injective h
  exact ⟨String.toList_inj.mp hchars, hr⟩

/-! ## Documents -/

/-- A text that begins with no character of a number. -/
def AfterValue (rest : List Char) : Prop := ∀ c ∈ rest.head?, Decimal.isNumberChar c = false

/-- The kinds of documents that their first characters tell. -/
def kind : Json → Nat
  | .null => 0
  | .bool true => 1
  | .bool false => 2
  | .number _ => 3
  | .string _ => 4
  | .array _ => 5
  | .object _ => 6

/-- The kind of document that begins with a character; none begins with a closing bracket. -/
def kindOf (c : Char) : Nat :=
  if c = 'n' then 0
  else if c = 't' then 1
  else if c = 'f' then 2
  else if c = '"' then 4
  else if c = '[' then 5
  else if c = '\x7b' then 6
  else if c = ']' then 7
  else 3

theorem number_head (n : Number) : ∃ c cs, n.chars = c :: cs ∧ Decimal.isNumberChar c = true := by
  have hall := n.chars_isNumberChar
  cases hchars : n.chars with
  | nil =>
    exfalso
    cases n with
    | natural n => exact Text.decimal_ne_nil _ hchars
    | negative k => exact absurd hchars (by simp [Number.chars])
    | double x =>
      obtain ⟨p, hp, _⟩ := Number.doubleLayout.magnitudeText_spells
        (Decimal.shortest Number.doubleLayout.tie x)
      obtain ⟨c, cs, hc, _⟩ := hp.head
      simp [Number.chars, Decimal.Layout.text, hc] at hchars
  | cons c cs => exact ⟨c, cs, rfl, hall c (by simp [hchars])⟩

theorem kindOf_of_isNumberChar {c : Char} (h : Decimal.isNumberChar c = true) : kindOf c = 3 := by
  have hne : ∀ d, Decimal.isNumberChar d = false → c ≠ d := by
    rintro d hd rfl
    rw [h] at hd
    exact absurd hd (by decide)
  simp [kindOf, hne 'n' (by decide), hne 't' (by decide), hne 'f' (by decide),
    hne '"' (by decide), hne '[' (by decide), hne '\x7b' (by decide), hne ']' (by decide)]

/-- The first character of a document tells its kind. -/
theorem exists_head (a : Json) : ∃ c cs, a.chars = c :: cs ∧ kindOf c = a.kind := by
  cases a with
  | null => exact ⟨'n', _, rfl, rfl⟩
  | bool b => cases b <;> exact ⟨_, _, rfl, rfl⟩
  | number n =>
    obtain ⟨c, cs, hc, hnumber⟩ := number_head n
    exact ⟨c, cs, hc, kindOf_of_isNumberChar hnumber⟩
  | string s => exact ⟨'"', _, rfl, rfl⟩
  | array items => cases items <;> exact ⟨'[', _, rfl, rfl⟩
  | object members => cases members <;> exact ⟨'\x7b', _, rfl, rfl⟩

theorem chars_head_ne (a : Json) (cs : List Char) : a.chars ≠ ']' :: cs := by
  intro h
  obtain ⟨c, cs', hc, hkind⟩ := exists_head a
  rw [hc] at h
  rw [(List.cons.inj h).1] at hkind
  cases a with
  | bool b => cases b <;> exact absurd hkind (by decide)
  | _ => simp [kindOf, kind] at hkind

theorem kind_eq {a b : Json} {r s : List Char} (h : a.chars ++ r = b.chars ++ s) :
    a.kind = b.kind := by
  obtain ⟨c, cs, hc, hkind⟩ := exists_head a
  obtain ⟨d, ds, hd, hkind'⟩ := exists_head b
  rw [hc, hd] at h
  rw [← hkind, ← hkind', (List.cons.inj h).1]

/-- A number ends where no character of a number follows. -/
theorem number_append_injective {n m : Number} {r s : List Char} (hr : AfterValue r)
    (hs : AfterValue s) (h : n.chars ++ r = m.chars ++ s) : n = m ∧ r = s := by
  obtain ⟨hn, hnr⟩ := Text.takeWhile_append_of_head n.chars_isNumberChar hr
  obtain ⟨hm, hms⟩ := Text.takeWhile_append_of_head m.chars_isNumberChar hs
  rw [h, hm] at hn
  rw [h, hms] at hnr
  exact ⟨Number.chars_injective hn.symm, hnr.symm⟩

theorem afterValue_items (items : List Json) (r : List Char) : AfterValue (itemsChars items ++ r) := by
  intro c hc
  cases items with
  | nil =>
    obtain rfl : ']' = c := by simpa [itemsChars] using hc
    decide
  | cons item items =>
    obtain rfl : ',' = c := by simpa [itemsChars] using hc
    decide

theorem afterValue_members (members : List (String × Json)) (r : List Char) :
    AfterValue (membersChars members ++ r) := by
  intro c hc
  cases members with
  | nil =>
    obtain rfl : '\x7d' = c := by simpa [membersChars] using hc
    decide
  | cons member members =>
    obtain rfl : ',' = c := by simpa [membersChars] using hc
    decide

mutual

/-- A document ends where its text says, and no other document has that text. -/
theorem chars_append_injective : ∀ (a b : Json) {r s : List Char}, AfterValue r → AfterValue s →
    a.chars ++ r = b.chars ++ s → a = b ∧ r = s
  | .null, b, r, s, _, _, h => by
    have hkind := kind_eq h
    cases b with
    | null => exact ⟨rfl, List.append_cancel_left h⟩
    | bool q => cases q <;> simp [kind] at hkind
    | _ => simp [kind] at hkind
  | .bool p, b, r, s, _, _, h => by
    have hkind := kind_eq h
    cases b with
    | bool q =>
      cases p <;> cases q <;> first
        | exact ⟨rfl, List.append_cancel_left h⟩
        | simp [kind] at hkind
    | _ => cases p <;> simp [kind] at hkind
  | .number n, b, r, s, hr, hs, h => by
    have hkind := kind_eq h
    cases b with
    | number m =>
      obtain ⟨hn, hrs⟩ := number_append_injective hr hs h
      exact ⟨by rw [hn], hrs⟩
    | bool q => cases q <;> simp [kind] at hkind
    | _ => simp [kind] at hkind
  | .string p, b, r, s, _, _, h => by
    have hkind := kind_eq h
    cases b with
    | string q =>
      obtain ⟨hp, hrs⟩ := quoted_injective h
      exact ⟨by rw [hp], hrs⟩
    | bool q => cases q <;> simp [kind] at hkind
    | _ => simp [kind] at hkind
  | .array as, b, r, s, _, _, h => by
    have hkind := kind_eq h
    cases b with
    | array bs =>
      obtain ⟨has, hrs⟩ := arrayChars_append_injective as bs h
      exact ⟨by rw [has], hrs⟩
    | bool q => cases q <;> simp [kind] at hkind
    | _ => simp [kind] at hkind
  | .object as, b, r, s, _, _, h => by
    have hkind := kind_eq h
    cases b with
    | object bs =>
      obtain ⟨has, hrs⟩ := objectChars_append_injective as bs h
      exact ⟨by rw [has], hrs⟩
    | bool q => cases q <;> simp [kind] at hkind
    | _ => simp [kind] at hkind

theorem arrayChars_append_injective : ∀ (as bs : List Json) {r s : List Char},
    (Json.array as).chars ++ r = (Json.array bs).chars ++ s → as = bs ∧ r = s
  | [], [], r, s, h => ⟨rfl, List.append_cancel_left h⟩
  | [], b :: bs, r, s, h => by
    obtain ⟨c, cs, hc, _⟩ := exists_head b
    simp only [chars, hc, List.cons_append, List.nil_append, List.cons.injEq, true_and] at h
    exact absurd (h.1 ▸ hc) (chars_head_ne b cs)
  | a :: as, [], r, s, h => by
    obtain ⟨c, cs, hc, _⟩ := exists_head a
    simp only [chars, hc, List.cons_append, List.nil_append, List.cons.injEq, true_and] at h
    exact absurd (h.1 ▸ hc) (chars_head_ne a cs)
  | a :: as, b :: bs, r, s, h => by
    simp only [chars, List.cons_append, List.append_assoc, List.cons.injEq, true_and] at h
    obtain ⟨hab, hrest⟩ :=
      chars_append_injective a b (afterValue_items as r) (afterValue_items bs s) h
    obtain ⟨has, hrs⟩ := itemsChars_append_injective as bs hrest
    exact ⟨by rw [hab, has], hrs⟩

theorem itemsChars_append_injective : ∀ (as bs : List Json) {r s : List Char},
    itemsChars as ++ r = itemsChars bs ++ s → as = bs ∧ r = s
  | [], [], r, s, h => ⟨rfl, List.append_cancel_left h⟩
  | [], b :: bs, r, s, h => by
    simp [itemsChars] at h
  | a :: as, [], r, s, h => by
    simp [itemsChars] at h
  | a :: as, b :: bs, r, s, h => by
    simp only [itemsChars, List.cons_append, List.append_assoc, List.cons.injEq, true_and] at h
    obtain ⟨hab, hrest⟩ :=
      chars_append_injective a b (afterValue_items as r) (afterValue_items bs s) h
    obtain ⟨has, hrs⟩ := itemsChars_append_injective as bs hrest
    exact ⟨by rw [hab, has], hrs⟩

theorem objectChars_append_injective : ∀ (as bs : List (String × Json)) {r s : List Char},
    (Json.object as).chars ++ r = (Json.object bs).chars ++ s → as = bs ∧ r = s
  | [], [], r, s, h => ⟨rfl, List.append_cancel_left h⟩
  | [], (m, b) :: bs, r, s, h => by
    simp [chars, quoted] at h
  | (n, a) :: as, [], r, s, h => by
    simp [chars, quoted] at h
  | (n, a) :: as, (m, b) :: bs, r, s, h => by
    simp only [chars, List.cons_append, List.append_assoc, List.cons.injEq, true_and] at h
    obtain ⟨hnm, hvalue⟩ := quoted_injective h
    obtain ⟨hab, hrest⟩ := chars_append_injective a b (afterValue_members as r)
      (afterValue_members bs s) (List.cons.inj hvalue).2
    obtain ⟨has, hrs⟩ := membersChars_append_injective as bs hrest
    exact ⟨by rw [hnm, hab, has], hrs⟩

theorem membersChars_append_injective : ∀ (as bs : List (String × Json)) {r s : List Char},
    membersChars as ++ r = membersChars bs ++ s → as = bs ∧ r = s
  | [], [], r, s, h => ⟨rfl, List.append_cancel_left h⟩
  | [], (m, b) :: bs, r, s, h => by
    simp [membersChars] at h
  | (n, a) :: as, [], r, s, h => by
    simp [membersChars] at h
  | (n, a) :: as, (m, b) :: bs, r, s, h => by
    simp only [membersChars, List.cons_append, List.append_assoc, List.cons.injEq, true_and] at h
    obtain ⟨hnm, hvalue⟩ := quoted_injective h
    obtain ⟨hab, hrest⟩ := chars_append_injective a b (afterValue_members as r)
      (afterValue_members bs s) (List.cons.inj hvalue).2
    obtain ⟨has, hrs⟩ := membersChars_append_injective as bs hrest
    exact ⟨by rw [hnm, hab, has], hrs⟩

end

/-- Documents are told by their texts. -/
theorem text_injective {a b : Json} (h : a.text = b.text) : a = b := by
  have hchars : a.chars ++ [] = b.chars ++ [] := by
    rw [List.append_nil, List.append_nil]
    exact String.ofList_inj.mp h
  exact (chars_append_injective a b (by simp [AfterValue]) (by simp [AfterValue]) hchars).1

end Json

end KustoSearch
