import KustoSearch.Proofs.Kql.Expression
import Mathlib.Data.List.Forall2

/-! # Reading texts that are put together

`Spells cs items` says that a text gives some items wherever it stands. Texts that are put
together from such texts, with blanks, operators and brackets between them, spell the items of the
parts in order. The second half says how items read at each level of precedence.
-/

namespace KustoSearch.Kql

/-! ## Items of a text -/

/-- Tokens that add items to whatever bracket they stand in. -/
def Reads (ts : List Token) (items : List Item) : Prop :=
  ∀ outer frame rest, Frame.readFrom outer frame (ts ++ rest) =
    Frame.readFrom outer ⟨frame.read, items.reverse ++ frame.items⟩ rest

/-- A text that gives some items wherever it stands. -/
def Spells (cs : List Char) (items : List Item) : Prop := ∃ ts, Scans cs ts ∧ Reads ts items

/-- Tokens that stand for themselves; brackets and commas do not. -/
def Token.isPlain : Token → Bool
  | .opening => false
  | .closing => false
  | .comma => false
  | _ => true

theorem reads_nil : Reads [] [] := by
  intro outer frame rest
  rfl

theorem reads_singleton {t : Token} (h : t.isPlain = true) : Reads [t] [.token t] := by
  intro outer frame rest
  cases t with
  | name _ => rfl
  | number _ => rfl
  | column _ => rfl
  | text _ => rfl
  | mark _ => rfl
  | opening => exact absurd h (by decide)
  | closing => exact absurd h (by decide)
  | comma => exact absurd h (by decide)

theorem Reads.append {ts us : List Token} {as bs : List Item} (ha : Reads ts as)
    (hb : Reads us bs) : Reads (ts ++ us) (as ++ bs) := by
  intro outer frame rest
  rw [List.append_assoc, ha, hb, List.reverse_append, List.append_assoc]

theorem Reads.cons {t : Token} {ts : List Token} {items : List Item} (h : t.isPlain = true)
    (hts : Reads ts items) : Reads (t :: ts) (.token t :: items) :=
  (reads_singleton h).append hts

theorem spells_nil : Spells [] [] := ⟨[], scans_nil, reads_nil⟩

theorem spells_token {cs : List Char} {t : Token} (h : Scans cs [t]) (ht : t.isPlain = true) :
    Spells cs [.token t] :=
  ⟨[t], h, reads_singleton ht⟩

theorem Spells.append {a b : List Char} {as bs : List Item} (ha : Spells a as)
    (hb : Spells b bs) (hend : ∀ rest, AtEnd rest → AtEnd (b ++ rest)) :
    Spells (a ++ b) (as ++ bs) := by
  obtain ⟨ts, hts, has⟩ := ha
  obtain ⟨us, hus, hbs⟩ := hb
  exact ⟨ts ++ us, hts.append hus hend, has.append hbs⟩

theorem Spells.blank {a : List Char} {as : List Item} (ha : Spells a as) :
    Spells (' ' :: a) as := by
  obtain ⟨ts, hts, has⟩ := ha
  exact ⟨ts, hts.blank, has⟩

/-- Two texts with a blank between them. -/
theorem Spells.append_blank {a b : List Char} {as bs : List Item} (ha : Spells a as)
    (hb : Spells b bs) : Spells (a ++ ' ' :: b) (as ++ bs) :=
  ha.append hb.blank fun _ _ => atEnd_blank _

/-- A sign directly before a text. -/
theorem Spells.sign {c : Char} {a : List Char} {as : List Item}
    (hc : Lexer.isSignChar c = true) (ha : Spells a as) :
    Spells (c :: a) (.token (.mark (String.ofList [c])) :: as) := by
  obtain ⟨ts, hts, has⟩ := ha
  exact ⟨_, hts.sign hc, has.cons rfl⟩

/-- The one sign that stands for any column. -/
theorem spells_star : Spells ['*'] [.token (.mark "*")] := spells_nil.sign (by decide)

theorem spells_column (name : String) :
    Spells (identifier name).toList [.token (.column name)] :=
  spells_token (scans_identifier name) rfl

theorem spells_text (s : String) : Spells (textLiteral s).toList [.token (.text s)] :=
  spells_token (scans_textLiteral s) rfl

theorem IsNumeral.spells {cs : List Char} (h : IsNumeral cs) :
    Spells cs [.token (.number (String.ofList cs))] :=
  spells_token h.scans rfl

/-- Whether some characters are a bare word; it starts with no digit. -/
def isWord : List Char → Bool
  | [] => false
  | c :: cs => !Text.isDigit c && Lexer.isNameStart c && cs.all Lexer.isNameChar

theorem spells_word (word : String) (h : isWord word.toList = true) :
    Spells word.toList [.token (.name word)] := by
  have hback : String.ofList word.toList = word := String.ofList_toList
  cases hword : word.toList with
  | nil =>
    rw [hword] at h
    exact absurd h (by decide)
  | cons c cs =>
    rw [hword] at h hback
    simp only [isWord, Bool.and_eq_true, Bool.not_eq_true', List.all_eq_true] at h
    have hscan := scans_name h.1.1 h.1.2 h.2
    rw [hback] at hscan
    exact spells_token hscan rfl

/-- An operator made of comparison characters. -/
theorem spells_comparison {c : Char} {cs : List Char} (hc : Lexer.isComparisonChar c = true)
    (hcs : ∀ x ∈ cs, Lexer.isComparisonChar x = true) :
    Spells (c :: cs) [.token (.mark (String.ofList (c :: cs)))] :=
  spells_token (scans_comparison hc hcs) rfl

/-! ## Brackets -/

/-- Nothing reads as no expression. -/
theorem Item.expression_nil : Item.expression [] = none := rfl

theorem Item.ne_nil_of_expression {items : List Item} {e : Expression}
    (h : Item.expression items = some e) : items ≠ [] := by
  rintro rfl
  rw [Item.expression_nil] at h
  exact absurd h (by simp)

/-- Tokens up to a closing bracket, which give the expressions of a list. -/
def ReadsList (ts : List Token) (es : List Expression) : Prop :=
  ∀ parent outer read rest,
    Frame.readFrom (parent :: outer) ⟨read, []⟩ (ts ++ .closing :: rest) =
      Frame.readFrom outer (parent.push (.group (read.reverse ++ es))) rest

/-- The text of a list of expressions, as it stands between brackets. -/
def SpellsList (cs : List Char) (es : List Expression) : Prop :=
  ∃ ts, Scans cs ts ∧ ReadsList ts es

theorem Spells.list_singleton {cs : List Char} {items : List Item} {e : Expression}
    (h : Spells cs items) (he : Item.expression items = some e) : SpellsList cs [e] := by
  obtain ⟨ts, hts, hitems⟩ := h
  refine ⟨ts, hts, fun parent outer read rest => ?_⟩
  have hne : items.reverse ≠ [] := by simpa using Item.ne_nil_of_expression he
  obtain ⟨i, is, his⟩ := List.exists_cons_of_ne_nil hne
  have hback : (i :: is).reverse = items := by rw [← his, List.reverse_reverse]
  rw [hitems, his, List.append_nil]
  simp only [Frame.readFrom, Frame.close?, hback, he, Option.map_some, List.reverse_cons]

theorem Spells.list_cons {cs ds : List Char} {items : List Item} {e : Expression}
    {es : List Expression} (h : Spells cs items) (he : Item.expression items = some e)
    (hlist : SpellsList ds es) : SpellsList (cs ++ ',' :: ' ' :: ds) (e :: es) := by
  obtain ⟨ts, hts, hitems⟩ := h
  obtain ⟨us, hus, hes⟩ := hlist
  refine ⟨ts ++ .comma :: us, hts.append hus.blank.comma fun _ _ => atEnd_comma _,
    fun parent outer read rest => ?_⟩
  rw [List.append_assoc, hitems, List.cons_append]
  simp only [Frame.readFrom, List.append_nil, List.reverse_reverse, he]
  rw [hes, List.reverse_cons, List.append_assoc, List.singleton_append]

theorem SpellsList.group {cs : List Char} {es : List Expression} (h : SpellsList cs es) :
    Spells ('(' :: (cs ++ [')'])) [.group es] := by
  obtain ⟨ts, hts, hes⟩ := h
  refine ⟨.opening :: (ts ++ [.closing]), hts.group, fun outer frame rest => ?_⟩
  have hread := hes frame outer [] rest
  rw [List.cons_append, List.append_assoc, List.singleton_append]
  simp only [Frame.readFrom, Frame.empty]
  rw [hread]
  rfl

theorem spells_emptyGroup : Spells ['(', ')'] [.group []] := by
  refine ⟨[.opening, .closing], scans_nil.closing.opening, fun outer frame rest => ?_⟩
  rfl

theorem Spells.group {cs : List Char} {items : List Item} {e : Expression}
    (h : Spells cs items) (he : Item.expression items = some e) :
    Spells ('(' :: (cs ++ [')'])) [.group [e]] :=
  (h.list_singleton he).group

/-- A call is a word and a bracket directly behind it. -/
theorem Spells.call {cs : List Char} {es : List Expression} (function : String)
    (hf : isWord function.toList = true) (h : Spells ('(' :: cs) [.group es]) :
    Spells (function.toList ++ '(' :: cs) [.token (.name function), .group es] :=
  (spells_word function hf).append h fun _ _ => atEnd_opening _

/-- A text that spells a whole expression is read as it. -/
theorem Spells.read?_eq {s : String} {items : List Item} {e : Expression}
    (h : Spells s.toList items) (he : Item.expression items = some e) :
    Expression.read? s = some e := by
  obtain ⟨ts, hts, hitems⟩ := h
  have htokens : tokens? s.toList = some ts := by
    have hscan := hts [] atEnd_nil
    have hempty : tokens? [] = some [] := by rw [tokens?]
    rw [List.append_nil, hempty] at hscan
    simpa using hscan
  have hread := hitems [] Frame.empty []
  rw [List.append_nil] at hread
  rw [Expression.read?, htokens, Option.bind_some, hread]
  simp [Frame.readFrom, Frame.empty, he]

/-! ## Levels of precedence -/

theorem forall_mem_of_forall₂ {α β : Type} {r : α → β → Prop} {p : α → Prop} {as : List α}
    {bs : List β} (h : List.Forall₂ r as bs) (hp : ∀ a b, r a b → p a) : ∀ a ∈ as, p a := by
  induction h with
  | nil => exact List.forall_mem_nil _
  | cons hfirst _ ih => exact List.forall_mem_cons.mpr ⟨hp _ _ hfirst, ih⟩

namespace Item

@[simp] theorem pieces_nil (mark : Item → Bool) : pieces mark [] = ([], []) := rfl

theorem pieces_cons_of_mark {mark : Item → Bool} {item : Item} (items : List Item)
    (h : mark item = true) :
    pieces mark (item :: items) = ([], (item, (pieces mark items).1) :: (pieces mark items).2) := by
  simp [pieces, h]

theorem pieces_cons_of_not {mark : Item → Bool} {item : Item} (items : List Item)
    (h : mark item = false) :
    pieces mark (item :: items) = (item :: (pieces mark items).1, (pieces mark items).2) := by
  simp [pieces, h]

/-- Items without a mark are one piece. -/
theorem pieces_of_none {mark : Item → Bool} {items : List Item}
    (h : ∀ i ∈ items, mark i = false) : pieces mark items = (items, []) := by
  induction items with
  | nil => rfl
  | cons item items ih =>
    rw [pieces_cons_of_not items (h item (by simp)), ih fun i hi => h i (by simp [hi])]

/-- Items without a mark in front belong to the first piece. -/
theorem pieces_append_left {mark : Item → Bool} {items : List Item} (rest : List Item)
    (h : ∀ i ∈ items, mark i = false) :
    pieces mark (items ++ rest) = (items ++ (pieces mark rest).1, (pieces mark rest).2) := by
  induction items with
  | nil => rfl
  | cons item items ih =>
    rw [List.cons_append, pieces_cons_of_not _ (h item (by simp)),
      ih fun i hi => h i (by simp [hi])]
    rfl

/-- One more piece behind some others. -/
theorem pieces_append {mark : Item → Bool} {items piece : List Item} {m : Item}
    (hm : mark m = true) (hpiece : ∀ i ∈ piece, mark i = false) :
    pieces mark (items ++ m :: piece) =
      ((pieces mark items).1, (pieces mark items).2 ++ [(m, piece)]) := by
  induction items with
  | nil => simp [pieces_cons_of_mark piece hm, pieces_of_none hpiece]
  | cons item items ih =>
    rw [List.cons_append]
    cases h : mark item with
    | true => simp [pieces_cons_of_mark _ h, ih]
    | false => simp [pieces_cons_of_not _ h, ih]

/-- Whether an item binds less closely than a sign. -/
def isLoose (item : Item) : Bool := item.isComparator || item.isWord "and" || item.isWord "or"

/-- Items that are read as something that binds closest. -/
structure IsOperand (items : List Item) (e : Expression) : Prop where
  read : operand items = some e
  sign : ∀ i ∈ items, i.isSign = false
  loose : ∀ i ∈ items, i.isLoose = false

/-- Items that are read as a sum. -/
structure IsSum (items : List Item) (e : Expression) : Prop where
  read : sum items = some e
  loose : ∀ i ∈ items, i.isLoose = false

/-- Items that are read as a comparison. -/
structure IsComparison (items : List Item) (e : Expression) : Prop where
  read : comparison items = some e
  both : ∀ i ∈ items, i.isWord "and" = false
  either : ∀ i ∈ items, i.isWord "or" = false

theorem isComparator_of_loose {item : Item} (h : item.isLoose = false) :
    item.isComparator = false := by
  simp only [isLoose, Bool.or_eq_false_iff] at h
  exact h.1.1

theorem isAnd_of_loose {item : Item} (h : item.isLoose = false) : item.isWord "and" = false := by
  simp only [isLoose, Bool.or_eq_false_iff] at h
  exact h.1.2

theorem isOr_of_loose {item : Item} (h : item.isLoose = false) : item.isWord "or" = false := by
  simp only [isLoose, Bool.or_eq_false_iff] at h
  exact h.2

theorem operand_nil : operand [] = none := rfl

theorem IsOperand.isSum {items : List Item} {e : Expression} (h : IsOperand items e) :
    IsSum items e := by
  refine ⟨?_, h.loose⟩
  rw [sum, pieces_of_none h.sign]
  cases items with
  | nil => exact absurd h.read (by simp [operand_nil])
  | cons item items =>
    rw [firstPart, h.read]
    · rfl
    · exact fun _ _ _ h => by simp at h

/-- A minus sign before something that binds closest. -/
theorem IsOperand.negative {items : List Item} {e : Expression} (h : IsOperand items e) :
    IsSum (.token (.mark "-") :: items) (.negative e) := by
  have hminus : isSign (.token (.mark "-")) = true := by decide
  constructor
  · rw [sum, pieces_cons_of_mark items hminus, pieces_of_none h.sign, firstPart, h.read]
    rfl
  · intro i hi
    rcases List.mem_cons.mp hi with rfl | hi
    · decide
    · exact h.loose i hi

theorem firstPart_append {first : List Item} {rest rest' : List (Item × List Item)}
    {e : Expression} (piece : Item × List Item) (h : firstPart (first, rest) = some (e, rest')) :
    firstPart (first, rest ++ [piece]) = some (e, rest' ++ [piece]) := by
  cases first with
  | nil =>
    cases rest with
    | nil =>
      rw [firstPart] at h
      · exact absurd h (by simp [operand_nil])
      · exact fun _ _ _ _ h => by simp at h
    | cons head rest =>
      simp only [List.cons_append, firstPart, Option.map_eq_some_iff, Prod.mk.injEq] at h ⊢
      obtain ⟨a, ha, he, rfl⟩ := h
      exact ⟨a, ha, he, rfl⟩
  | cons item items =>
    simp only [firstPart, Option.map_eq_some_iff, Prod.mk.injEq] at h ⊢
    obtain ⟨a, ha, he, rfl⟩ := h
    exact ⟨a, ha, he, rfl⟩

/-- A sum with one part more. -/
theorem IsSum.append {items piece : List Item} {mark : Item} {e p : Expression}
    (h : IsSum items e) (hmark : mark.isSign = true) (hloose : mark.isLoose = false)
    (hp : IsOperand piece p) :
    IsSum (items ++ mark :: piece) (if mark.isMark "+" then .plus e p else .minus e p) := by
  have hadd : addPiece e (mark, piece) =
      some (if mark.isMark "+" then .plus e p else .minus e p) := by
    by_cases hm : mark.isMark "+" = true
    · simp [addPiece, hm, hp.read]
    · simp [addPiece, hm, hp.read]
  constructor
  · have hread := h.read
    simp only [sum, Option.bind_eq_bind, Option.bind_eq_some_iff] at hread ⊢
    obtain ⟨⟨first, rest⟩, hfirst, hrest⟩ := hread
    refine ⟨(first, rest ++ [(mark, piece)]), ?_, ?_⟩
    · rw [pieces_append hmark hp.sign]
      exact firstPart_append (mark, piece) hfirst
    · rw [List.foldlM_append, hrest]
      simp [hadd]
  · intro i hi
    rcases List.mem_append.mp hi with hi | hi
    · exact h.loose i hi
    · rcases List.mem_cons.mp hi with rfl | hi
      · exact hloose
      · exact hp.loose i hi

theorem IsSum.isComparison {items : List Item} {e : Expression} (h : IsSum items e) :
    IsComparison items e := by
  refine ⟨?_, fun i hi => isAnd_of_loose (h.loose i hi), fun i hi => isOr_of_loose (h.loose i hi)⟩
  rw [comparison, pieces_of_none fun i hi => isComparator_of_loose (h.loose i hi)]
  exact h.read

/-- An operator between a sum and items that hold none. -/
theorem IsSum.comparison_append {left right : List Item} {mark : Item} {l : Expression}
    (hl : IsSum left l) (hmark : mark.isComparator = true)
    (hright : ∀ i ∈ right, i.isLoose = false) :
    comparison (left ++ mark :: right) = compared l mark right := by
  have hr : ∀ i ∈ right, i.isComparator = false :=
    fun i hi => isComparator_of_loose (hright i hi)
  have hleft : ∀ i ∈ left, i.isComparator = false :=
    fun i hi => isComparator_of_loose (hl.loose i hi)
  rw [comparison, pieces_append hmark hr, pieces_of_none hleft]
  simp only [List.nil_append, hl.read, Option.bind_some]

theorem IsSum.isComparison_append {left right : List Item} {mark : Item} {l e : Expression}
    (hl : IsSum left l) (hmark : mark.isComparator = true)
    (hand : mark.isWord "and" = false) (hor : mark.isWord "or" = false)
    (hright : ∀ i ∈ right, i.isLoose = false) (he : compared l mark right = some e) :
    IsComparison (left ++ mark :: right) e := by
  refine ⟨(hl.comparison_append hmark hright).trans he, fun i hi => ?_, fun i hi => ?_⟩
  · rcases List.mem_append.mp hi with hi | hi
    · exact isAnd_of_loose (hl.loose i hi)
    · rcases List.mem_cons.mp hi with rfl | hi
      · exact hand
      · exact isAnd_of_loose (hright i hi)
  · rcases List.mem_append.mp hi with hi | hi
    · exact isOr_of_loose (hl.loose i hi)
    · rcases List.mem_cons.mp hi with rfl | hi
      · exact hor
      · exact isOr_of_loose (hright i hi)

/-! ## Parts with a word between them -/

/-- Parts with an item between neighbours. -/
def separated (mark : Item) : List (List Item) → List Item
  | [] => []
  | [part] => part
  | part :: next :: rest => part ++ mark :: separated mark (next :: rest)

theorem mem_separated {mark : Item} {parts : List (List Item)} {i : Item}
    (h : i ∈ separated mark parts) : i = mark ∨ ∃ part ∈ parts, i ∈ part := by
  fun_induction separated mark parts with
  | case1 => simp at h
  | case2 part => exact Or.inr ⟨part, by simp, h⟩
  | case3 part next rest ih =>
    rcases List.mem_append.mp h with h | h
    · exact Or.inr ⟨part, by simp, h⟩
    · rcases List.mem_cons.mp h with h | h
      · exact Or.inl h
      · rcases ih h with h | ⟨p, hp, hi⟩
        · exact Or.inl h
        · exact Or.inr ⟨p, List.mem_cons_of_mem _ hp, hi⟩

theorem pieces_separated {isMark : Item → Bool} {mark : Item} (hmark : isMark mark = true)
    (first : List Item) (rest : List (List Item))
    (h : ∀ part ∈ first :: rest, ∀ i ∈ part, isMark i = false) :
    pieces isMark (separated mark (first :: rest)) = (first, rest.map fun part => (mark, part)) := by
  induction rest generalizing first with
  | nil => exact pieces_of_none (h first (by simp))
  | cons next rest ih =>
    rw [separated, pieces_append_left _ (h first (by simp)), pieces_cons_of_mark _ hmark,
      ih next fun part hpart => h part (List.mem_cons_of_mem _ hpart)]
    simp

/-- A list of parts, each with what it is read as. -/
def ReadAs (read : List Item → Option Expression) (parts : List (List Item))
    (es : List Expression) : Prop :=
  List.Forall₂ (fun part e => read part = some e) parts es

theorem ReadAs.mapM_eq {read : List Item → Option Expression} {parts : List (List Item)}
    {es : List Expression} (h : ReadAs read parts es) : parts.mapM read = some es := by
  induction h with
  | nil => rfl
  | cons hpart _ ih => simp [List.mapM_cons, hpart, ih]

/-- One part stands for itself. -/
theorem joined_of_none {word : String} {read : List Item → Option Expression}
    {join : List Expression → Expression} {items : List Item} {e : Expression}
    (h : ∀ i ∈ items, i.isWord word = false) (he : read items = some e) :
    joined word read join items = some e := by
  simp [joined, pieces_of_none h, he]

/-- Several parts with a word between them are joined. -/
theorem joined_separated {word : String} {read : List Item → Option Expression}
    {join : List Expression → Expression} {parts : List (List Item)} {es : List Expression}
    (hparts : ∀ part ∈ parts, ∀ i ∈ part, i.isWord word = false) (h : ReadAs read parts es)
    (hlen : 2 ≤ es.length) :
    joined word read join (separated (.token (.name word)) parts) = some (join es) := by
  have hword : isWord word (.token (.name word)) = true := by simp [isWord, token?]
  cases h with
  | nil => simp at hlen
  | @cons first e rest es hfirst hrest =>
    cases hrest with
    | nil => simp at hlen
    | @cons next e' rest es hnext hrest =>
      have hmap := ReadAs.mapM_eq (List.Forall₂.cons hfirst (.cons hnext hrest))
      simp only [joined, pieces_separated hword first (next :: rest) hparts, List.map_map,
        Function.comp_def, List.map_id', Option.bind_eq_bind]
      rw [hmap]
      rfl

theorem IsComparison.conjunction_eq {items : List Item} {e : Expression}
    (h : IsComparison items e) : conjunction items = some e :=
  joined_of_none h.both h.read

theorem IsComparison.expression_eq {items : List Item} {e : Expression}
    (h : IsComparison items e) : expression items = some e :=
  joined_of_none h.either h.conjunction_eq

/-- Comparisons with `and` between them. -/
theorem expression_all {parts : List (List Item)} {es : List Expression}
    (h : List.Forall₂ IsComparison parts es) (hlen : 2 ≤ es.length) :
    expression (separated (.token (.name "and")) parts) = some (.all es) := by
  have hand := forall_mem_of_forall₂ h fun _ _ hpart => hpart.both
  have hor := forall_mem_of_forall₂ h fun _ _ hpart => hpart.either
  refine joined_of_none (fun i hi => ?_) (joined_separated hand ?_ hlen)
  · rcases mem_separated hi with rfl | ⟨part, hpart, hi⟩
    · decide
    · exact hor part hpart i hi
  · exact h.imp fun _ _ hpart => hpart.read

/-- Comparisons with `or` between them. -/
theorem expression_any {parts : List (List Item)} {es : List Expression}
    (h : List.Forall₂ IsComparison parts es) (hlen : 2 ≤ es.length) :
    expression (separated (.token (.name "or")) parts) = some (.any es) := by
  have hor := forall_mem_of_forall₂ h fun _ _ hpart => hpart.either
  exact joined_separated hor (h.imp fun _ _ hpart => hpart.conjunction_eq) hlen

/-- Operands with plus signs between them add up from left to right. -/
theorem isSum_separated {first : List Item} {e : Expression} {parts : List (List Item)}
    {es : List Expression} (hfirst : IsOperand first e) (h : List.Forall₂ IsOperand parts es) :
    IsSum (separated (.token (.mark "+")) (first :: parts)) (es.foldl .plus e) := by
  have hplus : isSign (.token (.mark "+")) = true := by decide
  have hsign : ∀ part ∈ first :: parts, ∀ i ∈ part, i.isSign = false :=
    forall_mem_of_forall₂ (.cons hfirst h) fun _ _ hpart => hpart.sign
  have hloose : ∀ part ∈ first :: parts, ∀ i ∈ part, i.isLoose = false :=
    forall_mem_of_forall₂ (.cons hfirst h) fun _ _ hpart => hpart.loose
  constructor
  · rw [sum, pieces_separated hplus first parts hsign]
    have hhead : firstPart (first, parts.map fun part => (.token (.mark "+"), part)) =
        some (e, parts.map fun part => (.token (.mark "+"), part)) := by
      cases first with
      | nil => exact absurd hfirst.read (by simp [operand_nil])
      | cons item items => simp [firstPart, hfirst.read]
    have hfold : ∀ left, (parts.map fun part => (Item.token (.mark "+"), part)).foldlM addPiece
        left = some (es.foldl .plus left) := by
      clear hfirst hsign hloose hhead
      induction h with
      | nil => intro left; rfl
      | cons hpart _ ih =>
        intro left
        simp [addPiece, isMark, token?, hpart.read, ih]
    simp [hhead, hfold]
  · intro i hi
    rcases mem_separated hi with rfl | ⟨part, hpart, hi⟩
    · decide
    · exact hloose part hpart i hi

end Item

end KustoSearch.Kql
