import KustoSearch.DateMath
import KustoSearch.Proofs.Text.Numeral
import Mathlib.Data.List.TakeWhile

/-! # The grammar of date math steps

The steps behind an anchor are spelled by items: a sign with an optional amount and the letter of a
unit, or a slash and such a letter. Reading them takes one item a turn. A reader of encoded text
that cuts at byte offsets takes the same turns, and never cuts inside a character. Main result:
`steps_grammar`.
-/

namespace KustoSearch.DateMath

open Kql (DateUnit)

/-! ## Items -/

/-- The letters of the units. -/
def unitLetters : List (Char × DateUnit) :=
  [('y', .year), ('M', .month), ('w', .week), ('d', .day), ('h', .hour), ('H', .hour),
    ('m', .minute), ('s', .second)]

/-- An item of a text of steps. -/
inductive Item where
  | shift (negative : Bool) (digits : List Char) (letter : Char)
  | round (letter : Char)
deriving DecidableEq, Repr

namespace Item

/-- The sign of a shift. -/
def sign (negative : Bool) : Char := if negative then '-' else '+'

/-- The characters of an item. -/
def chars : Item → List Char
  | .shift negative digits letter => sign negative :: (digits ++ [letter])
  | .round letter => ['/', letter]

/-- The amount of a shift: what its digits say, up to 63 bits, or one where there are none. -/
def Amount (digits : List Char) (n : Nat) : Prop :=
  digits = [] ∧ n = 1 ∨
    Text.IsDigits digits ∧ Text.digitsValue digits = n ∧ n ≤ 2 ^ 63 - 1

/-- The step that an item stands for. -/
inductive Means : Item → Step → Prop where
  | shift {negative : Bool} {digits : List Char} {letter : Char} {n : Nat} {unit : DateUnit}
    (hamount : Amount digits n) (hunit : (letter, unit) ∈ unitLetters) :
    Means (.shift negative digits letter) (.shift (if negative then -(n : Int) else n) unit)
  | round {letter : Char} {unit : DateUnit} (hunit : (letter, unit) ∈ unitLetters) :
    Means (.round letter) (.round unit)

end Item

theorem unit?_eq_some {letter : Char} {unit : DateUnit} :
    unit? letter = some unit ↔ (letter, unit) ∈ unitLetters := by
  constructor
  · intro h
    unfold unit? at h
    split at h
    all_goals cases h <;> decide
  · intro h
    have hall : ∀ l ∈ unitLetters, unit? l.1 = some l.2 := by decide
    exact hall (letter, unit) h

theorem isDigit_of_unit? {letter : Char} {unit : DateUnit} (h : unit? letter = some unit) :
    Text.isDigit letter = false := by
  have hall : ∀ l ∈ unitLetters, Text.isDigit l.1 = false := by decide
  exact hall (letter, unit) (unit?_eq_some.mp h)

theorem count?_eq_some {digits : List Char} {n : Nat}
    (hdigits : ∀ c ∈ digits, Text.isDigit c = true) :
    count? digits = some n ↔ Item.Amount digits n := by
  cases digits with
  | nil =>
    have hnone : ¬ Text.IsDigits [] := fun h => h.1 rfl
    simp only [count?, List.isEmpty_nil, if_true, Option.some.injEq, Item.Amount, true_and, hnone,
      false_and, or_false]
    exact eq_comm
  | cons c cs =>
    have hrun : Text.IsDigits (c :: cs) := ⟨by simp, hdigits⟩
    simp only [count?, List.isEmpty_cons, Bool.false_eq_true, if_false, Option.filter_eq_some_iff,
      Text.natural?_eq_some, Item.Amount, reduceCtorEq, false_and, false_or, decide_eq_true_eq,
      hrun, true_and]
    exact and_congr_right fun _ => Nat.lt_iff_le_pred (by decide)

/-! ## Turns of the reader -/

/-- What one turn reads from a text that is not empty: a step, and the text behind its item. -/
def turn? (c : Char) (rest : List Char) : Option (Step × List Char) :=
  if c = '+' || c = '-' then
    match rest.dropWhile Text.isDigit with
    | [] => none
    | letter :: tail =>
      match count? (rest.takeWhile Text.isDigit), unit? letter with
      | some n, some unit => some (.shift (if c = '-' then -(n : Int) else n) unit, tail)
      | _, _ => none
  else if c = '/' then
    match rest with
    | [] => none
    | letter :: tail => (unit? letter).map fun unit => (.round unit, tail)
  else none

theorem steps?_cons (c : Char) (rest : List Char) :
    steps? (c :: rest) =
      (turn? c rest).bind fun (step, tail) => (steps? tail).map (step :: ·) := by
  rw [steps?.eq_def]
  unfold turn?
  dsimp only
  by_cases hsign : (c = '+' || c = '-') = true
  · rw [if_pos hsign, if_pos hsign]
    cases hrest : rest.dropWhile Text.isDigit with
    | nil => rfl
    | cons letter tail =>
      dsimp only
      cases hcount : count? (rest.takeWhile Text.isDigit) with
      | none => rfl
      | some n =>
        cases hunit : unit? letter with
        | none => rfl
        | some unit => cases hsteps : steps? tail <;> simp [hsteps]
  · rw [if_neg hsign, if_neg hsign]
    by_cases hslash : c = '/'
    · rw [if_pos hslash, if_pos hslash]
      cases rest with
      | nil => rfl
      | cons letter tail =>
        dsimp only
        cases hunit : unit? letter with
        | none => rfl
        | some unit => cases hsteps : steps? tail <;> simp [hsteps]
    · rw [if_neg hslash, if_neg hslash]
      rfl

theorem turn?_sign (negative : Bool) (rest : List Char) :
    turn? (Item.sign negative) rest =
      match rest.dropWhile Text.isDigit with
      | [] => none
      | letter :: tail =>
        match count? (rest.takeWhile Text.isDigit), unit? letter with
        | some n, some unit => some (.shift (if negative then -(n : Int) else n) unit, tail)
        | _, _ => none := by
  cases negative <;> rfl

theorem turn?_slash (rest : List Char) :
    turn? '/' rest =
      match rest with
      | [] => none
      | letter :: tail => (unit? letter).map fun unit => (.round unit, tail) :=
  rfl

theorem head_of_turn? {c : Char} {rest : List Char} {turn : Step × List Char}
    (h : turn? c rest = some turn) : (∃ negative, c = Item.sign negative) ∨ c = '/' := by
  by_cases hplus : c = '+'
  · exact .inl ⟨false, hplus⟩
  · by_cases hminus : c = '-'
    · exact .inl ⟨true, hminus⟩
    · by_cases hslash : c = '/'
      · exact .inr hslash
      · simp [turn?, hplus, hminus, hslash] at h

/-- A turn reads one item. -/
theorem turn?_eq_some {c : Char} {rest tail : List Char} {step : Step} :
    turn? c rest = some (step, tail) ↔
      ∃ item : Item, item.Means step ∧ c :: rest = item.chars ++ tail := by
  constructor
  · intro h
    -- a sign goes with an amount and a unit, and a slash with a unit alone
    rcases head_of_turn? h with ⟨negative, rfl⟩ | rfl
    · rw [turn?_sign] at h
      split at h
      · cases h
      · next letter behind hrest =>
        split at h
        · next n unit hcount hunit =>
          cases h
          have hdigits : ∀ d ∈ rest.takeWhile Text.isDigit, Text.isDigit d = true :=
            fun d hd => List.mem_takeWhile_imp hd
          refine ⟨_, .shift ((count?_eq_some hdigits).mp hcount) (unit?_eq_some.mp hunit), ?_⟩
          rw [Item.chars, List.cons_append, List.append_assoc, List.singleton_append, ← hrest,
            List.takeWhile_append_dropWhile]
        · cases h
    · rw [turn?_slash] at h
      cases rest with
      | nil => cases h
      | cons letter behind =>
        obtain ⟨unit, hunit, hstep⟩ := Option.map_eq_some_iff.mp h
        cases hstep
        exact ⟨_, .round (unit?_eq_some.mp hunit), rfl⟩
  · rintro ⟨item, hmeans, htext⟩
    cases hmeans with
    | @shift negative digits letter n unit hamount hunit =>
      rw [← unit?_eq_some] at hunit
      rw [Item.chars, List.cons_append, List.cons.injEq, List.append_assoc,
        List.singleton_append] at htext
      obtain ⟨rfl, rfl⟩ := htext
      have hdigits : ∀ d ∈ digits, Text.isDigit d = true := by
        rcases hamount with ⟨rfl, _⟩ | ⟨hdigits, _⟩
        · simp
        · exact hdigits.2
      obtain ⟨htake, hdrop⟩ := Text.takeWhile_append_of_head (r := letter :: tail) hdigits
        (by simpa using isDigit_of_unit? hunit)
      have hcount := (count?_eq_some hdigits).mpr hamount
      simp only [turn?_sign, htake, hdrop, hcount, hunit]
    | @round letter unit hunit =>
      rw [← unit?_eq_some] at hunit
      obtain ⟨rfl, rfl⟩ : c = '/' ∧ rest = letter :: tail := by simpa [Item.chars] using htext
      simp only [turn?_slash, hunit, Option.map_some]

theorem length_of_turn? {c : Char} {rest tail : List Char} {step : Step}
    (h : turn? c rest = some (step, tail)) : tail.length < (c :: rest).length := by
  obtain ⟨item, _, htext⟩ := turn?_eq_some.mp h
  rw [htext, List.length_append]
  cases item <;> simp [Item.chars]

/-- Steps are read exactly from a row of items, one step for each of them in order. -/
theorem steps?_eq_some {cs : List Char} {steps : List Step} :
    steps? cs = some steps ↔
      ∃ items : List Item, cs = items.flatMap Item.chars ∧
        List.Forall₂ Item.Means items steps := by
  -- over what is left of the text, one turn at a time
  induction hlength : cs.length using Nat.strongRecOn generalizing cs steps with
  | ind length ih =>
    cases cs with
    | nil =>
      rw [steps?, Option.some.injEq]
      constructor
      · rintro rfl
        exact ⟨[], rfl, .nil⟩
      · rintro ⟨items, htext, hsteps⟩
        cases hsteps with
        | nil => rfl
        | @cons item _ _ _ hmeans _ => cases item <;> simp [Item.chars] at htext
    | cons c rest =>
      rw [steps?_cons, Option.bind_eq_some_iff]
      constructor
      · rintro ⟨⟨step, tail⟩, hturn, hrest⟩
        obtain ⟨others, hothers, rfl⟩ := Option.map_eq_some_iff.mp hrest
        have hshorter : tail.length < length := hlength ▸ length_of_turn? hturn
        obtain ⟨items, rfl, hsteps⟩ := (ih _ hshorter rfl).mp hothers
        obtain ⟨item, hmeans, htext⟩ := turn?_eq_some.mp hturn
        exact ⟨item :: items, htext, .cons hmeans hsteps⟩
      · rintro ⟨items, htext, hsteps⟩
        cases hsteps with
        | nil => cases htext
        | @cons item step items others hmeans hothers =>
          have hturn := turn?_eq_some.mpr ⟨item, hmeans, htext⟩
          have hshorter : (items.flatMap Item.chars).length < length :=
            hlength ▸ length_of_turn? hturn
          refine ⟨(step, items.flatMap Item.chars), hturn, ?_⟩
          have hrest := (ih _ hshorter rfl).mpr ⟨items, rfl, hothers⟩
          exact Option.map_eq_some_iff.mpr ⟨others, hrest, rfl⟩

/-! ## Cutting encoded text -/

/-- The number of bytes that characters take. -/
def bytes (cs : List Char) : Nat := (cs.map Char.utf8Size).sum

/-- Cuts a text at a byte offset. Nothing means that the offset lies inside a character or behind
the end of the text. -/
def cut? : Nat → List Char → Option (List Char × List Char)
  | 0, cs => some ([], cs)
  | _ + 1, [] => none
  | n + 1, c :: cs =>
    if c.utf8Size ≤ n + 1 then
      (cut? (n + 1 - c.utf8Size) cs).map fun (front, back) => (c :: front, back)
    else none

/-- The character takes two bytes. -/
example : cut? 1 ['é', 'd'] = none := rfl

/-- The turn of a reader that cuts at byte offsets. The outer nothing means that a cut went wrong,
the inner one that there is no item. -/
def byteTurn? (c : Char) (rest : List Char) : Option (Option (Step × List Char)) :=
  if c = '+' || c = '-' then do
    let (_, body) ← cut? 1 (c :: rest)
    -- a number of characters, used as a number of bytes
    let size := (body.takeWhile Text.isDigit).length
    let (digits, after) ← cut? size body
    match after with
    | [] => some none
    | letter :: _ =>
      match count? digits, unit? letter with
      | some n, some unit => do
        let (_, tail) ← cut? (size + letter.utf8Size) body
        some (some (.shift (if c = '-' then -(n : Int) else n) unit, tail))
      | _, _ => some none
  else if c = '/' then do
    let (_, body) ← cut? 1 (c :: rest)
    match body with
    | [] => some none
    | letter :: _ =>
      match unit? letter with
      | some unit => do
        let (_, tail) ← cut? (1 + letter.utf8Size) (c :: rest)
        some (some (.round unit, tail))
      | none => some none
  else some none

theorem cut?_bytes_append (front back : List Char) :
    cut? (bytes front) (front ++ back) = some (front, back) := by
  induction front with
  | nil => cases back <;> rfl
  | cons c front ih =>
    have hpos := c.utf8Size_pos
    have hbytes : bytes (c :: front) = c.utf8Size + bytes front := by simp [bytes]
    obtain ⟨n, hn⟩ : ∃ n, bytes (c :: front) = n + 1 :=
      Nat.exists_eq_succ_of_ne_zero (by omega)
    have hrest : n + 1 - c.utf8Size = bytes front := by omega
    rw [hn, List.cons_append, cut?, if_pos (by omega), hrest, ih]
    rfl

/-- Digits take a byte each. -/
theorem bytes_of_digits {digits : List Char} (h : ∀ d ∈ digits, Text.isDigit d = true) :
    bytes digits = digits.length := by
  induction digits with
  | nil => rfl
  | cons d digits ih =>
    obtain ⟨_, hhigh⟩ := Text.isDigit_iff.mp (h d List.mem_cons_self)
    have hsize : d.utf8Size = 1 := Char.utf8Size_eq_one_iff.mpr (show d.toNat ≤ 127 by omega)
    have hrest := ih fun x hx => h x (List.mem_cons_of_mem _ hx)
    simp only [bytes, List.map_cons, List.sum_cons, List.length_cons] at hrest ⊢
    omega

/-- No cut of a turn lies inside a character, and the turn is the one on characters. -/
theorem byteTurn?_eq (c : Char) (rest : List Char) :
    byteTurn? c rest = some (turn? c rest) := by
  unfold byteTurn? turn?
  by_cases hsign : (c = '+' || c = '-') = true
  · rw [if_pos hsign, if_pos hsign]
    -- each cut lies behind characters that the turn has seen, and their bytes are counted right
    have hone : bytes [c] = 1 := by
      rcases (by simpa using hsign : c = '+' ∨ c = '-') with rfl | rfl <;> rfl
    have hfirst := cut?_bytes_append [c] rest
    rw [hone, List.singleton_append] at hfirst
    have hdigits := bytes_of_digits fun d (hd : d ∈ rest.takeWhile Text.isDigit) =>
      List.mem_takeWhile_imp hd
    have hsecond := cut?_bytes_append (rest.takeWhile Text.isDigit) (rest.dropWhile Text.isDigit)
    rw [List.takeWhile_append_dropWhile, hdigits] at hsecond
    simp only [hfirst, hsecond, Option.bind_eq_bind, Option.bind_some]
    cases hrest : rest.dropWhile Text.isDigit with
    | nil => rfl
    | cons letter tail =>
      have hthird := cut?_bytes_append (rest.takeWhile Text.isDigit ++ [letter]) tail
      have hsize : bytes (rest.takeWhile Text.isDigit ++ [letter]) =
          (rest.takeWhile Text.isDigit).length + letter.utf8Size := by
        rw [← hdigits]
        simp [bytes]
      rw [hsize, List.append_assoc, List.singleton_append, ← hrest,
        List.takeWhile_append_dropWhile] at hthird
      dsimp only
      cases count? (rest.takeWhile Text.isDigit) with
      | none => rfl
      | some n =>
        cases unit? letter with
        | none => rfl
        | some unit => rw [hthird]; rfl
  · rw [if_neg hsign, if_neg hsign]
    by_cases hslash : c = '/'
    · subst hslash
      rw [if_pos rfl, if_pos rfl]
      have hfirst : cut? 1 ('/' :: rest) = some (['/'], rest) := cut?_bytes_append ['/'] rest
      simp only [hfirst, Option.bind_eq_bind, Option.bind_some]
      cases rest with
      | nil => rfl
      | cons letter tail =>
        have hsecond : cut? (1 + letter.utf8Size) ('/' :: letter :: tail) =
            some (['/', letter], tail) := cut?_bytes_append ['/', letter] tail
        dsimp only
        cases unit? letter with
        | none => rfl
        | some unit => rw [hsecond]; rfl
    · rw [if_neg hslash, if_neg hslash]

/-- The steps of a text, read by turns that cut at byte offsets. -/
def byteSteps? : List Char → Option (Option (List Step))
  | [] => some (some [])
  | c :: rest =>
    match _h : byteTurn? c rest with
    | none => none
    | some none => some none
    | some (some (step, tail)) =>
      (byteSteps? tail).map fun steps => steps.map (step :: ·)
termination_by cs => cs.length
decreasing_by
  rw [byteTurn?_eq, Option.some.injEq] at _h
  exact length_of_turn? _h

/-- Reading by bytes never cuts inside a character and gives the same steps. -/
theorem byteSteps?_eq (cs : List Char) : byteSteps? cs = some (steps? cs) := by
  fun_induction byteSteps? cs with
  | case1 => rw [steps?]
  | case2 c rest h =>
    rw [byteTurn?_eq] at h
    cases h
  | case3 c rest h =>
    rw [byteTurn?_eq, Option.some.injEq] at h
    rw [steps?_cons, h]
    rfl
  | case4 c rest step tail h ih =>
    rw [byteTurn?_eq, Option.some.injEq] at h
    rw [ih, steps?_cons, h]
    rfl

/-- Steps are read from a text exactly if it is a row of items and nothing else; there is one step
for each item, in their order. Reading by byte offsets gives the same for every text, and never
cuts inside a character. -/
theorem steps_grammar (cs : List Char) :
    (∀ steps : List Step, steps? cs = some steps ↔
      ∃ items : List Item, cs = items.flatMap Item.chars ∧
        List.Forall₂ Item.Means items steps) ∧
    byteSteps? cs = some (steps? cs) :=
  ⟨fun _ => steps?_eq_some, byteSteps?_eq cs⟩

end KustoSearch.DateMath
