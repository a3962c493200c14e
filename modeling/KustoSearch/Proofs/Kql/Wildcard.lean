import KustoSearch.Kql.Quoted
import Mathlib.Data.List.Basic

/-! # Wildcard patterns as regular expressions

A regular expression is read as the engine reads it: a sequence of atoms, each once or any number of
times, that is looked for anywhere in a text. A wildcard pattern covers texts as a whole. The
regular expression of a pattern finds just the texts that the pattern covers, where backslashes
stand for themselves and line feeds only for themselves: `wildcardRegex_finds`.
-/

namespace KustoSearch.Kql

/-! ## Regular expressions -/

namespace Regex

/-- What matches at one place of a text. -/
inductive Atom where
  | literal (c : Char)
  /-- Any character but a line feed. -/
  | any
  /-- The start of the text. -/
  | start
  /-- The end of the text. -/
  | stop

/-- An atom, and how often it stands. -/
inductive Piece where
  | once (atom : Atom)
  | star (atom : Atom)

/-- Characters that may stand for themselves after a backslash only. -/
def metacharacters : List Char :=
  ['\\', '.', '+', '*', '?', '(', ')', '|', '[', ']', '\x7b', '\x7d', '^', '$']

/-- Whether a backslash makes a character stand for itself: all of ASCII but letters and digits. -/
def isPunctuation (c : Char) : Bool := c.toNat < 128 && !c.isAlphanum

/-- The atom of a character. -/
def atom? (c : Char) : Option Atom :=
  if c = '.' then some .any
  else if c = '^' then some .start
  else if c = '$' then some .stop
  else if metacharacters.contains c then none
  else some (.literal c)

/-- An atom that no star follows. -/
def pending (last : Option Atom) : List Piece := (last.map .once).toList

/-- Reads a sequence of pieces. `last` is the atom directly before, which a star would belong to. -/
def pieces? : (last : Option Atom) → List Char → Option (List Piece)
  | last, [] => some (pending last)
  | last, '\\' :: c :: cs =>
    if isPunctuation c then (pieces? (some (.literal c)) cs).map (pending last ++ ·) else none
  | last, '*' :: cs =>
    match last with
    | some atom => (pieces? none cs).map (.star atom :: ·)
    | none => none
  | last, c :: cs =>
    match atom? c with
    | some atom => (pieces? (some atom) cs).map (pending last ++ ·)
    | none => none

end Regex

/-- A regular expression. -/
structure Regex where
  ignoreCase : Bool
  pieces : List Regex.Piece

namespace Regex

/-- The regular expression of a text. Groups, classes, alternatives and other counts are left
out. -/
def read? (text : String) : Option Regex :=
  match Text.stripLead? ['(', '?', 'i', ')'] text.toList with
  | some cs => (pieces? none cs).map (⟨true, ·⟩)
  | none => (pieces? none text.toList).map (⟨false, ·⟩)

/-- Whether a literal matches a character. Characters are of one letter when `fold` makes them
equal. -/
def Alike (fold : Char → Char) (ignoreCase : Bool) (c d : Char) : Prop :=
  if ignoreCase then fold c = fold d else c = d

section

variable (alike : Char → Char → Prop)

/-- Whether an atom matches a part of a text that stands between two others. -/
def Atom.Takes (before part after : List Char) : Atom → Prop
  | .literal c => ∃ d, part = [d] ∧ alike c d
  | .any => ∃ d, part = [d] ∧ d ≠ '\n'
  | .start => part = [] ∧ before = []
  | .stop => part = [] ∧ after = []

/-- Whether an atom matches again and again. -/
inductive Repeats (atom : Atom) : (before part after : List Char) → Prop where
  | nil {before after : List Char} : Repeats atom before [] after
  | cons {before first rest after : List Char}
      (hfirst : atom.Takes alike before first (rest ++ after))
      (hrest : Repeats atom (before ++ first) rest after) :
      Repeats atom before (first ++ rest) after

/-- Whether a piece matches. -/
def Piece.Takes (before part after : List Char) : Piece → Prop
  | .once atom => atom.Takes alike before part after
  | .star atom => Repeats alike atom before part after

/-- Whether pieces match one after another. -/
def Takes : List Piece → (before part after : List Char) → Prop
  | [], _, part, _ => part = []
  | piece :: pieces, before, part, after =>
    ∃ first rest, part = first ++ rest ∧ piece.Takes alike before first (rest ++ after) ∧
      Takes pieces (before ++ first) rest after

end

/-- Whether a regular expression matches some part of a text. -/
def Finds (fold : Char → Char) (regex : Regex) (text : List Char) : Prop :=
  ∃ before part after, text = before ++ part ++ after ∧
    Takes (Alike fold regex.ignoreCase) regex.pieces before part after

end Regex

/-! ## Wildcard patterns -/

namespace Wildcard

/-- What a pattern is made of. -/
inductive Part where
  /-- Any run of characters. -/
  | run
  /-- Any one character. -/
  | one
  | char (c : Char)

/-- The part that a character is on its own. -/
def part (c : Char) : Part := if c = '*' then .run else if c = '?' then .one else .char c

/-- The parts of a pattern. A backslash makes the next character stand for itself; the last
character of a pattern may be one that has no next one. -/
def parts : List Char → List Part
  | '\\' :: c :: cs => .char c :: parts cs
  | c :: cs => part c :: parts cs
  | [] => []

/-- Whether parts cover a text as a whole, when runs and single characters may be of some characters
only. -/
def Covers (alike : Char → Char → Prop) (allowed : Char → Prop) : List Part → List Char → Prop
  | [], text => text = []
  | .run :: parts, text => ∃ first rest, text = first ++ rest ∧ (∀ c ∈ first, allowed c) ∧
      Covers alike allowed parts rest
  | .one :: parts, text => ∃ c rest, text = c :: rest ∧ allowed c ∧ Covers alike allowed parts rest
  | .char c :: parts, text => ∃ d rest, text = d :: rest ∧ alike c d ∧
      Covers alike allowed parts rest

end Wildcard

/-! ## Reading the expression of a pattern -/

namespace Regex

theorem pieces?_escaped {c : Char} (h : isPunctuation c = true) (last : Option Atom)
    (cs : List Char) :
    pieces? last ('\\' :: c :: cs) = (pieces? (some (.literal c)) cs).map (pending last ++ ·) := by
  rw [pieces?, if_pos h]

theorem pieces?_star (atom : Atom) (cs : List Char) :
    pieces? (some atom) ('*' :: cs) = (pieces? none cs).map (.star atom :: ·) := by
  rw [pieces?]

theorem pieces?_atom {c : Char} {atom : Atom} (h : atom? c = some atom) (last : Option Atom)
    (cs : List Char) :
    pieces? last (c :: cs) = (pieces? (some atom) cs).map (pending last ++ ·) := by
  have hback : c ≠ '\\' := by
    rintro rfl
    exact absurd h (by simp [atom?, metacharacters])
  have hstar : c ≠ '*' := by
    rintro rfl
    exact absurd h (by simp [atom?, metacharacters])
  rw [pieces?]
  · rw [h]
  · exact fun _ _ hc => absurd hc hback
  · exact hstar

theorem isPunctuation_of_special {c : Char} (h : regexSpecials.contains c = true) :
    isPunctuation c = true := by
  have hall : regexSpecials.all isPunctuation = true := by decide
  exact List.all_eq_true.mp hall c (List.contains_iff_mem.mp h)

theorem atom?_of_not_special {c : Char} (h : ¬ regexSpecials.contains c = true) :
    atom? c = some (.literal c) := by
  have hall : metacharacters.all regexSpecials.contains = true := by decide
  have hmeta : ¬ metacharacters.contains c = true := fun hc =>
    h (List.all_eq_true.mp hall c (List.contains_iff_mem.mp hc))
  have hne (d : Char) (hd : metacharacters.contains d = true) : c ≠ d := by
    rintro rfl
    exact hmeta hd
  rw [atom?, if_neg (hne _ (by decide)), if_neg (hne _ (by decide)), if_neg (hne _ (by decide)),
    if_neg hmeta]

end Regex

namespace Wildcard

open Regex (Piece pieces? pending)

/-- The piece that matches what a part stands for. -/
def Part.piece : Part → Piece
  | .run => .star .any
  | .one => .once .any
  | .char c => .once (.literal c)

/-- The characters of a pattern are read as their pieces, up to the end of the expression. -/
theorem pieces?_flatMap (pattern : List Char) (last : Option Regex.Atom) :
    pieces? last (pattern.flatMap wildcardChar ++ ['$']) =
      some (pending last ++ ((pattern.map part).map Part.piece ++ [.once .stop])) := by
  induction pattern generalizing last with
  | nil => exact Regex.pieces?_atom rfl last []
  | cons c cs ih =>
    rw [List.flatMap_cons, List.append_assoc, List.map_cons, List.map_cons, List.cons_append]
    -- no character is written with a star in front, so what is read so far stands once
    generalize hrest : cs.flatMap wildcardChar ++ ['$'] = rest at ih ⊢
    unfold wildcardChar part
    split_ifs with hrun hone hspecial
    · show pieces? last ('.' :: '*' :: rest) = _
      rw [Regex.pieces?_atom rfl, Regex.pieces?_star, ih]
      rfl
    · show pieces? last ('.' :: rest) = _
      rw [Regex.pieces?_atom rfl, ih]
      rfl
    · show pieces? last ('\\' :: c :: rest) = _
      rw [Regex.pieces?_escaped (Regex.isPunctuation_of_special hspecial), ih]
      rfl
    · show pieces? last (c :: rest) = _
      rw [Regex.pieces?_atom (Regex.atom?_of_not_special hspecial), ih]
      rfl

/-- The expression of a pattern is read as the start, the pieces of the pattern and the end. -/
theorem read?_wildcardRegex (pattern : String) (ignoreCase : Bool) :
    Regex.read? (wildcardRegex pattern ignoreCase) = some ⟨ignoreCase,
      .once .start :: ((pattern.toList.map part).map Part.piece ++ [.once .stop])⟩ := by
  have hpieces : pieces? none ('^' :: (pattern.toList.flatMap wildcardChar ++ ['$'])) =
      some (.once .start :: ((pattern.toList.map part).map Part.piece ++ [.once .stop])) := by
    rw [Regex.pieces?_atom rfl, pieces?_flatMap]
    rfl
  cases ignoreCase with
  | true =>
    have htext : (wildcardRegex pattern true).toList =
        ['(', '?', 'i', ')'] ++ '^' :: (pattern.toList.flatMap wildcardChar ++ ['$']) := by
      simp [wildcardRegex]
    rw [Regex.read?, htext]
    exact congrArg (Option.map (Regex.mk true)) hpieces
  | false =>
    have htext : (wildcardRegex pattern false).toList =
        '^' :: (pattern.toList.flatMap wildcardChar ++ ['$']) := by
      simp [wildcardRegex]
    rw [Regex.read?, htext]
    exact congrArg (Option.map (Regex.mk false)) hpieces

/-! ## Matching -/

section

variable {alike : Char → Char → Prop} {allowed : Char → Prop}

/-- Any number of characters but line feeds. -/
theorem repeats_any {before first after : List Char} :
    Regex.Repeats alike .any before first after ↔ ∀ c ∈ first, c ≠ '\n' := by
  constructor
  · intro h
    induction h with
    | nil => exact List.forall_mem_nil _
    | cons hfirst _ ih =>
      obtain ⟨d, rfl, hd⟩ := hfirst
      exact List.forall_mem_cons.mpr ⟨hd, ih⟩
  · intro h
    induction first generalizing before with
    | nil => exact .nil
    | cons c first ih =>
      obtain ⟨hc, hrest⟩ := List.forall_mem_cons.mp h
      have hfirst : Regex.Atom.Takes alike before [c] (first ++ after) .any := ⟨c, rfl, hc⟩
      exact Regex.Repeats.cons hfirst (ih hrest)

/-- The pieces of a pattern match up to the end of a text what the pattern covers. -/
theorem takes_parts {parts : List Part} {before text after : List Char} :
    Regex.Takes alike (parts.map Part.piece ++ [.once .stop]) before text after ↔
      after = [] ∧ Covers alike (· ≠ '\n') parts text := by
  induction parts generalizing before text with
  | nil =>
    constructor
    · rintro ⟨first, rest, rfl, ⟨rfl, hafter⟩, rfl⟩
      exact ⟨hafter, rfl⟩
    · rintro ⟨rfl, rfl⟩
      exact ⟨[], [], rfl, ⟨rfl, rfl⟩, rfl⟩
  | cons p parts ih =>
    cases p with
    | run =>
      constructor
      · rintro ⟨first, rest, rfl, hrun, hrest⟩
        obtain ⟨hafter, hcovers⟩ := ih.mp hrest
        exact ⟨hafter, first, rest, rfl, repeats_any.mp hrun, hcovers⟩
      · rintro ⟨hafter, first, rest, rfl, hrun, hcovers⟩
        exact ⟨first, rest, rfl, repeats_any.mpr hrun, ih.mpr ⟨hafter, hcovers⟩⟩
    | one =>
      constructor
      · rintro ⟨_, rest, rfl, ⟨c, rfl, hc⟩, hrest⟩
        obtain ⟨hafter, hcovers⟩ := ih.mp hrest
        exact ⟨hafter, c, rest, rfl, hc, hcovers⟩
      · rintro ⟨hafter, c, rest, rfl, hc, hcovers⟩
        exact ⟨[c], rest, rfl, ⟨c, rfl, hc⟩, ih.mpr ⟨hafter, hcovers⟩⟩
    | char c =>
      constructor
      · rintro ⟨_, rest, rfl, ⟨d, rfl, hd⟩, hrest⟩
        obtain ⟨hafter, hcovers⟩ := ih.mp hrest
        exact ⟨hafter, d, rest, rfl, hd, hcovers⟩
      · rintro ⟨hafter, d, rest, rfl, hd, hcovers⟩
        exact ⟨[d], rest, rfl, ⟨d, rfl, hd⟩, ih.mpr ⟨hafter, hcovers⟩⟩

/-- Between the start and the end of a text the pieces of a pattern match the text as a whole. -/
theorem finds_parts {fold : Char → Char} {ignoreCase : Bool} {parts : List Part}
    {text : List Char} :
    Regex.Finds fold ⟨ignoreCase, .once .start :: (parts.map Part.piece ++ [.once .stop])⟩ text ↔
      Covers (Regex.Alike fold ignoreCase) (· ≠ '\n') parts text := by
  constructor
  · rintro ⟨_, _, _, rfl, first, rest, rfl, ⟨rfl, rfl⟩, hrest⟩
    obtain ⟨rfl, hcovers⟩ := takes_parts.mp hrest
    simpa using hcovers
  · intro hcovers
    exact ⟨[], text, [], by simp, [], text, rfl, ⟨rfl, rfl⟩, takes_parts.mpr ⟨rfl, hcovers⟩⟩

/-- Which characters runs and single characters may be of matters for those of the text only. -/
theorem Covers.congr {other : Char → Prop} {parts : List Part} {text : List Char}
    (h : ∀ c ∈ text, allowed c → other c) (hcovers : Covers alike allowed parts text) :
    Covers alike other parts text := by
  induction parts generalizing text with
  | nil => exact hcovers
  | cons p parts ih =>
    cases p with
    | run =>
      obtain ⟨first, rest, rfl, hrun, hrest⟩ := hcovers
      exact ⟨first, rest, rfl,
        fun c hc => h c (List.mem_append_left rest hc) (hrun c hc),
        ih (fun c hc => h c (List.mem_append_right first hc)) hrest⟩
    | one =>
      obtain ⟨c, rest, rfl, hc, hrest⟩ := hcovers
      exact ⟨c, rest, rfl, h c List.mem_cons_self hc,
        ih (fun d hd => h d (List.mem_cons_of_mem c hd)) hrest⟩
    | char c =>
      obtain ⟨d, rest, rfl, hd, hrest⟩ := hcovers
      exact ⟨d, rest, rfl, hd, ih (fun e he => h e (List.mem_cons_of_mem d he)) hrest⟩

end

/-- A character that no backslash makes stand for itself is a part on its own. -/
theorem parts_cons {c : Char} {cs : List Char} (h : c = '\\' → cs = []) :
    parts (c :: cs) = part c :: parts cs := by
  rw [parts]
  intro d rest hback hrest
  rw [h hback] at hrest
  cases hrest

theorem parts_eq_map {pattern : List Char} (h : '\\' ∉ pattern.dropLast) :
    parts pattern = pattern.map part := by
  induction pattern with
  | nil => rfl
  | cons c cs ih =>
    cases cs with
    | nil => exact parts_cons fun _ => rfl
    | cons d cs =>
      rw [List.dropLast_cons_cons] at h
      obtain ⟨hc, hcs⟩ := not_or.mp (mt List.mem_cons.mpr h)
      rw [parts_cons fun hback => absurd hback.symm hc, ih hcs]
      rfl

end Wildcard

/-- What the regular expression of a wildcard pattern finds. It is read whatever the pattern is, and
finds a text exactly when each character of the pattern covers its share of the text in turn, a
backslash being a character like any other, and runs and single characters being of anything but
line feeds. So it finds what the pattern covers as long as neither a backslash stands before another
character in the pattern nor a line feed in the text. -/
theorem wildcardRegex_finds (pattern : String) (ignoreCase : Bool) (fold : Char → Char) :
    ∃ regex, Regex.read? (wildcardRegex pattern ignoreCase) = some regex ∧ ∀ text : String,
      (regex.Finds fold text.toList ↔ Wildcard.Covers (Regex.Alike fold ignoreCase) (· ≠ '\n')
        (pattern.toList.map Wildcard.part) text.toList) ∧
      ('\\' ∉ pattern.toList.dropLast → '\n' ∉ text.toList → (regex.Finds fold text.toList ↔
        Wildcard.Covers (Regex.Alike fold ignoreCase) (fun _ => True)
          (Wildcard.parts pattern.toList) text.toList)) := by
  refine ⟨_, Wildcard.read?_wildcardRegex pattern ignoreCase, fun text =>
    ⟨Wildcard.finds_parts, fun hpattern htext => ?_⟩⟩
  rw [Wildcard.finds_parts, Wildcard.parts_eq_map hpattern]
  exact ⟨.congr fun _ _ _ => trivial, .congr fun c hc _ hfeed => htext (hfeed ▸ hc)⟩

/-- Letters of either case, a run of two characters and a single one. -/
theorem wildcardRegex_finds_log :
    '\\' ∉ "ki*y?.log".toList.dropLast ∧ '\n' ∉ "KItty1.log".toList ∧
      ∃ regex, Regex.read? (wildcardRegex "ki*y?.log" true) = some regex ∧
        regex.Finds Char.toLower "KItty1.log".toList := by
  have hpattern : '\\' ∉ "ki*y?.log".toList.dropLast := by decide
  have htext : '\n' ∉ "KItty1.log".toList := by decide
  obtain ⟨regex, hread, hfinds⟩ := wildcardRegex_finds "ki*y?.log" true Char.toLower
  refine ⟨hpattern, htext, regex, hread, ((hfinds _).2 hpattern htext).mpr ?_⟩
  exact ⟨'K', _, rfl, rfl, 'I', _, rfl, rfl, ['t', 't'], "y1.log".toList, rfl,
    fun _ _ => trivial, 'y', _, rfl, rfl, '1', _, rfl, trivial, '.', _, rfl, rfl, 'l', _, rfl, rfl,
    'o', _, rfl, rfl, 'g', _, rfl, rfl, rfl⟩

end KustoSearch.Kql
