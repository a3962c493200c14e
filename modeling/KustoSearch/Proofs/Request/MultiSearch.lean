import KustoSearch.Proofs.Outcome
import KustoSearch.Proofs.Text.Blank
import KustoSearch.Request.MultiSearch

/-! # What a document of several searches holds

The lines of a text, the searches of pairs of lines and what is wrong with a document that holds
none are said here without the reader. A document is read as the searches that it holds
(`read_eq_ok_iff`), and it is refused exactly where something is wrong with it
(`exists_error_iff`).
-/

namespace KustoSearch.MultiSearch

/-! ## Lines -/

/-- Whether a text consists of some lines. A line ends with a line feed, and a carriage return
before it belongs to the end; the last line needs no end. -/
inductive Lines : List Char → List (List Char) → Prop
  | last {line : List Char} (plain : '\n' ∉ line) : Lines line [line]
  | lf {line rest : List Char} {lines : List (List Char)} (plain : '\n' ∉ line)
      (bare : line.getLast? ≠ some '\r') (more : Lines rest lines) :
      Lines (line ++ '\n' :: rest) (line :: lines)
  | crlf {line rest : List Char} {lines : List (List Char)} (plain : '\n' ∉ line)
      (more : Lines rest lines) : Lines (line ++ '\r' :: '\n' :: rest) (line :: lines)

/-- The lines among some that are not blank. -/
def nonBlank (lines : List (List Char)) : List (List Char) :=
  lines.filter fun line => !Text.allBlank line

theorem eq_false_of_not_mem {cs : List Char} (h : '\n' ∉ cs) :
    ∀ c ∈ cs, decide (c = '\n') = false := fun _ hc =>
  decide_eq_false fun heq => h (heq ▸ hc)

theorem ofPieces_cons {piece : List Char} {pieces : List (List Char)} (h : pieces ≠ []) :
    ofPieces (piece :: pieces) = withoutReturn piece :: ofPieces pieces := by
  cases pieces with
  | nil => exact absurd rfl h
  | cons next pieces => rfl

theorem ofPieces_line {line rest : List Char} (plain : '\n' ∉ line) :
    ofPieces (Text.splitWhere (· = '\n') (line ++ '\n' :: rest)) =
      withoutReturn line :: ofPieces (Text.splitWhere (· = '\n') rest) := by
  rw [Text.splitWhere_append_cons (eq_false_of_not_mem plain) (by decide),
    ofPieces_cons (Text.splitWhere_ne_nil _ _)]

/-- A text has the lines that are read from it. -/
theorem Lines.eq_ofPieces {cs : List Char} {lines : List (List Char)} (h : Lines cs lines) :
    lines = ofPieces (Text.splitWhere (· = '\n') cs) := by
  induction h with
  | last plain =>
    rw [Text.splitWhere_of_forall (eq_false_of_not_mem plain)]
    rfl
  | lf plain bare _ ih =>
    rw [ofPieces_line plain, withoutReturn, if_neg bare, ih]
  | @crlf line rest _ plain _ ih =>
    have hplain : '\n' ∉ line ++ ['\r'] := by simp [plain]
    rw [List.append_cons line, ofPieces_line hplain, withoutReturn]
    simp [ih]

theorem exists_lines (cs : List Char) : ∃ lines, Lines cs lines := by
  induction hn : cs.length using Nat.strong_induction_on generalizing cs with
  | _ n ih =>
    by_cases hfeed : '\n' ∈ cs
    · obtain ⟨line, rest, rfl, plain⟩ := List.eq_append_cons_of_mem hfeed
      obtain ⟨lines, hlines⟩ := ih rest.length (by simp at hn; omega) rest rfl
      by_cases hreturn : line.getLast? = some '\r'
      · -- the carriage return belongs to the end of the line
        obtain ⟨front, rfl⟩ := List.getLast?_eq_some_iff.mp hreturn
        rw [List.append_assoc]
        refine ⟨front :: lines, .crlf (fun hmem => plain ?_) hlines⟩
        exact List.mem_append_left _ hmem
      · exact ⟨line :: lines, .lf plain hreturn hlines⟩
    · exact ⟨[cs], .last hfeed⟩

theorem lines_eq_nonBlank {cs : List Char} {ls : List (List Char)} (h : Lines cs ls) :
    lines cs = nonBlank ls := by
  rw [lines, nonBlank, h.eq_ofPieces]

/-! ## Pairs -/

/-- Whether lines are the headers and the bodies of some searches, in turns. -/
inductive Pairs : List (List Char) → List MultiSearchEntry → Prop
  | nil : Pairs [] []
  | cons {header body : List Char} {index : Option String} {json : Json}
      {lines : List (List Char)} {entries : List MultiSearchEntry}
      (named : header? header = some index) (read : Json.read? body = some json)
      (more : Pairs lines entries) : Pairs (header :: body :: lines) (⟨index, json⟩ :: entries)

/-- Whether the header or the body of some pair of lines cannot be read. -/
def HasBadPair (lines : List (List Char)) : Prop :=
  ∃ k header body, lines[2 * k]? = some header ∧ lines[2 * k + 1]? = some body ∧
    (header? header = none ∨ Json.read? body = none)

theorem pairs_of_entriesFrom : (lines : List (List Char)) → {place : Nat} →
    {entries : List MultiSearchEntry} → entriesFrom place lines = .ok entries →
    Pairs lines entries
  | [], _, _, h => by
    cases h
    exact .nil
  | [_], _, _, h => by cases h
  | header :: body :: lines, _, _, h => by
    rw [entriesFrom] at h
    split at h
    · cases h
    · rename_i index hheader
      split at h
      · cases h
      · rename_i json hbody
        obtain ⟨entries, hentries, h⟩ := Outcome.bind_eq_ok.mp h
        cases h
        exact .cons hheader hbody (pairs_of_entriesFrom lines hentries)

theorem Pairs.entriesFrom {lines : List (List Char)} {entries : List MultiSearchEntry}
    (h : Pairs lines entries) (place : Nat) : entriesFrom place lines = .ok entries := by
  induction h generalizing place with
  | nil => rfl
  | cons named read _ ih =>
    rw [MultiSearch.entriesFrom, named, read]
    exact Outcome.bind_eq_ok.mpr ⟨_, ih _, rfl⟩

theorem Pairs.length_eq {lines : List (List Char)} {entries : List MultiSearchEntry}
    (h : Pairs lines entries) : lines.length = 2 * entries.length := by
  induction h with
  | nil => rfl
  | cons _ _ _ ih =>
    simp only [List.length_cons, ih]
    omega

theorem Pairs.not_hasBadPair {lines : List (List Char)} {entries : List MultiSearchEntry}
    (h : Pairs lines entries) : ¬HasBadPair lines := by
  induction h with
  | nil =>
    rintro ⟨k, header, body, hheader, _⟩
    cases hheader
  | cons hheader hbody _ ih =>
    rintro ⟨k, header, body, hfirst, hsecond, hbad⟩
    cases k with
    | zero =>
      cases hfirst
      cases hsecond
      rcases hbad with hbad | hbad
      · cases hbad.symm.trans hheader
      · cases hbad.symm.trans hbody
    | succ k => exact ih ⟨k, header, body, hfirst, hsecond, hbad⟩

/-- An even number of lines makes pairs, unless one of them is bad. -/
theorem exists_pairs_or_hasBadPair : (lines : List (List Char)) → lines.length % 2 = 0 →
    (∃ entries, Pairs lines entries) ∨ HasBadPair lines
  | [], _ => Or.inl ⟨[], .nil⟩
  | [_], h => by cases h
  | header :: body :: lines, h => by
    have hlines : lines.length % 2 = 0 := by
      simp only [List.length_cons] at h
      omega
    cases hheader : header? header with
    | none => exact Or.inr ⟨0, header, body, rfl, rfl, Or.inl hheader⟩
    | some index =>
      cases hbody : Json.read? body with
      | none => exact Or.inr ⟨0, header, body, rfl, rfl, Or.inr hbody⟩
      | some json =>
        rcases exists_pairs_or_hasBadPair lines hlines with
          ⟨entries, hentries⟩ | ⟨k, first, second, hfirst, hsecond, hbad⟩
        · exact Or.inl ⟨_, .cons hheader hbody hentries⟩
        · exact Or.inr ⟨k + 1, first, second, hfirst, hsecond, hbad⟩

/-! ## Documents -/

/-- Whether a document holds some searches, at least one. -/
structure Decodes (bytes : List UInt8) (entries : List MultiSearchEntry) : Prop where
  pairs : ∃ cs lines, Text.Utf8.decode? bytes = some cs ∧ Lines cs lines ∧
    Pairs (nonBlank lines) entries
  nonempty : entries ≠ []

/-- What is wrong with a document: it is no text, it has no line that counts or an odd number of
them, or some pair of lines cannot be read. -/
inductive Malformed (bytes : List UInt8) : Prop
  | noText (text : Text.Utf8.decode? bytes = none)
  | noLines {cs : List Char} {ls : List (List Char)} (text : Text.Utf8.decode? bytes = some cs)
      (lines : Lines cs ls) (none : (nonBlank ls).length = 0)
  | oddLines {cs : List Char} {ls : List (List Char)} (text : Text.Utf8.decode? bytes = some cs)
      (lines : Lines cs ls) (odd : (nonBlank ls).length % 2 = 1)
  | badPair {cs : List Char} {ls : List (List Char)} (text : Text.Utf8.decode? bytes = some cs)
      (lines : Lines cs ls) (bad : HasBadPair (nonBlank ls))

theorem decodes_of_lines {bytes : List UInt8} {cs : List Char} {entries : List MultiSearchEntry}
    (htext : Text.Utf8.decode? bytes = some cs) (hpairs : Pairs (lines cs) entries)
    (hentries : entries ≠ []) : Decodes bytes entries := by
  obtain ⟨ls, hls⟩ := exists_lines cs
  rw [lines_eq_nonBlank hls] at hpairs
  exact ⟨⟨cs, ls, htext, hls, hpairs⟩, hentries⟩

theorem read_eq_ok_iff {bytes : List UInt8} {entries : List MultiSearchEntry} :
    read bytes = .ok entries ↔ Decodes bytes entries := by
  constructor
  · intro h
    unfold read at h
    split at h
    · cases h
    · rename_i cs hcs
      unfold ofLines at h
      split_ifs at h with hempty hodd
      have hpairs := pairs_of_entriesFrom _ h
      refine decodes_of_lines hcs hpairs ?_
      rintro rfl
      have hlength := hpairs.length_eq
      rw [List.length_nil, Nat.mul_zero, List.length_eq_zero_iff] at hlength
      exact hempty (by rw [hlength]; rfl)
  · rintro ⟨⟨cs, ls, hcs, hls, hpairs⟩, hentries⟩
    have hlength := hpairs.length_eq
    have hpos : 0 < entries.length := List.length_pos_iff.mpr hentries
    have hnonempty : ¬(nonBlank ls).isEmpty = true := by
      rw [List.isEmpty_iff, ← List.length_eq_zero_iff]
      omega
    rw [read, hcs]
    dsimp only
    rw [lines_eq_nonBlank hls, ofLines, if_neg hnonempty, if_neg (by omega)]
    exact hpairs.entriesFrom 0

theorem Malformed.not_decodes {bytes : List UInt8} {entries : List MultiSearchEntry}
    (h : Malformed bytes) : ¬Decodes bytes entries := by
  rintro ⟨⟨cs, ls, hcs, hls, hpairs⟩, hentries⟩
  have hpos : 0 < entries.length := List.length_pos_iff.mpr hentries
  have hlength := hpairs.length_eq
  have hsame {other : List Char} {lines : List (List Char)}
      (text : Text.Utf8.decode? bytes = some other) (hlines : Lines other lines) : lines = ls := by
    cases text.symm.trans hcs
    rw [hlines.eq_ofPieces, hls.eq_ofPieces]
  cases h with
  | noText text => cases text.symm.trans hcs
  | noLines text lines none =>
    rw [hsame text lines] at none
    omega
  | oddLines text lines odd =>
    rw [hsame text lines] at odd
    omega
  | badPair text lines bad =>
    rw [hsame text lines] at bad
    exact hpairs.not_hasBadPair bad

/-- Something is wrong with a document that holds no searches. -/
theorem decodes_or_malformed (bytes : List UInt8) :
    (∃ entries, Decodes bytes entries) ∨ Malformed bytes := by
  cases hcs : Text.Utf8.decode? bytes with
  | none => exact Or.inr (.noText hcs)
  | some cs =>
    obtain ⟨ls, hls⟩ := exists_lines cs
    by_cases hnone : (nonBlank ls).length = 0
    · exact Or.inr (.noLines hcs hls hnone)
    by_cases hodd : (nonBlank ls).length % 2 = 1
    · exact Or.inr (.oddLines hcs hls hodd)
    rcases exists_pairs_or_hasBadPair (nonBlank ls) (by omega) with ⟨entries, hpairs⟩ | hbad
    · refine Or.inl ⟨entries, ⟨cs, ls, hcs, hls, hpairs⟩, ?_⟩
      rintro rfl
      exact hnone hpairs.length_eq
    · exact Or.inr (.badPair hcs hls hbad)

theorem exists_error_iff {bytes : List UInt8} :
    (∃ failure, read bytes = .error failure) ↔ Malformed bytes := by
  constructor
  · rintro ⟨failure, hfailure⟩
    refine (decodes_or_malformed bytes).resolve_left ?_
    rintro ⟨entries, hentries⟩
    cases hfailure.symm.trans (read_eq_ok_iff.mpr hentries)
  · intro h
    cases hread : read bytes with
    | error failure => exact ⟨failure, rfl⟩
    | ok entries => exact absurd (read_eq_ok_iff.mp hread) h.not_decodes

theorem kind_of_entriesFrom : (lines : List (List Char)) → {place : Nat} → {failure : Failure} →
    entriesFrom place lines = .error failure → failure.kind = .malformedQuery
  | [], _, _, h => by cases h
  | [_], _, _, h => by
    cases h
    rfl
  | header :: body :: lines, _, _, h => by
    rw [entriesFrom] at h
    split at h
    · cases h
      rfl
    · split at h
      · cases h
        rfl
      · rcases Outcome.bind_eq_error.mp h with h | ⟨_, _, h⟩
        · exact kind_of_entriesFrom lines h
        · cases h

/-- A document that holds no searches is a malformed query. -/
theorem kind_of_read {bytes : List UInt8} {failure : Failure} (h : read bytes = .error failure) :
    failure.kind = .malformedQuery := by
  unfold read at h
  split at h
  · cases h
    rfl
  · unfold ofLines at h
    split_ifs at h
    · cases h
      rfl
    · cases h
      rfl
    · exact kind_of_entriesFrom _ h

end KustoSearch.MultiSearch
