import KustoSearch.Proofs.Kql.Pieces
import KustoSearch.Proofs.Kql.ReadBack
import KustoSearch.Proofs.Plan.Inert
import Mathlib.Data.List.Infix

/-! # What stages do to columns

The engine reads the output for hits as a source and stages between pipes. A stage keeps or drops
the columns that its list names, by a name in brackets or by a bare word whose stars stand for any
characters; numbering rows adds a column, and other stages leave columns alone. The text of an
output for hits is read back as its stages: `Output.columnsShown?_text`.
-/

namespace KustoSearch

open Kql (Padded Whole pieces Blanks Separator)

/-! ## Patterns with stars -/

/-- Whether a text is what a pattern says, in which a star stands for any characters. -/
def Text.matchesStars : List Char → List Char → Bool
  | [], cs => cs.isEmpty
  | p :: pattern, cs =>
    if p = '*' then cs.tails.any (matchesStars pattern)
    else
      match cs with
      | [] => false
      | c :: cs => p = c && matchesStars pattern cs

/-- Whether a column is chosen by its name or by a pattern. -/
def ColumnPattern.selects : ColumnPattern → String → Bool
  | .column name, c => name = c
  | .pattern text, c => Text.matchesStars text.toList c.toList

namespace Text

/-- A star stands for any characters in front of what the rest of the pattern stands for. -/
theorem matchesStars_star {pattern cs : List Char} :
    matchesStars ('*' :: pattern) cs = true ↔
      ∃ run rest, cs = run ++ rest ∧ matchesStars pattern rest = true := by
  rw [matchesStars.eq_def]
  simp only [if_true, List.any_eq_true]
  constructor
  · rintro ⟨rest, hrest, hmatch⟩
    obtain ⟨run, hrun⟩ := (List.mem_tails _ _).mp hrest
    exact ⟨run, rest, hrun.symm, hmatch⟩
  · rintro ⟨run, rest, hcs, hmatch⟩
    exact ⟨rest, (List.mem_tails _ _).mpr ⟨run, hcs.symm⟩, hmatch⟩

/-- A lone star is what any text looks like. -/
theorem matchesStars_lone (cs : List Char) : matchesStars ['*'] cs = true :=
  matchesStars_star.mpr ⟨cs, [], (List.append_nil cs).symm, rfl⟩

/-- Without a star a pattern stands for itself. -/
theorem matchesStars_of_no_star {pattern cs : List Char} (h : '*' ∉ pattern) :
    matchesStars pattern cs = true ↔ pattern = cs := by
  induction pattern generalizing cs with
  | nil =>
    rw [matchesStars, List.isEmpty_iff]
    exact eq_comm
  | cons p pattern ih =>
    have hp : p ≠ '*' := fun heq => h (by simp [heq])
    rw [matchesStars.eq_def]
    simp only [hp, if_false]
    cases cs with
    | nil => simp
    | cons c cs => simp [ih fun hmem => h (List.mem_cons_of_mem _ hmem)]

end Text

/-- Whether a column looks like a pattern of the request. -/
def LooksLike (pattern column : String) : Prop :=
  Text.matchesStars pattern.toList column.toList = true

theorem looksLike_star (column : String) : LooksLike "*" column :=
  Text.matchesStars_lone column.toList

/-- A pattern selects the columns that look like the name that it is made of. -/
theorem ColumnPattern.selects_iff {name : String} {pattern : ColumnPattern}
    (h : Batch.columnPattern name = .ok pattern) (column : String) :
    pattern.selects column = true ↔ LooksLike name column := by
  unfold Batch.columnPattern at h
  split_ifs at h with hplain
  · cases h
    have hnone : '*' ∉ name.toList := by
      intro hmem
      have hsome : Text.containsAny name ['*'] = true :=
        List.any_eq_true.mpr ⟨'*', hmem, rfl⟩
      rw [hsome] at hplain
      cases hplain
    rw [LooksLike, Text.matchesStars_of_no_star hnone, String.toList_inj, selects,
      decide_eq_true_eq]
  · cases h
    rfl

/-! ## Reading stages -/

/-- What a stage does to columns. -/
inductive ColumnStep where
  | keep (patterns : List ColumnPattern)
  | drop (patterns : List ColumnPattern)
  | add (column : String)
  | same
deriving DecidableEq, Repr

namespace ColumnStep

/-- The columns behind a stage. -/
def apply : ColumnStep → List String → List String
  | .keep patterns, columns => columns.filter fun c => patterns.any fun p => p.selects c
  | .drop patterns, columns => columns.filter fun c => !patterns.any fun p => p.selects c
  | .add column, columns => if column ∈ columns then columns else columns ++ [column]
  | .same, columns => columns

/-- The characters of a bare pattern. -/
def isPatternChar (c : Char) : Bool := c.isAlphanum || c = '_' || c = '*'

/-- Reads a name in brackets, with blanks behind it. -/
def bracketed? (cs : List Char) : Option ColumnPattern :=
  match Kql.Lexer.next? cs with
  | some (.column name, rest) => if rest.all (· = ' ') then some (.column name) else none
  | _ => none

/-- Reads a bare pattern, with blanks behind it. -/
def bare? (cs : List Char) : Option ColumnPattern :=
  let run := cs.takeWhile isPatternChar
  if !run.isEmpty && (cs.dropWhile isPatternChar).all (· = ' ') then
    some (.pattern (String.ofList run))
  else none

/-- Reads a name in brackets or a bare pattern, with blanks around it. -/
def pattern? (cs : List Char) : Option ColumnPattern :=
  let cs := cs.dropWhile (· = ' ')
  if cs.head? = some '[' then bracketed? cs else bare? cs

/-- Reads patterns with commas between them. -/
def patterns? (cs : List Char) : Option (List ColumnPattern) := (pieces ',' cs).mapM pattern?

/-- Reads a stage, when its first word is known and what comes behind it. -/
def ofWord? (word : String) (rest : List Char) : Option ColumnStep :=
  match word with
  | "project-keep" => (patterns? rest).map .keep
  | "project-away" => (patterns? rest).map .drop
  | "serialize" =>
    some (.add (String.ofList ((rest.dropWhile (· = ' ')).takeWhile isPatternChar)))
  | "where" => some .same
  | "order" => some .same
  | "take" => some .same
  | "as" => some .same
  | _ => none

/-- Reads a stage. -/
def read? (cs : List Char) : Option ColumnStep :=
  let cs := cs.dropWhile (· = ' ')
  ofWord? (String.ofList (cs.takeWhile (· ≠ ' '))) (cs.dropWhile (· ≠ ' '))

end ColumnStep

/-- The columns that an output shows, read from its text, when its source has some columns. -/
def columnsShown? (text : String) (columns : List String) : Option (List String) :=
  match pieces '|' text.toList with
  | [] => none
  | _ :: stages => (stages.mapM ColumnStep.read?).map fun steps =>
    steps.foldl (fun columns step => step.apply columns) columns

/-! ## Patterns that are read back -/

/-- Patterns as they are written: a name in brackets, or a bare word that may have stars. -/
inductive ColumnPattern.Written : ColumnPattern → Prop where
  | column (name : String) : Written (.column name)
  | pattern {text : String} (hne : text.toList ≠ [])
      (hchars : text.toList.all ColumnStep.isPatternChar = true) : Written (.pattern text)

namespace ColumnPattern

theorem written_of_columnPattern {name : String} {pattern : ColumnPattern}
    (h : Batch.columnPattern name = .ok pattern) : pattern.Written := by
  unfold Batch.columnPattern at h
  split_ifs at h with hplain hchars
  · cases h
    exact .column name
  · cases h
    have hstar : '*' ∈ name.toList := by
      simpa [Text.containsAny] using hplain
    refine .pattern (List.ne_nil_of_mem hstar) ?_
    simpa [ColumnStep.isPatternChar] using hchars

theorem Written.inert {pattern : ColumnPattern} (h : pattern.Written) :
    Kql.Inert pattern.text := by
  cases h with
  | column name => exact Kql.inert_identifier name
  | pattern _ hchars =>
    apply Kql.inert_of_plain
    intro c hc
    exact Kql.isPlain_of_kind ColumnStep.isPatternChar (by decide)
      (List.all_eq_true.mp hchars c hc)

/-- No comma divides a pattern. -/
theorem Written.whole {pattern : ColumnPattern} (h : pattern.Written) :
    Whole ',' pattern.text.toList := by
  cases h with
  | column name => exact Kql.whole_identifier name (by decide)
  | pattern _ hchars =>
    apply Kql.whole_of_plain
    intro c hc
    have hkind := List.all_eq_true.mp hchars c hc
    refine ⟨?_, ?_⟩
    · rintro (rfl | rfl)
      · exact absurd hkind (by decide)
      · exact absurd hkind (by decide)
    · rintro rfl
      exact absurd hkind (by decide)

end ColumnPattern

namespace ColumnStep

theorem dropWhile_blanks {before cs : List Char} (h : Blanks before)
    (hcs : ∀ c ∈ cs.head?, c ≠ ' ') : (before ++ cs).dropWhile (· = ' ') = cs := by
  refine (Text.takeWhile_append_of_head (p := (· = ' ')) ?_ ?_).2
  · intro c hc
    rw [h c hc]
    rfl
  · intro c hc
    simpa using hcs c hc

theorem all_blanks {cs : List Char} (h : Blanks cs) : cs.all (· = ' ') = true := by
  rw [List.all_eq_true]
  intro c hc
  rw [h c hc]
  rfl

/-- Reading a pattern begins at its first character. -/
theorem pattern?_append {before cs : List Char} {c : Char} (hbefore : Blanks before)
    (hc : cs.head? = some c) (hvisible : c ≠ ' ') :
    pattern? (before ++ cs) = if c = '[' then bracketed? cs else bare? cs := by
  have hhead : ∀ d ∈ cs.head?, d ≠ ' ' := by
    intro d hd
    rw [hc] at hd
    cases hd
    exact hvisible
  rw [pattern?, dropWhile_blanks hbefore hhead, hc]
  exact if_congr (by simp) rfl rfl

theorem bracketed?_identifier (name : String) {after : List Char} (hafter : Blanks after) :
    bracketed? ((Kql.identifier name).toList ++ after) = some (.column name) := by
  rw [bracketed?, Kql.Lexer.next?_identifier]
  dsimp only
  rw [all_blanks hafter, if_pos rfl]

theorem bare?_append {run after : List Char} (hne : run ≠ [])
    (hrun : ∀ c ∈ run, isPatternChar c = true) (hafter : Blanks after) :
    bare? (run ++ after) = some (.pattern (String.ofList run)) := by
  have hend : ∀ c ∈ after.head?, isPatternChar c = false := by
    intro c hc
    rw [hafter c (List.mem_of_mem_head? hc)]
    rfl
  obtain ⟨htake, hdrop⟩ := Text.takeWhile_append_of_head hrun hend
  rw [bare?, htake, hdrop, all_blanks hafter]
  simp [hne]

/-- A column pattern is read back from its text. -/
theorem pattern?_padded {pattern : ColumnPattern} (h : pattern.Written) {cs : List Char}
    (hcs : Padded pattern.text.toList cs) : pattern? cs = some pattern := by
  obtain ⟨before, after, hbefore, hafter, rfl⟩ := hcs
  rw [List.append_assoc]
  cases h with
  | column name =>
    obtain ⟨rest, hopen⟩ : ∃ rest, (Kql.identifier name).toList = '[' :: rest := by
      simp [Kql.identifier]
    have hhead : ((Kql.identifier name).toList ++ after).head? = some '[' := by
      rw [hopen]
      rfl
    rw [ColumnPattern.text, pattern?_append hbefore hhead (by decide), if_pos rfl]
    exact bracketed?_identifier name hafter
  | @pattern text hne hchars =>
    obtain ⟨c, rest, htext⟩ := List.exists_cons_of_ne_nil hne
    have hplain := List.all_eq_true.mp hchars
    have hfirst : isPatternChar c = true := hplain c (by simp [htext])
    have hhead : (text.toList ++ after).head? = some c := by
      rw [htext]
      rfl
    have hvisible : c ≠ ' ' := by
      rintro rfl
      exact absurd hfirst (by decide)
    have hbare : c ≠ '[' := by
      rintro rfl
      exact absurd hfirst (by decide)
    rw [ColumnPattern.text, pattern?_append hbefore hhead hvisible, if_neg hbare,
      bare?_append hne hplain hafter, String.ofList_toList]

/-- A list of column patterns is read back. -/
theorem patterns?_join {patterns : List ColumnPattern} (hne : patterns ≠ [])
    (h : ∀ p ∈ patterns, p.Written) {after : List Char} (hafter : Blanks after) :
    patterns? (' ' :: ((Text.join ", " (patterns.map ColumnPattern.text)).toList ++ after)) =
      some patterns := by
  have hwhole : ∀ part ∈ patterns.map ColumnPattern.text, Whole ',' part.toList := by
    intro part hpart
    obtain ⟨pattern, hpattern, rfl⟩ := List.mem_map.mp hpart
    exact (h pattern hpattern).whole
  have hpieces := Kql.pieces_join Kql.separator_comma (by simpa using hne) hwhole
    Kql.blanks_single hafter
  rw [List.forall₂_map_left_iff] at hpieces
  have hread := ((List.forall₂_and_left _ _).mpr ⟨h, hpieces⟩).imp
    fun pattern piece ⟨hwritten, hpadded⟩ => pattern?_padded hwritten hpadded
  have hlist := Kql.mapM_eq_some (g := id) hread
  rw [List.map_id] at hlist
  exact hlist

end ColumnStep

/-! ## Stages of hits -/

/-- The stages that choose hits and their columns. -/
inductive Stage.OfHits : Stage → Prop where
  | order (keys : List OrderKey) : OfHits (.order keys)
  | take (n : Nat) : OfHits (.take n)
  | number : OfHits .number
  | numberAbove (n : Nat) : OfHits (.numberAbove n)
  | drop : OfHits (.drop .rowNumber)
  | keepColumns {patterns : List ColumnPattern} (hne : patterns ≠ [])
      (hpatterns : ∀ p ∈ patterns, p.Written) : OfHits (.keepColumns patterns)
  | dropColumns {patterns : List ColumnPattern} (hne : patterns ≠ [])
      (hpatterns : ∀ p ∈ patterns, p.Written) : OfHits (.dropColumns patterns)

/-- What a stage does to columns. -/
def Stage.columnStep : Stage → ColumnStep
  | .keepColumns patterns => .keep patterns
  | .dropColumns patterns => .drop patterns
  | .number => .add Counter.rowNumber.column
  | .drop counter => .drop [.pattern counter.column]
  | _ => .same

theorem Stage.OfHits.inert {stage : Stage} (h : stage.OfHits) : Kql.Inert stage.text := by
  cases h with
  | keepColumns hne hpatterns => exact Stage.inert_text fun p hp => (hpatterns p hp).inert
  | dropColumns hne hpatterns => exact Stage.inert_text fun p hp => (hpatterns p hp).inert
  | _ => exact Stage.inert_of_patterns rfl

namespace ColumnStep

/-- A stage is read by its first word. -/
theorem read?_of_word {text word rest : String} (htext : text = word ++ " " ++ rest)
    (hne : word.toList ≠ []) (hword : ' ' ∉ word.toList) {step : ColumnStep}
    (hstep : ∀ after, Blanks after → ofWord? word (' ' :: (rest.toList ++ after)) = some step)
    {cs : List Char} (hcs : Padded text.toList cs) : read? cs = some step := by
  obtain ⟨before, after, hbefore, hafter, rfl⟩ := hcs
  obtain ⟨c, more, hchars⟩ := List.exists_cons_of_ne_nil hne
  have hsplit : before ++ text.toList ++ after =
      before ++ (word.toList ++ ' ' :: (rest.toList ++ after)) := by
    simp [htext]
  have hdrop : (before ++ (word.toList ++ ' ' :: (rest.toList ++ after))).dropWhile (· = ' ') =
      word.toList ++ ' ' :: (rest.toList ++ after) := by
    apply dropWhile_blanks hbefore
    intro d hd
    rw [hchars] at hd
    obtain rfl : c = d := by simpa using hd
    rintro rfl
    exact hword (by rw [hchars]; exact List.mem_cons_self)
  have hplain : ∀ d ∈ word.toList, decide (d ≠ ' ') = true := by
    intro d hd
    rw [decide_eq_true_eq]
    rintro rfl
    exact hword hd
  have hblank : ∀ d ∈ (' ' :: (rest.toList ++ after)).head?, decide (d ≠ ' ') = false := by simp
  obtain ⟨hrun, hbehind⟩ := Text.takeWhile_append_of_head hplain hblank
  rw [hsplit, read?, hdrop, hrun, hbehind, String.ofList_toList]
  exact hstep after hafter

/-- A stage for hits is read as what it does to columns. -/
theorem read?_text {stage : Stage} (h : stage.OfHits) {cs : List Char}
    (hcs : Padded stage.text.toList cs) : read? cs = some stage.columnStep := by
  -- the first word of a stage says what it is, and only patterns are read behind it
  cases h with
  | order keys =>
    have htext : (Stage.order keys).text =
        "order" ++ " " ++ ("by " ++ Text.join ", " (keys.map OrderKey.text)) := by
      rw [← String.append_assoc]
      rfl
    exact read?_of_word htext (by decide) (by decide) (fun _ _ => rfl) hcs
  | take n =>
    have htext : (Stage.take n).text = "take" ++ " " ++ Text.naturalText n := rfl
    exact read?_of_word htext (by decide) (by decide) (fun _ _ => rfl) hcs
  | numberAbove n =>
    have htext : (Stage.numberAbove n).text =
        "where" ++ " " ++ ("_rn > " ++ Text.naturalText n) := by
      rw [← String.append_assoc]
      rfl
    exact read?_of_word htext (by decide) (by decide) (fun _ _ => rfl) hcs
  | number =>
    have htext : Stage.number.text = "serialize" ++ " " ++ "_rn = row_number()" := rfl
    exact read?_of_word htext (by decide) (by decide) (fun _ _ => rfl) hcs
  | drop =>
    have htext : (Stage.drop .rowNumber).text =
      "project-away" ++ " " ++ Text.join ", " ([.pattern "_rn"].map ColumnPattern.text) := rfl
    refine read?_of_word htext (by decide) (by decide) ?_ hcs
    intro after hafter
    have hwritten : (ColumnPattern.pattern "_rn").Written := .pattern (by decide) (by decide)
    have hlist := patterns?_join (List.cons_ne_nil _ _) (List.forall_mem_singleton.mpr hwritten)
      hafter
    exact congrArg (Option.map drop) hlist
  | @keepColumns patterns hne hpatterns =>
    have htext : (Stage.keepColumns patterns).text =
      "project-keep" ++ " " ++ Text.join ", " (patterns.map ColumnPattern.text) := rfl
    refine read?_of_word htext (by decide) (by decide) ?_ hcs
    intro after hafter
    exact congrArg (Option.map keep) (patterns?_join hne hpatterns hafter)
  | @dropColumns patterns hne hpatterns =>
    have htext : (Stage.dropColumns patterns).text =
      "project-away" ++ " " ++ Text.join ", " (patterns.map ColumnPattern.text) := rfl
    refine read?_of_word htext (by decide) (by decide) ?_ hcs
    intro after hafter
    exact congrArg (Option.map drop) (patterns?_join hne hpatterns hafter)

end ColumnStep

/-! ## Outputs -/

/-- A last part stands behind one more separator. -/
theorem Text.join_concat (separator : String) {parts : List String} (hne : parts ≠ [])
    (last : String) :
    join separator (parts ++ [last]) = join separator parts ++ separator ++ last := by
  induction parts with
  | nil => exact absurd rfl hne
  | cons part parts ih =>
    cases parts with
    | nil => rfl
    | cons next parts =>
      have htail := ih (List.cons_ne_nil next parts)
      rw [List.cons_append] at htail
      rw [List.cons_append, List.cons_append, join, htail, join]
      simp only [String.append_assoc]

/-- The columns that stages make of the columns of their source. -/
def Stage.columnsBehind (stages : List Stage) (columns : List String) : List String :=
  stages.foldl (fun columns stage => stage.columnStep.apply columns) columns

namespace Output

/-- What stands between the pipes behind the source of an output for hits, and what it does to
columns. -/
def columnParts (o : Output) : List (String × ColumnStep) :=
  o.stages.map (fun stage => (stage.text, stage.columnStep)) ++ [("as hits", .same)]

theorem text_eq_join {o : Output} (hname : o.name = Layout.hitsTable) :
    o.text = Text.join " | " (o.source.text :: o.columnParts.map Prod.fst) := by
  have hparts : o.source.text :: o.columnParts.map Prod.fst =
      (o.source.text :: o.stages.map Stage.text) ++ ["as hits"] := by
    simp [columnParts, Function.comp_def]
  rw [hparts, Text.join_concat " | " (List.cons_ne_nil _ _), text, pipeline, hname,
    String.append_assoc, String.append_assoc]
  rfl

/-- No pipe divides a part, and it is read as what it does. -/
theorem read?_columnPart {o : Output} (hstages : ∀ stage ∈ o.stages, stage.OfHits)
    {part : String × ColumnStep} (hpart : part ∈ o.columnParts) :
    Whole '|' part.1.toList ∧
      ∀ cs, Padded part.1.toList cs → ColumnStep.read? cs = some part.2 := by
  rcases List.mem_append.mp hpart with hstage | hlast
  · obtain ⟨stage, hmem, rfl⟩ := List.mem_map.mp hstage
    have hof := hstages stage hmem
    exact ⟨hof.inert.whole, fun cs hcs => ColumnStep.read?_text hof hcs⟩
  · rw [List.mem_singleton.mp hlast]
    have hinert : Kql.Inert "as hits" := by decide
    have hword : "as hits" = "as" ++ " " ++ "hits" := rfl
    refine ⟨hinert.whole, ?_⟩
    intro cs hcs
    exact ColumnStep.read?_of_word hword (by decide) (by decide) (fun _ _ => rfl) hcs

/-- The text of an output for hits is read as its stages. -/
theorem columnsShown?_text {o : Output} (hstages : ∀ stage ∈ o.stages, stage.OfHits)
    (hname : o.name = Layout.hitsTable) (columns : List String) :
    columnsShown? o.text columns = some (Stage.columnsBehind o.stages columns) := by
  have hwhole : ∀ text ∈ o.source.text :: o.columnParts.map Prod.fst, Whole '|' text.toList := by
    intro text htext
    rcases List.mem_cons.mp htext with rfl | htext
    · exact o.source.inert_text.whole
    · obtain ⟨part, hpart, rfl⟩ := List.mem_map.mp htext
      exact (read?_columnPart hstages hpart).1
  have hpieces := Kql.pieces_join Kql.separator_pipe (List.cons_ne_nil _ _) hwhole
    Kql.blanks_nil Kql.blanks_nil
  rw [List.nil_append, List.append_nil, ← text_eq_join hname] at hpieces
  rw [columnsShown?]
  generalize pieces '|' o.text.toList = found at hpieces ⊢
  cases hpieces with
  | cons _ hrest =>
    rw [List.forall₂_map_left_iff] at hrest
    have hread : ∀ part ∈ o.columnParts,
        ∀ cs, Padded part.1.toList cs → ColumnStep.read? cs = some part.2 :=
      fun _ hpart => (read?_columnPart hstages hpart).2
    have hsteps := ((List.forall₂_and_left _ _).mpr ⟨hread, hrest⟩).imp
      fun part piece ⟨hstep, hpadded⟩ => hstep piece hpadded
    dsimp only
    rw [Kql.mapM_eq_some hsteps]
    simp [columnParts, Stage.columnsBehind, List.foldl_map, ColumnStep.apply]

end Output

end KustoSearch
