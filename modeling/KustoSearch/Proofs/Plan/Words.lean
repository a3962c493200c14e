import KustoSearch.Proofs.Plan.Meaning
import KustoSearch.Request.Reader

/-! # Searches for words

A search for words names columns, by a list of fields or a default field. Its text is made for one
row after the other: it holds of a row in which all words, or any of them, are found in one of the
columns that are searched. These are the columns that the search asks for, with one exception: a
lone star asks for every column, but is left out of the list, and beside other names only these are
searched. Main result: `Query.words_found`.
-/

namespace KustoSearch

open Kql (Comparison Predicate Target Test)

/-! ## Rows -/

section Rows

variable {Cell : Type} (finds : Comparison → String → Cell → Bool) (row : List (String × Cell))

/-- Whether a test of a column, or of any one, with a text holds of a row, which has a cell under
the name of each of its columns. -/
def rowTruth : Test → Bool
  | .holds (.column name) comparison (.text s) =>
    row.any fun entry => entry.1 = name && finds comparison s entry.2
  | .holds .anyColumn comparison (.text s) => row.any fun entry => finds comparison s entry.2
  | _ => false

/-- What a word is looked for as: the stem before its last star as the start of a term, and any
other word as a term. -/
inductive Asks (word : String) : Comparison → String → Prop
  | stem {stem : String} (hne : stem ≠ "") (hword : word = stem ++ "*") :
      Asks word .hasTermFrom stem
  | term (h : ∀ stem, stem ≠ "" → word ≠ stem ++ "*") : Asks word .hasTerm word

/-- A word is found in one of some columns of a row. -/
def FindsWord (columns : String → Prop) (word : String) : Prop :=
  ∃ comparison text, Asks word comparison text ∧
    ∃ column cell, (column, cell) ∈ row ∧ columns column ∧ finds comparison text cell = true

/-- The words of a text are found in some columns of a row, all of them or any. -/
def FindsWords (operator : MatchOperator) (columns : String → Prop) (words : List String) : Prop :=
  match operator with
  | .and => ∀ word ∈ words, FindsWord finds row columns word
  | .or => ∃ word ∈ words, FindsWord finds row columns word

/-- A text of blanks and a star alone match every row, and another text matches by its words. -/
def MatchesRow (operator : MatchOperator) (columns : String → Prop) (text : String) : Prop :=
  Text.isBlankString text = true ∨ Text.trimmed text = "*" ∨
    FindsWords finds row operator columns (Query.tokens text)

end Rows

/-! ## The columns of a search -/

namespace Request.WordsParams

variable (params : WordsParams)

/-- The names that a search lists; a list of fields counts before a default field. -/
def named : List String := params.fields.getD params.defaultField.toList

/-- Whether a search asks for a column: it lists the name, or a star for every column, or no name
at all. -/
def Requests (column : String) : Prop :=
  params.named = [] ∨ "*" ∈ params.named ∨ column ∈ params.named

/-- Whether a column is searched: it is one of the names besides stars, when there are any. -/
def Searches (column : String) : Prop :=
  (∀ name ∈ params.named, name = "*") ∨ (column ∈ params.named ∧ column ≠ "*")

/-- Whether a lone star stands among other names. -/
def StarAmongOthers : Prop := "*" ∈ params.named ∧ ∃ name ∈ params.named, name ≠ "*"

variable {params}

/-- Where no star stands among other names, what is asked for is searched. -/
theorem searches_iff_requests (h : ¬params.StarAmongOthers) (column : String) :
    params.Searches column ↔ params.Requests column := by
  by_cases hstar : "*" ∈ params.named
  · -- nothing but stars: every column is asked for, and every column is searched
    have hall : ∀ name ∈ params.named, name = "*" := by
      intro name hname
      by_contra hne
      exact h ⟨hstar, name, hname, hne⟩
    exact iff_of_true (Or.inl hall) (Or.inr (Or.inl hstar))
  · constructor
    · rintro (hall | ⟨hcolumn, _⟩)
      · refine Or.inl (List.eq_nil_iff_forall_not_mem.mpr fun name hname => hstar ?_)
        rw [← hall name hname]
        exact hname
      · exact Or.inr (Or.inr hcolumn)
    · rintro (hnil | hmem | hcolumn)
      · rw [Searches, hnil]
        exact Or.inl fun _ hname => absurd hname List.not_mem_nil
      · exact absurd hmem hstar
      · refine Or.inr ⟨hcolumn, ?_⟩
        rintro rfl
        exact hstar hcolumn

end Request.WordsParams

/-- The query of a search for words leaves the stars out. -/
theorem Request.words_eq_ok {params : WordsParams} {query : Query} :
    words params = .ok query ↔ ∃ op, operator params.defaultOperator = .ok op ∧
      query = .words params.query (params.named.filter fun name => name != "*") op := by
  have hwords : words params = (do
      let op ← operator params.defaultOperator
      .ok (.words params.query (params.named.filter fun name => name != "*") op)) := by
    rw [words, WordsParams.named]
    cases params.fields with
    | some fields => rfl
    | none => cases params.defaultField <;> rfl
  rw [hwords, Outcome.bind_eq_ok]
  constructor
  · rintro ⟨op, hop, h⟩
    cases h
    exact ⟨op, hop, rfl⟩
  · rintro ⟨op, hop, rfl⟩
    exact ⟨op, hop, rfl⟩

namespace Query

/-! ## Words -/

theorem tokens_trimmed (s : String) : tokens (Text.trimmed s) = tokens s := by
  rw [tokens, Text.trimmed, String.toList_ofList, Text.words_trim, tokens]

theorem stem?_eq_some {word stem : String} :
    stem? word = some stem ↔ stem ≠ "" ∧ word = stem ++ "*" := by
  have hword : ∀ stem : String, word = stem ++ "*" ↔
      word.toList.reverse = '*' :: stem.toList.reverse := by
    intro stem
    rw [← String.toList_inj, String.toList_append, ← List.reverse_inj, List.reverse_append]
    rfl
  rw [hword, stem?]
  constructor
  · intro h
    split at h
    · rename_i c rest hreverse
      cases h
      refine ⟨?_, by rw [hreverse, String.toList_ofList, List.reverse_reverse]⟩
      rw [ne_eq, String.ofList_eq_empty_iff, List.reverse_eq_nil_iff]
      exact List.cons_ne_nil c rest
    · cases h
  · rintro ⟨hne, hreverse⟩
    cases hstem : stem.toList.reverse with
    | nil => exact absurd (String.toList_eq_nil_iff.mp (List.reverse_eq_nil_iff.mp hstem)) hne
    | cons c rest =>
      simp only [hreverse, hstem]
      rw [← hstem, List.reverse_reverse, String.ofList_toList]

/-- A word asks for the one test that is made of it. -/
theorem asks_iff {word : String} {comparison : Comparison} {text : String} :
    Asks word comparison text ↔ wordTest word = (comparison, text) := by
  rw [wordTest]
  cases hstem : stem? word with
  | some stem =>
    obtain ⟨hne, hword⟩ := stem?_eq_some.mp hstem
    constructor
    · rintro (⟨hne', hword'⟩ | h)
      · rw [stem?_eq_some.mpr ⟨hne', hword'⟩] at hstem
        cases hstem
        rfl
      · exact absurd hword (h stem hne)
    · rintro ⟨⟩
      exact .stem hne hword
  | none =>
    have hnone : ∀ stem, stem ≠ "" → word ≠ stem ++ "*" := by
      intro stem hne hword
      rw [stem?_eq_some.mpr ⟨hne, hword⟩] at hstem
      cases hstem
    constructor
    · rintro (⟨hne, hword⟩ | _)
      · exact absurd hword (hnone _ hne)
      · rfl
    · rintro ⟨⟩
      exact .term hnone

section Rows

variable {Cell : Type} {finds : Comparison → String → Cell → Bool} {row : List (String × Cell)}

theorem findsWord_iff {columns : String → Prop} {word : String} :
    FindsWord finds row columns word ↔
      ∃ column cell, (column, cell) ∈ row ∧ columns column ∧
        finds (wordTest word).1 (wordTest word).2 cell = true := by
  constructor
  · rintro ⟨comparison, text, hasks, hfound⟩
    rw [asks_iff.mp hasks]
    exact hfound
  · intro hfound
    exact ⟨_, _, asks_iff.mpr rfl, hfound⟩

/-- The tests of a word over columns hold of a row in which one of the columns has the word; a
search without columns tests any column. -/
theorem wordMeaning_iff (fields : List String) (word : String) :
    wordMeaning (rowTruth finds row)
        (if fields.isEmpty then [.anyColumn] else fields.map Target.column) word = true ↔
      FindsWord finds row (fun column => fields = [] ∨ column ∈ fields) word := by
  rw [wordMeaning, List.any_eq_true, findsWord_iff]
  -- without names there is one target, which stands for any column
  cases fields with
  | nil =>
    constructor
    · rintro ⟨target, htarget, hholds⟩
      obtain rfl : target = .anyColumn := by simpa using htarget
      obtain ⟨⟨column, cell⟩, hentry, hfinds⟩ := List.any_eq_true.mp hholds
      exact ⟨column, cell, hentry, Or.inl rfl, hfinds⟩
    · rintro ⟨column, cell, hentry, _, hfinds⟩
      exact ⟨.anyColumn, by simp, List.any_eq_true.mpr ⟨(column, cell), hentry, hfinds⟩⟩
  | cons field fields =>
    rw [List.isEmpty_cons, if_neg Bool.false_ne_true]
    constructor
    · rintro ⟨target, htarget, hholds⟩
      obtain ⟨name, hname, rfl⟩ := List.mem_map.mp htarget
      obtain ⟨⟨column, cell⟩, hentry, hboth⟩ := List.any_eq_true.mp hholds
      obtain ⟨hcolumn, hfinds⟩ := Bool.and_eq_true_iff.mp hboth
      obtain rfl : column = name := of_decide_eq_true hcolumn
      exact ⟨column, cell, hentry, Or.inr hname, hfinds⟩
    · rintro ⟨column, cell, hentry, hnil | hcolumn, hfinds⟩
      · cases hnil
      · refine ⟨.column column, List.mem_map_of_mem hcolumn, List.any_eq_true.mpr ?_⟩
        exact ⟨(column, cell), hentry, Bool.and_eq_true_iff.mpr ⟨decide_eq_true rfl, hfinds⟩⟩

/-- What a search for words means for a row. -/
theorem wordsMeaning_iff (text : String) (fields : List String) (operator : MatchOperator) :
    wordsMeaning (rowTruth finds row) text fields operator = true ↔
      MatchesRow finds row operator (fun column => fields = [] ∨ column ∈ fields) text := by
  rw [wordsMeaning, Bool.or_eq_true, Bool.or_eq_true, Text.isEmpty_trimmed_iff, decide_eq_true_eq,
    tokens_trimmed, or_assoc, MatchesRow]
  refine or_congr_right (or_congr_right ?_)
  cases operator with
  | and =>
    rw [combined, List.all_map, List.all_eq_true]
    exact forall₂_congr fun word _ => wordMeaning_iff fields word
  | or =>
    rw [combined, List.any_map, List.any_eq_true]
    exact exists_congr fun word => and_congr_right fun _ => wordMeaning_iff fields word

end Rows

/-! ## The text of a search -/

/-- The columns left by the names besides stars are those that are searched. -/
theorem columns_eq_searches (params : Request.WordsParams) :
    (fun column => params.named.filter (fun name => name != "*") = [] ∨
      column ∈ params.named.filter fun name => name != "*") = params.Searches := by
  funext column
  rw [List.filter_eq_nil_iff, List.mem_filter, Request.WordsParams.Searches]
  simp only [bne_iff_ne, ne_eq, not_not]

/-- The text of a search for words can be read, and holds of a row exactly if its words, all of them
or any as its operator says, are found in a column that is searched. This is a column that the
search asks for as long as no star stands among other names. -/
theorem words_found {body : Json} {clause : Request.Clause} {query : Query} {p : Predicate}
    (hclause : Request.clause? (.object [("query_string", body)]) = some clause)
    (hquery : Request.query clause = .ok query) (hp : query.predicate = .ok p) :
    ∃ params operator, Request.wordsParams? body = some params ∧
      Request.operator params.defaultOperator = .ok operator ∧
      ∀ (Cell : Type) (finds : Comparison → String → Cell → Bool) (row : List (String × Cell)),
        ∃ holds, (Kql.Expression.read? p.text).bind
            (Kql.Expression.truth? (rowTruth finds row)) = some holds ∧
          (holds = true ↔ MatchesRow finds row operator params.Searches params.query) ∧
          (¬params.StarAmongOthers →
            (holds = true ↔ MatchesRow finds row operator params.Requests params.query)) := by
  obtain ⟨params, hparams, rfl⟩ : ∃ params, Request.wordsParams? body = some params ∧
      Request.Clause.words params = clause := Option.map_eq_some_iff.mp hclause
  obtain ⟨operator, hoperator, rfl⟩ := Request.words_eq_ok.mp hquery
  refine ⟨params, operator, hparams, hoperator, fun Cell finds row => ?_⟩
  have hmeaning : Query.meaning (rowTruth finds row) (.words params.query
        (params.named.filter fun name => name != "*") operator) = true ↔
      MatchesRow finds row operator params.Searches params.query := by
    rw [meaning, wordsMeaning_iff, columns_eq_searches]
  refine ⟨_, (says_predicate _ hp).truth?_text (rowTruth finds row), hmeaning, fun hstar => ?_⟩
  have hsame : params.Searches = params.Requests :=
    funext fun column => propext (Request.WordsParams.searches_iff_requests hstar column)
  rw [hmeaning, hsame]

/-- A search for a word in every column, and in one column by its name. -/
def starBody : Json :=
  .object [("query", .string "error"), ("fields", .array [.string "*", .string "message"])]

/-- A row that has the word in its other column. -/
def starRow : List (String × String) := [("host", "error"), ("message", "ready")]

/-- The row is not selected, though the search asks for the column that has the word. -/
theorem words_found_star :
    ∃ clause query p params, Request.clause? (.object [("query_string", starBody)]) = some clause ∧
      Request.query clause = .ok query ∧ query.predicate = .ok p ∧
      Request.wordsParams? starBody = some params ∧ params.Requests "host" ∧
      (Kql.Expression.read? p.text).bind
        (Kql.Expression.truth? (rowTruth (fun _ text cell => cell = text) starRow)) =
          some false := by
  have hclause : Request.clause? (.object [("query_string", starBody)]) =
      some (.words ⟨"error", none, some ["*", "message"], none⟩) := rfl
  obtain ⟨query, hquery⟩ : ∃ query, Request.query
      (.words ⟨"error", none, some ["*", "message"], none⟩) = .ok query := ⟨_, rfl⟩
  obtain ⟨p, hp⟩ : ∃ p, query.predicate = .ok p := by
    cases hquery
    exact ⟨_, rfl⟩
  obtain ⟨params, operator, hparams, hoperator, hrows⟩ := words_found hclause hquery hp
  refine ⟨_, query, p, params, hclause, hquery, hp, hparams, ?_, ?_⟩
  · cases hparams
    exact Or.inr (Or.inl List.mem_cons_self)
  · obtain ⟨holds, hholds, hmatches, _⟩ := hrows String (fun _ text cell => cell = text) starRow
    rw [hholds]
    cases hparams
    cases hoperator
    cases holds with
    | false => rfl
    | true =>
      -- the only column that is searched is the one that has another word
      obtain hblank | hstar | ⟨word, hword, hfound⟩ := hmatches.mp rfl
      · exact absurd hblank (by decide)
      · exact absurd hstar (by decide)
      · obtain rfl : word = "error" := List.mem_singleton.mp hword
        obtain ⟨column, cell, hentry, hsearched, hcell⟩ := findsWord_iff.mp hfound
        obtain rfl : cell = "error" := of_decide_eq_true hcell
        obtain rfl : column = "host" := by simpa [starRow] using hentry
        rcases hsearched with hall | ⟨hnamed, _⟩
        · exact absurd (hall "message" (by decide)) (by decide)
        · exact absurd hnamed (by decide)

end Query

end KustoSearch
