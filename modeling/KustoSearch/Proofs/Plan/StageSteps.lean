import KustoSearch.Proofs.Kql.Terms
import KustoSearch.Proofs.Plan.Inert
import KustoSearch.Proofs.Plan.Nodes

/-! # The steps of a level

The text of a level of buckets is read back as steps: `BucketNode.steps`. Keys, guards and
computations are in them as the tokens of their texts.
-/

namespace KustoSearch

open Kql (Token Step Scans StepText Term BracketTerm identifier term_identifier)

/-! ## Keys and computations -/

/-- The start of the interval that a point in time is in. -/
theorem Interval.exists_term (interval : Interval) {base : Kql.Moment} {ts : List Kql.Token}
    (h : Term base.text ts) : ∃ us, Term (interval.moment base).text us := by
  cases interval with
  | fixed millis =>
    obtain ⟨us, hspan⟩ := Kql.exists_term_span (.ofMillis millis.toInt)
    have hbin := (h.beforeComma hspan.inBracket).call "bin(" "bin" (by decide) (by decide)
      (by decide)
    rw [← String.append_assoc, ← String.append_assoc] at hbin
    exact ⟨_, hbin⟩
  | month =>
    exact ⟨_, h.inBracket.call "startofmonth(" "startofmonth" (by decide) (by decide) (by decide)⟩
  | quarter => exact h.startOfQuarter
  | year =>
    exact ⟨_, h.inBracket.call "startofyear(" "startofyear" (by decide) (by decide) (by decide)⟩

namespace BucketKey

theorem term_dateSource (field : String) : Term (dateSource field)
    [.name "todatetime", .opening, .column field, .closing] :=
  (term_identifier field).inBracket.call "todatetime(" "todatetime" (by decide) (by decide)
    (by decide)

theorem term_numberSource (field : String) : Term (numberSource field)
    [.name "todouble", .opening, .column field, .closing] :=
  (term_identifier field).inBracket.call "todouble(" "todouble" (by decide) (by decide) (by decide)

theorem exists_term_expression (key : BucketKey) : ∃ ts, Term key.expression ts := by
  cases key with
  | date field interval => exact interval.exists_term (term_dateSource field)
  | number field width =>
    obtain ⟨ts, hwidth⟩ := Kql.exists_term_plainText width
    have hbin := ((term_numberSource field).beforeComma hwidth.inBracket).call "bin(" "bin"
      (by decide) (by decide) (by decide)
    rw [← String.append_assoc, ← String.append_assoc] at hbin
    exact ⟨_, hbin⟩
  | value field => exact ⟨_, term_identifier field⟩

theorem exists_term_guard (key : BucketKey) : ∃ ts, Term key.guard ts := by
  cases key with
  | date field interval =>
    exact ⟨_, (term_dateSource field).inBracket.call "isnotnull(" "isnotnull" (by decide)
      (by decide) (by decide)⟩
  | number field width =>
    exact ⟨_, (term_numberSource field).inBracket.call "isnotnull(" "isnotnull" (by decide)
      (by decide) (by decide)⟩
  | value field =>
    exact ⟨_, (term_identifier field).inBracket.call "isnotempty(" "isnotempty" (by decide)
      (by decide) (by decide)⟩

end BucketKey

theorem exists_term_presence (field : String) : ∃ ts, Term (presence field) ts :=
  ⟨_, (term_identifier field).inBracket.call "isnotnull(" "isnotnull" (by decide) (by decide)
    (by decide)⟩

theorem exists_term_overPresent (function field : String)
    (hword : Kql.isWord function.toList = true)
    (hinner : (Kql.Token.name function).isInner = true) :
    ∃ ts, Term (overPresent function field) ts := by
  obtain ⟨ts, hpresence⟩ := exists_term_presence field
  have hcall := ((term_identifier field).beforeComma hpresence.inBracket).call (function ++ "(")
    function (by simp) hword hinner
  rw [← String.append_assoc, ← String.append_assoc] at hcall
  exact ⟨_, hcall⟩

theorem Computation.exists_term (c : Computation) : ∃ ts, Term c.text ts := by
  cases c with
  | average field => exact exists_term_overPresent "avgif" field (by decide) (by decide)
  | sum field => exact exists_term_overPresent "sumif" field (by decide) (by decide)
  | least field => exact exists_term_overPresent "minif" field (by decide) (by decide)
  | greatest field => exact exists_term_overPresent "maxif" field (by decide) (by decide)
  | distinct field => exact exists_term_overPresent "dcountif" field (by decide) (by decide)
  | count field =>
    obtain ⟨ts, hpresence⟩ := exists_term_presence field
    exact ⟨_, hpresence.inBracket.call "countif(" "countif" (by decide) (by decide) (by decide)⟩
  | percentile field percent =>
    obtain ⟨ts, hpercent⟩ := Kql.exists_term_plainText percent
    have hcall := ((term_identifier field).beforeComma hpercent.inBracket).call "percentile("
      "percentile" (by decide) (by decide) (by decide)
    rw [← String.append_assoc, ← String.append_assoc] at hcall
    exact ⟨_, hcall⟩

/-- The tokens of a key. -/
def BucketKey.tokens (key : BucketKey) : List Token := Kql.tokensOf key.expression

/-- The tokens of the condition that a row has a key. -/
def BucketKey.guardTokens (key : BucketKey) : List Token := Kql.tokensOf key.guard

/-- The tokens of a computation. -/
def Computation.tokens (c : Computation) : List Token := Kql.tokensOf c.text

/-! ## Steps of levels -/

namespace BucketNode

/-- The key columns with the tokens of their keys. -/
def keyTerms (node : BucketNode) : List (String × List Token) :=
  node.keys.map fun k => (k.1, k.2.tokens)

/-- The other columns that rows are grouped into, with the tokens of their computations. -/
def columnTerms (node : BucketNode) : List (String × List Token) :=
  (Aggregation.docCountColumn, Kql.countTokens) ::
    (Batch.columnsOf (AggregationPlan.metrics node.children)).map fun c =>
      (c.column, c.computation.tokens)

/-- The steps that put rows together. -/
def groupSteps (node : BucketNode) : List Step :=
  [.filter node.plan.key.guardTokens, .summarize node.columnTerms node.keyTerms]

/-- The steps that drop groups without a parent. -/
def withinSteps (node : BucketNode) : List Step :=
  match node.parent with
  | some parent => [.within (levelVariable parent) node.ancestorColumns]
  | none => []

/-- The steps that drop groups with too few rows. -/
def countSteps (node : BucketNode) : List Step :=
  if 1 < node.plan.minDocCount then
    [.filter [.column Aggregation.docCountColumn, .mark ">=",
      .number (Text.naturalText node.plan.minDocCount)]]
  else []

/-- The sort keys of a level. -/
def orderKeys (node : BucketNode) : List OrderKey :=
  node.ancestorColumns.map (fun c => ⟨c, false, false⟩) ++ Batch.ownOrder node.plan

/-- The steps that keep the first buckets below each parent. -/
def limitSteps (node : BucketNode) : List Step :=
  match node.plan.limit with
  | none => []
  | some n =>
    if node.ancestorColumns.isEmpty then [.take n]
    else [
      .number Counter.rank.column node.ancestorColumns,
      .filter [.name Counter.rank.column, .mark "<=", .number (Text.naturalText n)],
      .drop Counter.rank.column]

/-- The steps that compute the node's table. -/
def steps (node : BucketNode) : List Step :=
  node.groupSteps ++ node.withinSteps ++ node.countSteps ++
    (.order node.orderKeys :: node.limitSteps)

end BucketNode

/-! ## Sort keys -/

namespace OrderKey

/-- The tokens of a sort key. -/
def tokens (k : OrderKey) : List Token :=
  .column k.column :: .name (if k.descending then "desc" else "asc") ::
    (if k.nullsLast then [.name "nulls", .name "last"] else [])

theorem scans_text (k : OrderKey) : Scans k.text.toList k.tokens := by
  obtain ⟨column, descending, nullsLast⟩ := k
  have hname : Scans (identifier column).toList [.column column] := Kql.scans_identifier column
  have hnulls : Scans ("nulls" ++ " " ++ "last").toList [.name "nulls", .name "last"] :=
    Kql.scans_blank (Kql.Scalar.scans_word "nulls" (by decide))
      (Kql.Scalar.scans_word "last" (by decide))
  have hasc := Kql.scans_blank hname (Kql.Scalar.scans_word "asc" (by decide))
  have hdesc := Kql.scans_blank hname (Kql.Scalar.scans_word "desc" (by decide))
  have hdirection : Scans (identifier column ++ (if descending then " desc" else " asc")).toList
      [.column column, .name (if descending then "desc" else "asc")] := by
    cases descending with
    | true =>
      rw [String.append_assoc] at hdesc
      exact hdesc
    | false =>
      rw [String.append_assoc] at hasc
      exact hasc
  cases nullsLast with
  | true =>
    have hlast := Kql.scans_blank hdirection hnulls
    rw [String.append_assoc] at hlast
    exact hlast
  | false =>
    have htext : (OrderKey.mk column descending false).text =
        identifier column ++ (if descending then " desc" else " asc") := String.append_empty
    rw [htext]
    exact hdirection

theorem undivided_tokens (k : OrderKey) : Kql.Undivided .comma k.tokens := by
  have hplain (t : Token) (ht : t.isInner = true) : Kql.Undivided .comma [t] :=
    Kql.undivided_of_isInner ht rfl
  obtain ⟨column, descending, nullsLast⟩ := k
  have hnulls : Kql.Undivided .comma
      (if nullsLast then [.name "nulls", .name "last"] else [] : List Token) := by
    cases nullsLast with
    | true => exact (hplain (.name "nulls") rfl).append (hplain (.name "last") rfl)
    | false => exact Kql.undivided_nil
  cases descending with
  | true => exact (hplain (.column column) rfl).append ((hplain (.name "desc") rfl).append hnulls)
  | false => exact (hplain (.column column) rfl).append ((hplain (.name "asc") rfl).append hnulls)

theorem orderKey?_tokens (k : OrderKey) : Step.orderKey? k.tokens = some k := by
  obtain ⟨column, descending, nullsLast⟩ := k
  cases descending <;> cases nullsLast <;> rfl

end OrderKey

/-! ## Conditions -/

namespace Stage

theorem stepText_filter {s : String} {ts : List Token} (h : Scans s.toList ts) :
    StepText ("where" ++ " " ++ s) (.filter ts) :=
  ⟨_, Kql.scans_blank (Kql.Scalar.scans_word "where" (by decide)) h, rfl⟩

/-- A column, or its bare name, compared with a number. -/
theorem stepText_compared {s : String} {t : Token} (h : Scans s.toList [t]) (mark : String)
    (hne : mark.toList ≠ []) (hmark : mark.toList.all Kql.Lexer.isComparisonChar = true) (n : Nat) :
    StepText ("where" ++ " " ++ (s ++ " " ++ mark ++ " " ++ Text.naturalText n))
      (.filter [t, .mark mark, .number (Text.naturalText n)]) :=
  stepText_filter (Kql.scans_blank (Kql.scans_blank h (Kql.scans_operator mark hne hmark))
    (Kql.term_naturalText n).scans)

theorem stepText_hasKey (key : BucketKey) : StepText (hasKey key).text (.filter key.guardTokens) :=
  stepText_filter (Kql.term_tokensOf key.exists_term_guard).scans

theorem stepText_minDocCount (n : Nat) :
    StepText (minDocCount n).text (.filter [.column Aggregation.docCountColumn, .mark ">=",
      .number (Text.naturalText n)]) := by
  have htext (count limit : String) : "where " ++ count ++ " >= " ++ limit =
      "where" ++ " " ++ (count ++ " " ++ ">=" ++ " " ++ limit) := by
    rw [← String.toList_inj]
    simp
  have hstep := stepText_compared (Kql.scans_identifier Aggregation.docCountColumn) ">="
    (by decide) (by decide) n
  rw [← htext] at hstep
  exact hstep

theorem stepText_rankAtMost (n : Nat) :
    StepText (rankAtMost n).text (.filter [.name Counter.rank.column, .mark "<=",
      .number (Text.naturalText n)]) := by
  have htext (rank limit : String) : "where " ++ rank ++ " <= " ++ limit =
      "where" ++ " " ++ (rank ++ " " ++ "<=" ++ " " ++ limit) := by
    rw [← String.toList_inj]
    simp
  have hrank := Kql.Scalar.scans_word Counter.rank.column (by decide)
  have hstep := stepText_compared hrank "<=" (by decide) (by decide) n
  rw [← htext] at hstep
  exact hstep

/-! ## Groups -/

/-- A column with the text of its expression. -/
def assigned (c : String × String) : String := identifier c.1 ++ " = " ++ c.2

/-- A column with the tokens of its expression. -/
def assignedTokens (c : String × String) : String × List Token := (c.1, Kql.tokensOf c.2)

theorem term_assigned {c : String × String} (h : ∃ ts, Term c.2 ts) :
    Term (assigned c) (.column c.1 :: .mark "=" :: Kql.tokensOf c.2) :=
  (Kql.term_tokensOf h).named c.1

/-- A list of columns with their expressions. -/
theorem scans_assigned {columns : List (String × String)} (h : ∀ c ∈ columns, ∃ ts, Term c.2 ts) :
    Scans (Text.join ", " (columns.map assigned)).toList
      ([.comma].intercalate (columns.map fun c => .column c.1 :: .mark "=" :: Kql.tokensOf c.2)) :=
  Kql.scans_join fun c hc => (term_assigned (h c hc)).scans

theorem mapM_assigned {columns : List (String × String)} (hne : columns ≠ [])
    (h : ∀ c ∈ columns, ∃ ts, Term c.2 ts) :
    (Kql.divided .comma ([.comma].intercalate
      (columns.map fun c => .column c.1 :: .mark "=" :: Kql.tokensOf c.2))).mapM Step.named? =
      some (columns.map assignedTokens) :=
  Kql.mapM_divided hne (fun c hc => (term_assigned (h c hc)).undivided _ rfl) fun _ _ => rfl

theorem undivided_assigned {columns : List (String × String)}
    (h : ∀ c ∈ columns, ∃ ts, Term c.2 ts) :
    Kql.Undivided (.name "by") ([.comma].intercalate
      (columns.map fun c => .column c.1 :: .mark "=" :: Kql.tokensOf c.2)) := by
  refine Kql.undivided_intercalate (Kql.undivided_token (by decide) fun _ => rfl) ?_
  exact List.forall_mem_map.mpr fun c hc => (term_assigned (h c hc)).undivided _ rfl

theorem stepText_summarize (columns keys : List (String × String)) (hcolumns : columns ≠ [])
    (hkeys : keys ≠ []) (hcolumnTerms : ∀ c ∈ columns, ∃ ts, Term c.2 ts)
    (hkeyTerms : ∀ c ∈ keys, ∃ ts, Term c.2 ts) :
    StepText ("summarize " ++ Text.join ", " (columns.map assigned) ++ " by " ++
        Text.join ", " (keys.map assigned))
      (.summarize (columns.map assignedTokens) (keys.map assignedTokens)) := by
  have htext (first second : String) : "summarize " ++ first ++ " by " ++ second =
      "summarize" ++ " " ++ first ++ " " ++ "by" ++ " " ++ second := by
    rw [← String.toList_inj]
    simp
  have hby : Scans "by".toList [.name "by"] := Kql.Scalar.scans_word "by" (by decide)
  have hscan := Kql.scans_blank (Kql.scans_blank (Kql.scans_blank
    (Kql.Scalar.scans_word "summarize" (by decide)) (scans_assigned hcolumnTerms)) hby)
    (scans_assigned hkeyTerms)
  rw [← htext] at hscan
  refine ⟨_, hscan, ?_⟩
  -- the word between the lists is the only one outside brackets
  have hparts : ∀ part ∈ [_, _], Kql.Undivided (.name "by") part :=
    List.forall_mem_cons.mpr ⟨undivided_assigned hcolumnTerms,
      List.forall_mem_singleton.mpr (undivided_assigned hkeyTerms)⟩
  have hdivided := Kql.divided_intercalate (List.cons_ne_nil _ _) hparts
  rw [List.intercalate_cons_cons, List.intercalate_singleton] at hdivided
  simp only [List.append_assoc, List.cons_append, List.nil_append] at hdivided ⊢
  rw [Step.ofTokens?, Step.ofWord?]
  simp only [hdivided, mapM_assigned hcolumns hcolumnTerms, mapM_assigned hkeys hkeyTerms]
  rfl

theorem stepText_group (columns : List MetricColumn) {by_ : List (String × BucketKey)}
    (hne : by_ ≠ []) :
    StepText (group columns by_).text
      (.summarize ((Aggregation.docCountColumn, Kql.countTokens) ::
          columns.map fun c => (c.column, c.computation.tokens))
        (by_.map fun k => (k.1, k.2.tokens))) := by
  have hcount : Term "count()" Kql.countTokens :=
    Kql.term_call_nil "count()" "count" (by decide) (by decide) (by decide)
  have hstep := stepText_summarize
    ((Aggregation.docCountColumn, "count()") ::
      columns.map fun c => (c.column, c.computation.text))
    (by_.map fun k => (k.1, k.2.expression)) (List.cons_ne_nil _ _) (by simpa using hne)
    (List.forall_mem_cons.mpr ⟨⟨_, hcount⟩,
      List.forall_mem_map.mpr fun c _ => c.computation.exists_term⟩)
    (List.forall_mem_map.mpr fun k _ => k.2.exists_term_expression)
  have hcounted : assigned (Aggregation.docCountColumn, "count()") = docCount ++ " = count()" := by
    rw [assigned, String.append_assoc]
    rfl
  rw [List.map_cons, List.map_cons, List.map_map, List.map_map, List.map_map, List.map_map,
    hcounted, assignedTokens, hcount.tokensOf_eq] at hstep
  exact hstep

/-! ## Parents, orders and limits -/

/-- Words without blanks between them, up to an operator. -/
theorem scans_leftsemi :
    Scans "kind=leftsemi".toList [.name "kind", .mark "=", .name "leftsemi"] := by
  have hequals : Scans ('=' :: ([] ++ "leftsemi".toList)) [.mark "=", .name "leftsemi"] :=
    (Kql.Scalar.scans_word "leftsemi" (by decide)).next (by decide) fun _ => rfl
  have hkind : Scans ('k' :: ("ind".toList ++ '=' :: "leftsemi".toList))
      [.name "kind", .mark "=", .name "leftsemi"] := hequals.next (by decide) fun _ => rfl
  exact hkind

theorem scans_away : Scans "project-away".toList [.name "project", .mark "-", .name "away"] := by
  have hminus : Scans ('-' :: "away".toList) [.mark "-", .name "away"] :=
    (Kql.Scalar.scans_word "away" (by decide)).sign (by decide)
  have hproject : Scans ('p' :: ("roject".toList ++ '-' :: "away".toList))
      [.name "project", .mark "-", .name "away"] := hminus.next (by decide) fun _ => rfl
  exact hproject

/-- A word with a number behind it. -/
theorem scans_numbered {word : String} (h : Kql.isWord word.toList = true) (n : Nat) :
    Scans (word ++ Text.naturalText n).toList [.name (word ++ Text.naturalText n)] := by
  refine Kql.Scalar.scans_word _ ?_
  obtain ⟨c, cs, hword⟩ : ∃ c cs, word.toList = c :: cs := by
    refine List.exists_cons_of_ne_nil fun hnil => ?_
    rw [hnil] at h
    cases h
  have hdigits : (Text.decimal n).all Kql.Lexer.isNameChar = true := by
    rw [List.all_eq_true]
    intro c hc
    have hdigit : c.isDigit = true := by
      simpa [Text.isDigit, Char.isDigit, Char.le_def] using Text.isDigit_of_mem_decimal c hc
    rw [Kql.Lexer.isNameChar, Char.isAlphanum, hdigit, Bool.or_true, Bool.true_or]
  rw [hword, Kql.isWord] at h
  rw [String.toList_append, Text.toList_naturalText, hword, List.cons_append, Kql.isWord,
    List.all_append, hdigits, Bool.and_true]
  exact h

theorem scans_levelVariable (level : Nat) :
    Scans (levelVariable level).toList [.name (levelVariable level)] :=
  scans_numbered (by decide) level

theorem undivided_column (name : String) : Kql.Undivided .comma [.column name] :=
  (term_identifier name).undivided _ rfl

theorem stepText_within (level : Nat) {columns : List String} (hne : columns ≠ []) :
    StepText (within level columns).text (.within (levelVariable level) columns) := by
  have htext (table list : String) : "join kind=leftsemi (" ++ table ++ ") on " ++ list =
      "join" ++ " " ++ "kind=leftsemi" ++ " " ++ ("(" ++ table ++ ")") ++ " " ++ "on" ++ " " ++
        list := by
    rw [← String.toList_inj]
    simp
  have hbracket : Scans ("(" ++ levelVariable level ++ ")").toList
      [.opening, .name (levelVariable level), .closing] := by
    have hscan := (scans_levelVariable level).group
    simpa using hscan
  have hcolumns : Scans (Text.join ", " (columns.map identifier)).toList
      ([.comma].intercalate (columns.map fun c => [.column c])) :=
    Kql.scans_join fun c _ => Kql.scans_identifier c
  have hscan := Kql.scans_blank (Kql.scans_blank (Kql.scans_blank (Kql.scans_blank
    (Kql.Scalar.scans_word "join" (by decide)) scans_leftsemi) hbracket)
    (Kql.Scalar.scans_word "on" (by decide))) hcolumns
  rw [← htext] at hscan
  refine ⟨_, hscan, ?_⟩
  have hread : (Kql.divided .comma ([.comma].intercalate
      (columns.map fun c => [.column c]))).mapM Step.column? = some (columns.map id) :=
    Kql.mapM_divided hne (fun c _ => undivided_column c) fun _ _ => rfl
  rw [List.map_id] at hread
  exact congrArg (Option.map (Step.within (levelVariable level))) hread

theorem stepText_order {keys : List OrderKey} (hne : keys ≠ []) :
    StepText (order keys).text (.order keys) := by
  have hkeys : Scans (Text.join ", " (keys.map OrderKey.text)).toList
      ([.comma].intercalate (keys.map OrderKey.tokens)) := Kql.scans_join fun k _ => k.scans_text
  have hby : Scans "by".toList [.name "by"] := Kql.Scalar.scans_word "by" (by decide)
  have hscan := Kql.scans_blank (Kql.scans_blank (Kql.Scalar.scans_word "order" (by decide)) hby)
    hkeys
  refine ⟨_, hscan, ?_⟩
  have hread : (Kql.divided .comma ([.comma].intercalate (keys.map OrderKey.tokens))).mapM
      Step.orderKey? = some (keys.map id) :=
    Kql.mapM_divided hne (fun k _ => k.undivided_tokens) fun k _ => k.orderKey?_tokens
  rw [List.map_id] at hread
  exact congrArg (Option.map Step.order) hread

theorem stepText_take (n : Nat) : StepText (take n).text (.take n) := by
  have hscan := Kql.scans_blank (Kql.Scalar.scans_word "take" (by decide))
    (Kql.term_naturalText n).scans
  refine ⟨_, hscan, ?_⟩
  have hnumber : Text.natural? (Text.naturalText n).toList = some n := by
    rw [Text.toList_naturalText, Text.natural?_decimal]
  exact congrArg (Option.map Step.take) hnumber

theorem stepText_drop : StepText (drop .rank).text (.drop Counter.rank.column) := by
  have hscan := Kql.scans_blank scans_away (Kql.Scalar.scans_word Counter.rank.column (by decide))
  exact ⟨_, hscan, rfl⟩

/-! ## Ranks -/

/-- The tokens of the condition that a column changes. -/
def changeTokens (c : String) : List Token :=
  [.name "prev", .opening, .column c, .closing, .mark "!=", .column c]

theorem scans_change (c : String) :
    Scans ("prev(" ++ identifier c ++ ") != " ++ identifier c).toList (changeTokens c) := by
  have htext (name : String) : "prev(" ++ name ++ ") != " ++ name =
      "prev(" ++ name ++ ")" ++ " " ++ "!=" ++ " " ++ name := by
    rw [← String.toList_inj]
    simp
  have hprev := (term_identifier c).inBracket.call "prev(" "prev" (by decide) (by decide)
    (by decide)
  have hscan := Kql.scans_blank (Kql.scans_blank hprev.scans
    (Kql.scans_operator "!=" (by decide) (by decide))) (Kql.scans_identifier c)
  rw [← htext] at hscan
  exact hscan

/-- Lists with a separator behind the first one. -/
theorem intercalate_map {α β : Type} (separator : List β) (f : α → List β) (x y : α) (xs : List α) :
    separator.intercalate ((x :: y :: xs).map f) =
      f x ++ separator ++ separator.intercalate ((y :: xs).map f) :=
  List.intercalate_cons_cons

theorem scans_changes (columns : List String) :
    Scans (Text.join " or " (columns.map fun c =>
        "prev(" ++ identifier c ++ ") != " ++ identifier c)).toList
      ([.name "or"].intercalate (columns.map changeTokens)) := by
  induction columns with
  | nil => exact Kql.scans_nil
  | cons column columns ih =>
    cases columns with
    | nil => exact scans_change column
    | cons next columns =>
      have htext (first rest : String) : first ++ " or " ++ rest =
          first ++ " " ++ "or" ++ " " ++ rest := by
        rw [← String.toList_inj]
        simp
      have hscan := Kql.scans_blank (Kql.scans_blank (scans_change column)
        (Kql.Scalar.scans_word "or" (by decide))) ih
      rw [← htext] at hscan
      rw [intercalate_map]
      exact hscan

/-- The columns that restart the numbers are read up to the bracket behind them. -/
theorem changes?_intercalate {columns : List String} (hne : columns ≠ []) :
    Step.changes? ([.name "or"].intercalate (columns.map changeTokens) ++ [.closing]) =
      some columns := by
  induction columns with
  | nil => exact absurd rfl hne
  | cons column columns ih =>
    cases columns with
    | nil =>
      rw [List.map_singleton, List.intercalate_singleton, changeTokens]
      simp [Step.changes?]
    | cons next columns =>
      have hrest := ih (List.cons_ne_nil _ _)
      rw [intercalate_map, changeTokens, List.append_assoc, List.append_assoc]
      simp only [List.cons_append, List.nil_append]
      rw [Step.changes?, if_pos rfl]
      simp only [hrest, Option.map_some]

theorem stepText_rank {restart : List String} (hne : restart ≠ []) :
    StepText (rank restart).text (.number Counter.rank.column restart) := by
  have hone : Scans "1".toList [.number "1"] := by
    have hterm := (Kql.term_naturalText 1).scans
    rw [Text.naturalText, Text.decimal_of_lt (by decide)] at hterm
    exact hterm
  have hcall : Scans ("row_number(1, " ++ Text.join " or " (restart.map fun c =>
      "prev(" ++ identifier c ++ ") != " ++ identifier c) ++ ")").toList
      (.name "row_number" :: .opening :: .number "1" :: .comma ::
        ([.name "or"].intercalate (restart.map changeTokens) ++ [.closing])) := by
    have harguments := hone.append (scans_changes restart).blank.comma fun _ _ => Kql.atEnd_comma _
    have hscan := (Kql.Scalar.scans_word "row_number" (by decide)).append
      harguments.group fun _ _ => Kql.atEnd_opening _
    simpa using hscan
  have htext (column list : String) : "extend " ++ column ++ " = row_number(1, " ++ list ++ ")" =
      "extend" ++ " " ++ column ++ " " ++ "=" ++ " " ++ ("row_number(1, " ++ list ++ ")") := by
    rw [← String.toList_inj]
    simp
  have hscan := Kql.scans_blank (Kql.scans_blank (Kql.scans_blank
    (Kql.Scalar.scans_word "extend" (by decide))
    (Kql.Scalar.scans_word Counter.rank.column (by decide)))
    (Kql.scans_operator "=" (by decide) (by decide))) hcall
  rw [← htext] at hscan
  exact ⟨_, hscan, congrArg (Option.map (Step.number Counter.rank.column))
    (changes?_intercalate hne)⟩

end Stage

/-! ## Levels -/

namespace BucketNode

variable {node : BucketNode}

theorem stepTexts_group (node : BucketNode) :
    List.Forall₂ (fun stage step => StepText (Stage.text stage) step)
      [.hasKey node.plan.key,
        .group (Batch.columnsOf (AggregationPlan.metrics node.children)) node.keys]
      node.groupSteps := by
  have hkeys : node.keys ≠ [] := by simp [keys]
  have hgroup := Stage.stepText_group (Batch.columnsOf (AggregationPlan.metrics node.children))
    hkeys
  exact .cons (Stage.stepText_hasKey node.plan.key) (.cons hgroup .nil)

theorem stepTexts_within
    (h : ∀ parent, node.parent = some parent → node.ancestorColumns ≠ []) :
    List.Forall₂ (fun stage step => StepText (Stage.text stage) step)
      node.withinStages node.withinSteps := by
  unfold withinStages withinSteps
  cases hparent : node.parent with
  | none => exact .nil
  | some parent => exact .cons (Stage.stepText_within parent (h parent hparent)) .nil

theorem stepTexts_count (node : BucketNode) :
    List.Forall₂ (fun stage step => StepText (Stage.text stage) step)
      node.countStages node.countSteps := by
  unfold countStages countSteps
  split_ifs
  · exact .cons (Stage.stepText_minDocCount _) .nil
  · exact .nil

theorem orderKeys_ne_nil (node : BucketNode) : node.orderKeys ≠ [] := by
  have hown : Batch.ownOrder node.plan ≠ [] := by
    unfold Batch.ownOrder
    cases node.plan.order <;> exact List.cons_ne_nil _ _
  exact List.append_ne_nil_of_right_ne_nil _ hown

theorem stepTexts_order (node : BucketNode) :
    List.Forall₂ (fun stage step => StepText (Stage.text stage) step)
      (Batch.orderStages node.plan node.ancestorColumns)
      (.order node.orderKeys :: node.limitSteps) := by
  refine .cons (Stage.stepText_order node.orderKeys_ne_nil) ?_
  unfold limitSteps
  cases node.plan.limit with
  | none => exact .nil
  | some n =>
    simp only
    split_ifs with htop
    · exact .cons (Stage.stepText_take n) .nil
    · have hne : node.ancestorColumns ≠ [] := fun hnil => htop (List.isEmpty_iff.mpr hnil)
      exact .cons (Stage.stepText_rank hne)
        (.cons (Stage.stepText_rankAtMost n) (.cons Stage.stepText_drop .nil))

/-- The stages of a level are read as its steps. -/
theorem stepTexts (h : ∀ parent, node.parent = some parent → node.ancestorColumns ≠ []) :
    List.Forall₂ StepText (node.stages.map Stage.text) node.steps := by
  rw [List.forall₂_map_left_iff]
  exact List.rel_append (List.rel_append (List.rel_append node.stepTexts_group
    (stepTexts_within h)) node.stepTexts_count) node.stepTexts_order

/-- A node below another one has ancestors. -/
theorem ancestorColumns_ne_nil {plans : List AggregationPlan}
    (h : node ∈ AggregationPlan.nodesOfAll 0 none [] plans) (parent : Nat)
    (hparent : node.parent = some parent) : node.ancestorColumns ≠ [] := by
  rcases AggregationPlan.ancestors_of_mem_nodesOfAll 0 none [] plans node h with
    ⟨hnone, _⟩ | ⟨above, _, _, hancestors⟩
  · rw [hparent] at hnone
    cases hnone
  · simp [ancestorColumns, hancestors]

end BucketNode

end KustoSearch
