import KustoSearch.Proofs.Plan.Meaning

/-! # How many optional clauses a combination requires

`Query.demanded?` is the number that a minimum asks for, in exact integers. The predicate asks for
the same number when the minimum is `Query.Counted`, and only then (`Query.counted_iff`): of no
optional clause at all the minimum asks nothing that has to be looked at, and the share that is
rounded in 64 bits before it gets its sign asks for as many clauses as the exact one. Main result:
`Query.bool_requires`.
-/

namespace KustoSearch

open Kql (Predicate Test)

namespace Query

/-- The number in a percentage, whatever its size. -/
def percent? (text : String) : Option Int :=
  match (Text.trim text.toList).reverse with
  | '%' :: rest => Text.signed? (Text.trim rest.reverse)
  | _ => none

/-- The number of `n` optional clauses that a minimum asks for, with shares rounded down. What is
negative is taken from all of them, as far as there are so many. -/
def demanded? (hasRequired : Bool) (n : Nat) : Option MinimumMatch → Option Nat
  | none => some (if 0 < n ∧ hasRequired = false then 1 else 0)
  | some (.count c) => some (if c < 0 then n - c.natAbs else c.natAbs)
  | some (.expression text) => (percent? text).map fun percent =>
    if percent < 0 then n - n * percent.natAbs / 100 else n * percent.natAbs / 100

/-- The share of `n` clauses in 64 bits: rounded towards zero first and given the sign of the
percentage after that. -/
def roundedShare (n : Nat) (percent : Int) : Int :=
  percent.sign * Int.tdiv (Int.bmod (n * percent.natAbs) (2 ^ 64)) 100

/-- The number of `n` clauses that a share asks for. -/
def counted (n : Nat) (share : Int) : Nat :=
  if share < 0 then n - share.natAbs else share.natAbs

/-- A minimum that is counted as it says. -/
structure Counted (hasRequired : Bool) (n : Nat) (minimum : Option MinimumMatch) : Prop where
  /-- No clause is asked for where there is none. -/
  idle : n = 0 → demanded? hasRequired n minimum = some 0
  /-- A percentage of clauses is a number of 64 bits. -/
  read : ∀ text percent, minimum = some (.expression text) → percent? text = some percent →
    0 < n → Text.int64Min ≤ percent ∧ percent ≤ Text.int64Max
  /-- The share in 64 bits asks for the number demanded, or both are more than there are clauses. -/
  share : ∀ text percent required, minimum = some (.expression text) →
    percent? text = some percent → demanded? hasRequired n minimum = some required →
    0 < n → min (counted n (roundedShare n percent)) (n + 1) = min required (n + 1)

/-! ## Percentages -/

/-- A percentage is read when its number fits 64 bits. -/
theorem percentage?_eq (text : String) :
    percentage? text =
      (percent? text).filter fun n => Text.int64Min ≤ n && n ≤ Text.int64Max := by
  unfold percentage? percent?
  generalize (Text.trim text.toList).reverse = cs
  cases cs with
  | nil => rfl
  | cons c rest =>
    by_cases hc : c = '%'
    · subst hc
      rfl
    · simp [hc]

theorem percentage?_of_percent? {text : String} {percent : Int} (h : percent? text = some percent)
    (hrange : Text.int64Min ≤ percent ∧ percent ≤ Text.int64Max) :
    percentage? text = some percent := by
  rw [percentage?_eq, h, Option.filter_some]
  simp [hrange]

theorem range_of_percentage? {text : String} {percent percent' : Int}
    (h : percent? text = some percent) (h' : percentage? text = some percent') :
    Text.int64Min ≤ percent ∧ percent ≤ Text.int64Max := by
  rw [percentage?_eq, h, Option.filter_some] at h'
  split_ifs at h' with hrange
  simpa using hrange

/-- Both products are taken in 64 bits, which is to reduce their result once. -/
theorem wrap64_mul_wrap64 (a b : Int) : wrap64 (a * wrap64 b) = Int.bmod (a * b) (2 ^ 64) :=
  Int.mul_bmod_bmod ..

theorem shareOf_eq (n : Nat) (percent : Int) : shareOf n percent = roundedShare n percent := by
  unfold shareOf roundedShare
  rw [wrap64_mul_wrap64]
  split_ifs with hneg
  · rw [Int.sign_eq_neg_one_of_neg hneg, Int.neg_one_mul]
  · rcases Int.lt_or_eq_of_le (Int.not_lt.mp hneg) with hpos | rfl
    · rw [Int.sign_eq_one_of_pos hpos, Int.one_mul]
    · simp

/-- A share whose product fits is the exact one, with the sign of the percentage. -/
theorem roundedShare_of_fits {n : Nat} {percent : Int} (hfits : n * percent.natAbs < 2 ^ 63) :
    roundedShare n percent = percent.sign * (n * percent.natAbs / 100 : Nat) := by
  unfold roundedShare
  rw [← Int.natCast_mul, Int.bmod_eq_of_le (by omega) (by omega)]
  rfl

theorem range_of_fits {n : Nat} {percent : Int} (hpos : 0 < n)
    (hfits : n * percent.natAbs < 2 ^ 63) :
    Text.int64Min ≤ percent ∧ percent ≤ Text.int64Max := by
  have hnumber : percent.natAbs < 2 ^ 63 :=
    Nat.lt_of_le_of_lt (Nat.le_mul_of_pos_left _ hpos) hfits
  have hmin : Text.int64Min = -2 ^ 63 := by decide
  have hmax : Text.int64Max = 2 ^ 63 - 1 := by decide
  omega

/-! ## The number required -/

variable {hasRequired : Bool} {n required : Nat} {minimum : Option MinimumMatch}

theorem resolveCount_eq (n : Nat) (share : Int) : resolveCount n share = counted n share := by
  unfold resolveCount counted
  split_ifs <;> omega

theorem requiredCount_of_range (hasRequired : Bool) (n : Nat) {text : String} {percent : Int}
    (hpercent : percent? text = some percent)
    (hrange : Text.int64Min ≤ percent ∧ percent ≤ Text.int64Max) :
    requiredCount hasRequired n (some (.expression text)) =
      .ok (counted n (roundedShare n percent)) := by
  simp only [requiredCount, percentage?_of_percent? hpercent hrange, shareOf_eq, resolveCount_eq]

/-- What is demanded without a percentage is required, where there is a clause to require. -/
theorem requiredCount_of_demanded (hpos : 0 < n)
    (hcount : ∀ text, minimum ≠ some (.expression text))
    (h : demanded? hasRequired n minimum = some required) :
    requiredCount hasRequired n minimum = .ok required := by
  match minimum with
  | none =>
    cases h
    cases hasRequired with
    | false =>
      rw [if_pos ⟨hpos, rfl⟩]
      rfl
    | true =>
      rw [if_neg (by simp)]
      rfl
  | some (.count c) =>
    cases h
    exact congrArg Except.ok (resolveCount_eq n c)
  | some (.expression text) => exact absurd rfl (hcount text)

/-- Where there is a clause to require, a minimum is counted as it says exactly when the number
required is the one demanded, or there are too few clauses for both. -/
theorem counted_iff (hpos : 0 < n) :
    Counted hasRequired n minimum ↔
      ∀ required, demanded? hasRequired n minimum = some required →
        ∃ found, requiredCount hasRequired n minimum = .ok found ∧
          min found (n + 1) = min required (n + 1) := by
  constructor
  · intro hcounted required h
    by_cases hcount : ∀ text, minimum ≠ some (.expression text)
    · exact ⟨required, requiredCount_of_demanded hpos hcount h, rfl⟩
    · obtain ⟨text, rfl⟩ : ∃ text, minimum = some (.expression text) := by simpa using hcount
      obtain ⟨percent, hpercent, _⟩ := Option.map_eq_some_iff.mp h
      have hrange := hcounted.read text percent rfl hpercent hpos
      exact ⟨_, requiredCount_of_range hasRequired n hpercent hrange,
        hcounted.share text percent required rfl hpercent h hpos⟩
  · intro hfound
    -- a number is found, so that the percentage is one that is read
    have hread : ∀ text percent, minimum = some (.expression text) →
        percent? text = some percent → Text.int64Min ≤ percent ∧ percent ≤ Text.int64Max := by
      rintro text percent rfl hpercent
      obtain ⟨found, hok, _⟩ := hfound _ (Option.map_eq_some_iff.mpr ⟨percent, hpercent, rfl⟩)
      cases hread : percentage? text with
      | none => simp [requiredCount, hread] at hok
      | some percent' => exact range_of_percentage? hpercent hread
    refine ⟨fun hzero => absurd hzero hpos.ne', fun text percent htext hpercent _ =>
      hread text percent htext hpercent, ?_⟩
    rintro text percent required rfl hpercent h _
    obtain ⟨found, hok, hsame⟩ := hfound required h
    rw [requiredCount_of_range hasRequired n hpercent (hread text percent rfl hpercent)] at hok
    cases hok
    exact hsame

/-- A percentage is counted as it says when its product fits 64 bits and a share that is taken from
all clauses is one of them at least. -/
theorem Counted.of_fits (hasRequired : Bool) {text : String} {percent : Int} (hpos : 0 < n)
    (hpercent : percent? text = some percent) (hfits : n * percent.natAbs < 2 ^ 63)
    (hkept : percent < 0 → 100 ≤ n * percent.natAbs) :
    Counted hasRequired n (some (.expression text)) := by
  rw [counted_iff hpos]
  intro required h
  refine ⟨_, requiredCount_of_range hasRequired n hpercent (range_of_fits hpos hfits),
    congrArg (min · (n + 1)) ?_⟩
  have hrequired : required =
      if percent < 0 then n - n * percent.natAbs / 100 else n * percent.natAbs / 100 := by
    rw [demanded?, hpercent] at h
    exact (Option.some.inj h).symm
  rw [roundedShare_of_fits hfits, counted, hrequired]
  rcases lt_trichotomy percent 0 with hneg | rfl | hplus
  · -- a share of no clause would have lost its sign
    have hshare := Nat.div_pos (hkept hneg) (by omega)
    rw [Int.sign_eq_neg_one_of_neg hneg, if_pos (by omega), if_pos hneg]
    omega
  · simp
  · rw [Int.sign_eq_one_of_pos hplus, if_neg (by omega), if_neg (by omega)]
    omega

/-- A minimum that asks for no number is an expression, and it is refused where there is a clause to
require. -/
theorem requiredCount_of_unread (h : demanded? hasRequired n minimum = none) :
    ∃ text, minimum = some (.expression text) ∧
      requiredCount hasRequired n minimum = .error (unsupported "BoolClause"
        ("minimum_should_match [" ++ text ++ "] is not supported")) := by
  match minimum with
  | none => cases h
  | some (.count _) => cases h
  | some (.expression text) =>
    have hread : percentage? text = none := by
      rw [percentage?_eq, Option.map_eq_none_iff.mp h]
      rfl
    refine ⟨text, rfl, ?_⟩
    simp only [requiredCount, hread]

/-- A percentage whose share is less than one clause requires no clause, also when it is below zero:
rounded to zero, the share has no sign that would take it from all clauses. -/
theorem requiredCount_of_lost (hasRequired : Bool) {text : String} {percent : Int} (hpos : 0 < n)
    (hpercent : percent? text = some percent) (hlost : n * percent.natAbs < 100) :
    requiredCount hasRequired n (some (.expression text)) = .ok 0 := by
  have hfits : n * percent.natAbs < 2 ^ 63 := hlost.trans (by decide)
  rw [requiredCount_of_range hasRequired n hpercent (range_of_fits hpos hfits),
    roundedShare_of_fits hfits, Nat.div_eq_of_lt hlost]
  simp [counted]

/-! ## The clauses that are required -/

theorem enough_of_counted {truths : List Bool}
    (hcounted : Counted hasRequired truths.length minimum)
    (h : demanded? hasRequired truths.length minimum = some required) :
    enough hasRequired minimum truths = decide (required ≤ truths.count true) := by
  cases truths with
  | nil =>
    rw [hcounted.idle rfl] at h
    cases h
    rfl
  | cons b bs =>
    obtain ⟨found, hfound, hsame⟩ := (counted_iff (Nat.succ_pos bs.length)).mp hcounted _ h
    have hcount : (b :: bs).count true ≤ bs.length + 1 := List.count_le_length
    have hmet : found ≤ (b :: bs).count true ↔ required ≤ (b :: bs).count true := by
      omega
    rw [enough, List.length_cons, hfound]
    exact decide_eq_decide.mpr hmet

theorem optionalParts_of_counted {parts : List Predicate}
    (hcounted : Counted hasRequired parts.length minimum)
    (h : demanded? hasRequired parts.length minimum = some required) :
    ∃ optional, optionalParts hasRequired parts minimum = .ok optional := by
  cases parts with
  | nil => exact ⟨[], rfl⟩
  | cons part parts =>
    obtain ⟨found, hfound, _⟩ := (counted_iff (Nat.succ_pos parts.length)).mp hcounted _ h
    refine ⟨shouldParts found (part :: parts), ?_⟩
    rw [optionalParts, List.length_cons, hfound]
    rfl

theorem optionalParts_of_unread {parts : List Predicate}
    (hcounted : Counted hasRequired parts.length minimum)
    (h : demanded? hasRequired parts.length minimum = none) :
    ∃ text, minimum = some (.expression text) ∧
      optionalParts hasRequired parts minimum = .error (unsupported "BoolClause"
        ("minimum_should_match [" ++ text ++ "] is not supported")) := by
  cases parts with
  | nil =>
    -- without a part the number is zero
    rw [hcounted.idle rfl] at h
    cases h
  | cons part parts =>
    obtain ⟨text, htext, hrefused⟩ := requiredCount_of_unread h
    refine ⟨text, htext, ?_⟩
    rw [optionalParts, hrefused]
    rfl

section Combination

variable {must filter should mustNot : List Query} {musts filters shoulds mustNots : List Predicate}

theorem length_meanings (truth : Test → Bool) (queries : List Query) :
    (meanings truth queries).length = queries.length := by
  rw [← map_meant, List.length_map, meant, List.length_map]

theorem length_predicates {queries : List Query} {parts : List Predicate}
    (h : predicates queries = .ok parts) : parts.length = queries.length := by
  rw [(says_predicates queries h).length_eq, meant, List.length_map]

/-- A combination whose parts have predicates has one if its optional parts have. -/
theorem predicate_bool (hmust : predicates must = .ok musts)
    (hfilter : predicates filter = .ok filters) (hshould : predicates should = .ok shoulds)
    (hmustNot : predicates mustNot = .ok mustNots) (minimum : Option MinimumMatch) :
    (Query.bool must filter should mustNot minimum).predicate =
      (optionalParts (!must.isEmpty || !filter.isEmpty) shoulds minimum).map fun optional =>
        if (besides musts filters optional mustNots).isEmpty then .constant true
        else .join .all (besides musts filters optional mustNots) := by
  rw [predicate, hmust, hfilter, hshould, hmustNot,
    ← isEmpty_iff_parts (says_predicates must hmust),
    ← isEmpty_iff_parts (says_predicates filter hfilter)]
  show boolPredicate musts filters shoulds mustNots minimum = _
  unfold boolPredicate optionalParts
  split_ifs with hempty
  · rfl
  · cases requiredCount (!musts.isEmpty || !filters.isEmpty) shoulds.length minimum <;> rfl

/-- A combination of clauses without an optional one has the same predicate for every minimum. -/
theorem predicate_bool_nil (must filter mustNot : List Query)
    (minimum minimum' : Option MinimumMatch) :
    (Query.bool must filter [] mustNot minimum).predicate =
      (Query.bool must filter [] mustNot minimum').predicate := by
  rw [predicate, predicate]
  rfl

/-- A percentage that comes to less than one clause leaves the optional clauses out, also when it is
below zero. -/
theorem predicate_bool_lost {text : String} {percent : Int} (hmust : predicates must = .ok musts)
    (hfilter : predicates filter = .ok filters) (hshould : predicates should = .ok shoulds)
    (hmustNot : predicates mustNot = .ok mustNots) (hpercent : percent? text = some percent)
    (hlost : should.length * percent.natAbs < 100) :
    (Query.bool must filter should mustNot (some (.expression text))).predicate =
      (Query.bool must filter [] mustNot none).predicate := by
  have hoptional : ∀ hasRequired, optionalParts hasRequired shoulds (some (.expression text)) =
      optionalParts hasRequired [] none := by
    intro hasRequired
    rw [← length_predicates hshould] at hlost
    cases shoulds with
    | nil => rfl
    | cons part parts =>
      have hrequired := requiredCount_of_lost hasRequired (Nat.succ_pos parts.length) hpercent
        hlost
      rw [optionalParts, List.length_cons, hrequired]
      rfl
  have hnil : predicates [] = .ok [] := rfl
  rw [predicate_bool hmust hfilter hshould hmustNot, hoptional,
    predicate_bool hmust hfilter hnil hmustNot]

theorem meaning_bool_of_counted (truth : Test → Bool)
    (hcounted : Counted (!must.isEmpty || !filter.isEmpty) should.length minimum)
    (h : demanded? (!must.isEmpty || !filter.isEmpty) should.length minimum = some required) :
    (Query.bool must filter should mustNot minimum).meaning truth =
      ((meanings truth must).all id && (meanings truth filter).all id &&
        (meanings truth mustNot).all (!·) &&
        decide (required ≤ (meanings truth should).count true)) := by
  rw [← length_meanings truth should] at hcounted h
  rw [meaning, enough_of_counted hcounted h]

/-- Among the optional clauses of a combination exactly as many are required as its minimum demands,
and a demand for more than there are is met by nothing. A minimum that demands no number is refused.
Both need the minimum to be counted as it says. -/
theorem bool_requires (hmust : predicates must = .ok musts)
    (hfilter : predicates filter = .ok filters) (hshould : predicates should = .ok shoulds)
    (hmustNot : predicates mustNot = .ok mustNots)
    (hcounted : Counted (!must.isEmpty || !filter.isEmpty) should.length minimum) :
    match demanded? (!must.isEmpty || !filter.isEmpty) should.length minimum with
    | some required =>
      ∃ p, (Query.bool must filter should mustNot minimum).predicate = .ok p ∧
        (∀ truth, (Kql.Expression.read? p.text).bind (Kql.Expression.truth? truth) =
          some ((meanings truth must).all id && (meanings truth filter).all id &&
            (meanings truth mustNot).all (!·) &&
            decide (required ≤ (meanings truth should).count true))) ∧
        (should.length < required → ∀ truth,
          (Kql.Expression.read? p.text).bind (Kql.Expression.truth? truth) = some false)
    | none =>
      ∃ text, minimum = some (.expression text) ∧
        (Query.bool must filter should mustNot minimum).predicate =
          .error (unsupported "BoolClause"
            ("minimum_should_match [" ++ text ++ "] is not supported")) := by
  have hpredicate := predicate_bool hmust hfilter hshould hmustNot minimum
  have hlength := length_predicates hshould
  cases hdemanded : demanded? (!must.isEmpty || !filter.isEmpty) should.length minimum with
  | none =>
    obtain ⟨text, htext, hrefused⟩ :=
      optionalParts_of_unread (hlength ▸ hcounted) (hlength ▸ hdemanded)
    refine ⟨text, htext, ?_⟩
    rw [hpredicate, hrefused]
    rfl
  | some required =>
    obtain ⟨optional, hoptional⟩ :=
      optionalParts_of_counted (hlength ▸ hcounted) (hlength ▸ hdemanded)
    rw [hoptional] at hpredicate
    have hholds := (says_predicate _ hpredicate).truth?_text
    refine ⟨_, hpredicate, fun truth => ?_, fun hmany truth => ?_⟩
    · rw [hholds, meaning_bool_of_counted truth hcounted hdemanded]
    · have hcount : (meanings truth should).count true ≤ should.length :=
        length_meanings truth should ▸ List.count_le_length
      rw [hholds, meaning_bool_of_counted truth hcounted hdemanded,
        decide_eq_false (by omega), Bool.and_false]

/-- Three of four clauses are required when a quarter of them may be missing. -/
theorem bool_requires_threeOfFour :
    ∃ p, (Query.bool [] [] [.present "a", .present "b", .present "c", .present "d"] []
        (some (.expression "-25%"))).predicate = .ok p ∧
      ∀ truth, (Kql.Expression.read? p.text).bind (Kql.Expression.truth? truth) =
        some (decide (3 ≤ [truth (.notEmpty "a"), truth (.notEmpty "b"), truth (.notEmpty "c"),
          truth (.notEmpty "d")].count true)) := by
  have hpercent : percent? "-25%" = some (-25) := by decide
  have hcounted : Counted false 4 (some (.expression "-25%")) :=
    .of_fits false (by decide) hpercent (by decide) (by decide)
  have hnil : predicates [] = .ok [] := rfl
  have hshould : predicates [.present "a", .present "b", .present "c", .present "d"] =
      .ok [.notEmpty "a", .notEmpty "b", .notEmpty "c", .notEmpty "d"] := rfl
  obtain ⟨p, hp, hholds, _⟩ := bool_requires hnil hnil hshould hnil hcounted
  exact ⟨p, hp, hholds⟩

end Combination

end Query

end KustoSearch
