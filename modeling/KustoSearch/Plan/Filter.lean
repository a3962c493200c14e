import KustoSearch.DateMath
import KustoSearch.Decimal.Reader
import KustoSearch.Failure
import KustoSearch.Kql.Predicate
import KustoSearch.Query.Basic

/-! # Queries as predicates

The row predicate of each query. Parts come before the whole: must, filter, should and must-not
clauses in this order, and the first query without a predicate is what is reported.
-/

namespace KustoSearch

open Kql (Literal Moment Predicate Target)

namespace Query

/-- The connective of an operator. -/
def connective : MatchOperator → Kql.Connective
  | .and => .all
  | .or => .any

/-- The failure of a query that has no predicate. -/
def unsupported (nodeKind reason : String) : Failure := .unsupported nodeKind reason

/-! ## Values -/

/-- The kinds of scalar literals. -/
inductive ScalarKind where
  | string
  | number
  | bool
deriving DecidableEq, Repr

/-- A scalar value as a literal, with its kind. -/
def scalar? : Json → Option (Literal × ScalarKind)
  | .string s => some (.text s, .string)
  | .number n => some (.number n, .number)
  | .bool b => some (.bool b, .bool)
  | _ => none

/-- An exact value. -/
def termPredicate (field : String) (value : Json) (ignoreCase : Bool) :
    Except Failure Predicate :=
  match scalar? value with
  | none => .error (unsupported "TermClause" "term value must be a string, number or boolean")
  | some (literal, kind) =>
    let comparison : Kql.Comparison :=
      if ignoreCase && kind = .string then .equalIgnoringCase else .equal
    .ok (.test (.column field) comparison literal)

/-- The literals of a list of values, all of the kind that the first one has. -/
def termLiterals (field : String) (kind : Option ScalarKind) :
    List Json → Except Failure (List Literal)
  | [] => .ok []
  | value :: values =>
    match scalar? value with
    | none => .error (unsupported "TermsClause" "terms values must be scalars")
    | some (literal, k) =>
      if kind = none || kind = some k then do
        let literals ← termLiterals field (some k) values
        .ok (literal :: literals)
      else
        .error (unsupported "TermsClause" ("mixed value types in terms on [" ++ field ++ "]"))

/-- One of a list of values. -/
def termsPredicate (field : String) (values : List Json) : Except Failure Predicate := do
  if values.isEmpty then .ok (.constant false)
  else
    let literals ← termLiterals field none values
    .ok (.oneOf field literals)

/-! ## Texts -/

/-- The words of a text. -/
def tokens (s : String) : List String := (Text.words s.toList).map String.ofList

/-- A text, as a phrase or word by word. A text without words matches nothing. -/
def fullTextPredicate (field : String) (query : Json) (operator : MatchOperator)
    (phrase : Bool) : Except Failure Predicate :=
  let kind := if phrase then "MatchPhraseClause" else "MatchClause"
  let has (s : String) : Predicate := .test (.column field) .hasTerm (.text s)
  match query with
  | .string s =>
    if phrase then
      let s := Text.trimmed s
      .ok (if s.isEmpty then .constant false else has s)
    else
      let words := tokens s
      .ok (if words.isEmpty then .constant false
        else .join (connective operator) (words.map has))
  | .number n => .ok (.test (.column field) .equal (.number n))
  | .bool b => .ok (.test (.column field) .equal (.bool b))
  | _ => .error (unsupported kind "match value must be a string, number or boolean")

/-- Characters that mean something in the syntax of query texts. -/
def syntaxMarks : List Char :=
  [':', '(', ')', '"', '~', '^', '[', ']', '\x7b', '\x7d', '\\', '/']

/-- Words that mean something in the syntax of query texts. -/
def syntaxWords : List String := ["AND", "OR", "NOT", "&&", "||"]

/-- Whether a text has more to it than words and trailing stars. -/
def hasQuerySyntax (s : String) : Bool :=
  Text.containsAny s syntaxMarks ||
    (tokens s).any fun word =>
      syntaxWords.contains word ||
        match word.toList with
        | c :: _ => c = '+' || c = '-' || c = '!'
        | [] => false

/-- The word before a trailing star, when there is one. -/
def stem? (word : String) : Option String :=
  match word.toList.reverse with
  | '*' :: c :: rest => some (String.ofList (c :: rest).reverse)
  | _ => none

/-- One word in any of the targets. -/
def wordPredicate (targets : List Target) (word : String) : Except Failure Predicate :=
  let (comparison, text) : Kql.Comparison × String := match stem? word with
    | some stem => (.hasTermFrom, stem)
    | none => (.hasTerm, word)
  if Text.containsAny text ['*', '?'] then
    .error (unsupported "QueryStringClause"
      ("wildcard position in [" ++ word ++ "] is not supported"))
  else .ok (.join .any (targets.map fun t => .test t comparison (.text text)))

/-- Words over columns. Nothing, or a star alone, matches every row. -/
def wordsPredicate (query : String) (fields : List String) (operator : MatchOperator) :
    Except Failure Predicate := do
  let query := Text.trimmed query
  if query.isEmpty || query = "*" then .ok (.constant true)
  else if hasQuerySyntax query then
    .error (unsupported "QueryStringClause"
      ("Lucene query syntax in [" ++ query ++ "] is not supported"))
  else
    let targets := if fields.isEmpty then [.anyColumn] else fields.map Target.column
    let parts ← (tokens query).mapM (wordPredicate targets)
    .ok (.join (connective operator) parts)

/-! ## Ranges -/

/-- The unit of epoch counts that a format names; alternatives stand between double bars. -/
def epochUnit? (format : String) : Option Kql.EpochUnit :=
  (Text.splitBars format.toList).findSome? fun f =>
    let f := String.ofList (Text.trim f)
    if f = "epoch_millis" then some .millis
    else if f = "epoch_second" then some .seconds
    else none

/-- The literal of a bound that is a text: a count of time where the format says so, date math,
a number unless the format is one of dates, or a date. -/
def textBound (field s : String) (format : Option String) (roundUp : Bool) :
    Except Failure Literal :=
  let unit := format.bind epochUnit?
  let cs := Text.trim s.toList
  let count := (Text.int64? cs).bind Number.ofInt?
  match unit, count with
  | some unit, some n => .ok (.epoch unit n)
  | _, _ =>
    match DateMath.read s with
    | .error problem => .error (.malformedField field problem.message)
    | .ok (some d) => .ok (.moment (d.moment roundUp))
    | .ok none =>
      let number := if format.isSome && unit.isNone then none else Decimal.finite? cs
      match number with
      | some x => .ok (.real x)
      | none =>
        match Calendar.date? s.toList with
        | some _ => .ok (.moment (.literal (String.ofList cs)))
        | none =>
          .error (unsupported "RangeClause"
            ("bound [" ++ s ++ "] on [" ++ field ++ "] is neither a number nor a date"))

/-- The literal of a bound. -/
def boundLiteral (field : String) (value : Json) (format : Option String) (roundUp : Bool) :
    Except Failure Literal :=
  match value with
  | .number n =>
    match format.bind epochUnit? with
    | some unit => .ok (.epoch unit n)
    | none => .ok (.number n)
  | .string s => textBound field s format roundUp
  | _ =>
    .error (unsupported "RangeClause"
      ("bound on [" ++ field ++ "] must be a string or number"))

/-- The test of a lower bound. Date math rounds up for a bound that is left out. -/
def lowerTest (field : String) (format : Option String) (b : Bound) :
    Except Failure Predicate := do
  let literal ← boundLiteral field b.value format (!b.inclusive)
  .ok (.test (.column field) (if b.inclusive then .atLeast else .greater) literal)

/-- The test of an upper bound. Date math rounds up for a bound that is let in. -/
def upperTest (field : String) (format : Option String) (b : Bound) :
    Except Failure Predicate := do
  let literal ← boundLiteral field b.value format b.inclusive
  .ok (.test (.column field) (if b.inclusive then .atMost else .less) literal)

/-- A range with one end or two. -/
def rangePredicate (field : String) (lower upper : Option Bound) (format : Option String) :
    Except Failure Predicate :=
  match lower, upper with
  | none, none =>
    .error (.malformedField field ("[range] query on [" ++ field ++ "] has no bounds"))
  | some l, none => lowerTest field format l
  | none, some u => upperTest field format u
  | some l, some u => do
    let l ← lowerTest field format l
    let u ← upperTest field format u
    .ok (.between l u)

/-! ## Boolean combinations -/

/-- An integer reduced to 64 bits with sign. -/
def wrap64 (n : Int) : Int := n.bmod (Nat.pow 2 64)

/-- A count of clauses, where a negative one is taken from all of them. -/
def resolveCount (optional : Nat) (n : Int) : Nat :=
  if n < 0 then (optional + n).toNat else n.toNat

/-- The number in a percentage. -/
def percentage? (expression : String) : Option Int :=
  match (Text.trim expression.toList).reverse with
  | '%' :: rest => Text.int64? (Text.trim rest.reverse)
  | _ => none

/-- The percentage of a number of clauses, rounded towards zero, in 64 bits. -/
def shareOf (optional : Nat) (percent : Int) : Int :=
  let share := Int.tdiv (wrap64 (optional * wrap64 percent.natAbs)) 100
  if percent < 0 then -share else share

/-- How many of the optional clauses have to match. -/
def requiredCount (hasRequired : Bool) (optional : Nat) (minimum : Option MinimumMatch) :
    Except Failure Nat :=
  match minimum with
  | none => .ok (if hasRequired then 0 else 1)
  | some (.count n) => .ok (resolveCount optional n)
  | some (.expression text) =>
    match percentage? text with
    | some percent => .ok (resolveCount optional (shareOf optional percent))
    | none =>
      .error (unsupported "BoolClause" ("minimum_should_match [" ++ text ++ "] is not supported"))

/-- The condition that enough of the optional parts hold; none when that is no condition. -/
def shouldParts (required : Nat) (parts : List Predicate) : List Predicate :=
  if parts.length < required then [.constant false]
  else if required = 1 then [.join .any parts]
  else if required = 0 then []
  else [.atLeast required parts]

/-- The predicate of a boolean combination from those of its parts. -/
def boolPredicate (must filter should mustNot : List Predicate)
    (minimum : Option MinimumMatch) : Except Failure Predicate := do
  let optional ←
    if should.isEmpty then .ok []
    else do
      let required ←
        requiredCount (!must.isEmpty || !filter.isEmpty) should.length minimum
      .ok (shouldParts required should)
  let parts := must ++ filter ++ optional ++ mustNot.map Predicate.negation
  .ok (if parts.isEmpty then .constant true else .join .all parts)

mutual

/-- The predicate of a query. -/
def predicate : Query → Except Failure Predicate
  | .matchAll => .ok (.constant true)
  | .matchNone => .ok (.constant false)
  | .bool must filter should mustNot minimum => do
    let must ← predicates must
    let filter ← predicates filter
    let should ← predicates should
    let mustNot ← predicates mustNot
    boolPredicate must filter should mustNot minimum
  | .range field lower upper format => rangePredicate field lower upper format
  | .fullText field query operator phrase => fullTextPredicate field query operator phrase
  | .term field value ignoreCase => termPredicate field value ignoreCase
  | .terms field values => termsPredicate field values
  | .present field => .ok (.notEmpty field)
  | .startsWith field value => .ok (.test (.column field) .startsWith (.text value))
  | .wildcard field pattern ignoreCase =>
    .ok (.test (.column field) .matchesRegex (.text (Kql.wildcardRegex pattern ignoreCase)))
  | .words query fields operator => wordsPredicate query fields operator
  | .unimplemented node =>
    .error (unsupported node.kind ("[" ++ node.dslName ++ "] queries are not supported"))

/-- The predicates of queries in order. -/
def predicates : List Query → Except Failure (List Predicate)
  | [] => .ok []
  | query :: queries => do
    let p ← predicate query
    let ps ← predicates queries
    .ok (p :: ps)

end

end Query

end KustoSearch
