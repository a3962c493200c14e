import KustoSearch.Failure
import KustoSearch.Json.Printer
import KustoSearch.Request.Document
import KustoSearch.Text.Blank

/-! # From requests to searches

What the parts of a well-shaped request mean. `Search.read` is the one entry: it settles the query
first, then the aggregations, then the hits, and reports the first part that is malformed.
-/

namespace KustoSearch.Request

open Failure (malformed malformedField)

/-! ## Queries -/

/-- The only field of a clause. -/
def singleField {α : Type} (clause : String) (fields : List (String × α)) :
    Except Failure (String × α) :=
  match fields with
  | [] => .error (malformedField clause ("[" ++ clause ++ "] query requires a field"))
  | [entry] => .ok entry
  | first :: second :: _ =>
    .error (malformedField clause ("[" ++ clause ++
      "] query doesn't support multiple fields, found [" ++ first.1 ++ "] and [" ++ second.1 ++
      "]"))

/-- Whether a value is a text, a number or a truth value. -/
def isScalar : Json → Bool
  | .string _ => true
  | .number _ => true
  | .bool _ => true
  | _ => false

/-- Refuses a value that is no scalar. -/
def requireScalar (clause field : String) (value : Json) : Except Failure Unit :=
  if isScalar value then .ok ()
  else
    .error (malformedField field ("[" ++ clause ++ "] value for [" ++ field ++
      "] must be a string, number or boolean"))

/-- The operator of a name in any case; none means `or`. -/
def operator (name : Option String) : Except Failure MatchOperator :=
  match name.map Text.lower with
  | none => .ok .or
  | some name =>
    if name = "or" then .ok .or
    else if name = "and" then .ok .and
    else .error (malformed ("unknown operator [" ++ name ++ "], expected AND or OR"))

/-- A clause on the text of a field. -/
def fullText (phrase : Bool) (fields : List (String × FullTextParams)) :
    Except Failure Query := do
  let clause := if phrase then "match_phrase" else "match"
  let (field, params) ← singleField clause fields
  let operator ← operator params.operator
  requireScalar clause field params.query
  .ok (.fullText field params.query operator phrase)

/-- A clause on the exact value of a field. -/
def term (fields : List (String × TermParams)) : Except Failure Query := do
  let (field, params) ← singleField "term" fields
  requireScalar "term" field params.value
  .ok (.term field params.value params.ignoreCase)

/-- A clause on a list of values of a field. The key `boost` is not a field, and an object in the
place of the list asks for a look-up. -/
def terms (fields : List (String × Json)) : Except Failure Query := do
  let (field, values) ← singleField "terms" (fields.filter fun (name, _) => name != "boost")
  match values with
  | .array values =>
    values.forM (requireScalar "terms" field)
    .ok (.terms field values)
  | .object _ => .ok (.unimplemented ⟨"TermsLookupClause", "terms"⟩)
  | _ =>
    .error (malformedField field ("[terms] value for [" ++ field ++ "] must be an array"))

/-- Whether a value can bound a range. -/
def isBoundValue : Json → Bool
  | .string _ => true
  | .number _ => true
  | _ => false

/-- The one end of a range that is given under an inclusive or an exclusive name. -/
def bound (field inclusiveName : String) (inclusive : Option Json) (exclusiveName : String)
    (exclusive : Option Json) : Except Failure (Option Bound) :=
  let checked (b : Bound) : Except Failure (Option Bound) :=
    if isBoundValue b.value then .ok (some b)
    else
      .error (malformedField field ("[range] bound on [" ++ field ++
        "] must be a string or number"))
  match inclusive, exclusive with
  | some _, some _ =>
    .error (malformedField field ("[range] query on [" ++ field ++ "] sets both [" ++
      inclusiveName ++ "] and [" ++ exclusiveName ++ "]"))
  | some value, none => checked ⟨value, true⟩
  | none, some value => checked ⟨value, false⟩
  | none, none => .ok none

/-- The failure of a range without ends. -/
def noBounds (field : String) : Failure :=
  malformedField field ("[range] query on [" ++ field ++ "] has no bounds")

/-- A clause on the order of a field's value. -/
def range (fields : List (String × RangeParams)) : Except Failure Query := do
  let (field, params) ← singleField "range" fields
  let lower ← bound field "gte" params.gte "gt" params.gt
  let upper ← bound field "lte" params.lte "lt" params.lt
  if lower.isNone && upper.isNone then .error (noBounds field)
  else .ok (.range field lower upper params.format)

/-- A clause on the presence of a field. -/
def present (field : String) : Except Failure Query :=
  if Text.isBlankString field then
    .error (malformedField "exists" "[exists] query requires a non-empty field")
  else .ok (.present field)

/-- A search for words; the field `*` asks for all columns and is left out. -/
def words (params : WordsParams) : Except Failure Query := do
  let fields := match params.fields, params.defaultField with
    | some fields, _ => fields
    | none, some field => [field]
    | none, none => []
  let operator ← operator params.defaultOperator
  .ok (.words params.query (fields.filter fun f => f != "*") operator)

/-- A clause on the pattern of a field's value. -/
def wildcard (fields : List (String × WildcardParams)) : Except Failure Query := do
  let (field, params) ← singleField "wildcard" fields
  .ok (.wildcard field params.pattern params.ignoreCase)

/-- A clause on how a field's value begins. -/
def startsWith (fields : List (String × String)) : Except Failure Query := do
  let (field, value) ← singleField "prefix" fields
  .ok (.startsWith field value)

/-- The least number of optional clauses; a text that is no number is kept as it is. -/
def minimum : MinimumParams → MinimumMatch
  | .number n => .count n
  | .text s =>
    match Text.int32? (Text.trim s.toList) with
    | some n => .count n
    | none => .expression s

mutual

/-- The query of a clause. -/
def query : Clause → Except Failure Query
  | .matchAll => .ok .matchAll
  | .matchNone => .ok .matchNone
  | .fullText phrase fields => fullText phrase fields
  | .term fields => term fields
  | .terms fields => terms fields
  | .range fields => range fields
  | .bool must filter should mustNot min => do
    let must ← queries must
    let filter ← queries filter
    let should ← queries should
    let mustNot ← queries mustNot
    .ok (.bool must filter should mustNot (min.map minimum))
  | .present field => present field
  | .words params => words params
  | .wildcard fields => wildcard fields
  | .startsWith fields => startsWith fields
  | .unimplemented node => .ok (.unimplemented node)

/-- The queries of clauses in order. -/
def queries : List Clause → Except Failure (List Query)
  | [] => .ok []
  | clause :: clauses => do
    let q ← query clause
    let qs ← queries clauses
    .ok (q :: qs)

end

/-! ## Aggregations -/

/-- The default of a percentiles aggregation: 1, 5, 25, 50, 75, 95 and 99 percent. -/
def defaultPercents : List Binary64 :=
  [1, 5, 25, 50, 75, 95, 99].map fun n => (Binary64.ofNat? n).getD .zero

/-- A field that has to be named. -/
def requiredField (field : Option String) (path type : String) : Except Failure String :=
  let missing : Failure := malformedField path ("[" ++ type ++ "] aggregation requires a field")
  match field with
  | some field => if Text.isBlankString field then .error missing else .ok field
  | none => .error missing

/-- Whether a percent lies between 0 and 100. -/
def isPercent (p : Binary64) : Bool := p.isAtLeastZero && p.magnitudeAtMost 100

/-- Whether a direction is descending; anything but the two words is refused. -/
def isDescending (direction : Json) (path : String) : Except Failure Bool :=
  match direction.string?.map Text.lower with
  | some "desc" => .ok true
  | some "asc" => .ok false
  | _ =>
    .error (malformedField path ("unknown order direction " ++ direction.text ++
      ", expected asc or desc"))

/-- The members of the one object that gives an order, alone or in a list of one. -/
def orderMembers (order : Json) (path : String) : Except Failure (List (String × Json)) :=
  match order with
  | .object members => .ok members
  | .array [.object members] => .ok members
  | .array [_] => .error (malformedField path "[order] entries must be objects")
  | _ =>
    .error (malformedField path
      "[order] must be a single \x7b\"key\": \"asc|desc\"\x7d object")

/-- The order of the buckets of a terms aggregation. -/
def termsOrder (order : Option Json) (path : String) : Except Failure TermsOrder :=
  match order with
  | none => .ok .countDesc
  | some order => do
    let members ← orderMembers order path
    match members with
    | [(key, direction)] =>
      let descending ← isDescending direction path
      if key = "_count" then .ok (if descending then .countDesc else .countAsc)
      else if key = "_key" || key = "_term" then
        .ok (if descending then .keyDesc else .keyAsc)
      else .ok (.byMetric key descending)
    | _ => .error (malformedField path "[order] must name exactly one sort key")

/-- The kind of a percentiles aggregation. -/
def percentiles (field : Option String) (percents : Option (List Binary64)) (path : String) :
    Except Failure AggregationKind := do
  let field ← requiredField field path "percentiles"
  let percents := percents.getD defaultPercents
  if percents.isEmpty then .error (malformedField path "[percents] must not be empty")
  else
    match percents.find? fun p => !isPercent p with
    | some bad =>
      .error (malformedField path ("percent [" ++ Decimal.plainText bad ++
        "] must be between 0 and 100"))
    | none => .ok (.metric field (.percentiles percents) none)

/-- The kind of a terms aggregation. A bucket for documents without the field has no statement. -/
def termsKind (field : Option String) (size : Option Nat) (order : Option Json)
    (minDocCount : Option Nat) (missing : Option Json) (path : String) :
    Except Failure AggregationKind := do
  if missing.isSome then .ok (.unimplemented ⟨"TermsMissingBucket", "terms"⟩)
  else
    let size := size.getD 10
    if size = 0 then .error (malformedField path "[size] must be greater than 0")
    else
      let field ← requiredField field path "terms"
      let order ← termsOrder order path
      .ok (.terms field size order (minDocCount.getD 1))

/-- The kind of a histogram over numbers. -/
def histogramKind (field : Option String) (interval : Option Binary64)
    (minDocCount : Option Nat) (path : String) : Except Failure AggregationKind := do
  let field ← requiredField field path "histogram"
  match interval with
  | some interval =>
    if interval.isPositive then .ok (.histogram field interval (minDocCount.getD 1))
    else
      .error (malformedField path ("[interval] must be positive, got [" ++
        Decimal.plainText interval ++ "]"))
  | none => .error (malformedField path "[histogram] aggregation requires an interval")

/-- The kind of a histogram over dates. A calendar interval goes before a fixed one, and both
before an interval of neither name. -/
def dateHistogramKind (field interval fixedInterval calendarInterval : Option String)
    (minDocCount : Option Nat) (path : String) : Except Failure AggregationKind := do
  let field ← requiredField field path "date_histogram"
  match calendarInterval <|> fixedInterval <|> interval with
  | none => .error (malformedField path "[date_histogram] aggregation requires an interval")
  | some text =>
    match Interval.parse? text with
    | some interval => .ok (.dateHistogram field interval (minDocCount.getD 1))
    | none => .error (malformedField path ("unable to parse interval [" ++ text ++ "]"))

/-- The kind of an aggregation of one declared type. -/
def aggregationKind (declared : Declared) (path : String) : Except Failure AggregationKind :=
  match declared with
  | .metric name function field missing => do
    let field ← requiredField field path name
    .ok (.metric field function missing)
  | .percentiles field percents => percentiles field percents path
  | .terms field size order minDocCount missing =>
    termsKind field size order minDocCount missing path
  | .histogram field interval minDocCount => histogramKind field interval minDocCount path
  | .dateHistogram field interval fixedInterval calendarInterval minDocCount =>
    dateHistogramKind field interval fixedInterval calendarInterval minDocCount path
  | .unimplemented node => .ok (.unimplemented node)

/-- Whether an aggregation may have a name; brackets and angles are paths elsewhere. -/
def isAggregationName (name : String) : Bool :=
  !name.isEmpty && !Text.containsAny name ['[', ']', '>']

/-- The one type that an aggregation declares. -/
def declaredType (name path : String) (declared : List Declared) : Except Failure Declared :=
  match declared with
  | [] =>
    .error (malformedField path ("aggregation [" ++ name ++ "] does not declare a type"))
  | [single] => .ok single
  | first :: second :: _ =>
    .error (malformedField path ("aggregation [" ++ name ++ "] declares more than one type: [" ++
      first.name ++ "] and [" ++ second.name ++ "]"))

mutual

/-- The aggregation of a name, inside the aggregation at `parent`. -/
def aggregation (parent name : String) : AggregationSpec → Except Failure Aggregation
  | .node declared children => do
    let path := parent ++ "." ++ name
    if !isAggregationName name then
      .error (malformedField path ("invalid aggregation name [" ++ name ++ "]"))
    else
      let single ← declaredType name path declared
      let kind ← aggregationKind single path
      if kind.isMetric && !children.isEmpty then
        .error (malformedField path ("metric aggregation [" ++ name ++
          "] cannot have sub-aggregations"))
      else
        let children ← aggregations path children
        .ok (.node name kind children)

/-- The aggregations of a table in order. -/
def aggregations (parent : String) :
    List (String × AggregationSpec) → Except Failure (List Aggregation)
  | [] => .ok []
  | (name, spec) :: rest => do
    let a ← aggregation parent name spec
    let as ← aggregations parent rest
    .ok (a :: as)

end

/-! ## Hits -/

/-- The largest sum of skipped and shown hits. -/
def maxResultWindow : Nat := 10000

/-- Sort fields that say nothing about the rows of a table. -/
def isPseudoField (field : String) : Bool := field = "_score" || field = "_doc"

/-- The sort keys of the criteria that concern columns. -/
def sortFields : List SortParams → Except Failure (List SortField)
  | [] => .ok []
  | (field, direction) :: rest =>
    if isPseudoField field then sortFields rest
    else do
      let descending ← match direction with
        | some direction => isDescending (.string direction) "sort"
        | none => .ok false
      let fields ← sortFields rest
      .ok (⟨field, descending⟩ :: fields)

/-- The columns of a hit. The pattern `*` alone includes everything and is left out. -/
def source : Option SourceParams → SourceSelection
  | none => .all
  | some (.bool true) => .all
  | some (.bool false) => .none
  | some (.patterns includes excludes) =>
    let includes := includes.filter fun f => f != "*"
    if includes.isEmpty && excludes.isEmpty then .all else .only includes excludes

/-- The sum of two numbers of 64 bits, or the greatest such number. -/
def saturatingSum (a b : Nat) : Nat := min (a + b) (Nat.pow 2 64 - 1)

/-- The selection of hits. -/
def hits (d : Document) : Except Failure HitSelection := do
  let skip := d.skip.getD 0
  let size := d.size.getD 10
  if maxResultWindow < saturatingSum skip size then
    .error (malformedField "size" (
      "result window is too large, from + size must be less than or equal to [" ++
      Text.naturalText maxResultWindow ++ "] but was [" ++
      Text.naturalText (saturatingSum skip size) ++ "]"))
  else
    let sort ← sortFields d.sort
    .ok ⟨skip, size, sort, source d.source, d.trackTotal.getD true⟩

/-- Whether a document is an object. -/
def isObject : Json → Bool
  | .object _ => true
  | _ => false

end KustoSearch.Request

namespace KustoSearch

open Failure (malformed)

/-- The search that a request on an index asks for. -/
def Search.read (index : String) (body : Json) : Except Failure Search := do
  if Text.isBlankString index then .error (malformed "no index given for search")
  else if !Request.isObject body then
    .error (malformed "request body must be a JSON object")
  else
    match Request.Document.read? body with
    | none => .error (malformed "failed to parse search body")
    | some document =>
      let query ← match document.query with
        | some clause => Request.query clause
        | none => .ok .matchAll
      let aggregations ← Request.aggregations "aggs" document.aggregations
      let hits ← Request.hits document
      .ok ⟨index, query, aggregations, hits⟩

end KustoSearch
