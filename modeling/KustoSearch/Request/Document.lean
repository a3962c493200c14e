import KustoSearch.Json.Record
import KustoSearch.Query.Basic

/-! # Request documents

The request as the caller writes it, with the shape of every part checked and nothing more. Reading
fails as a whole when one part has the wrong shape; what a well-shaped part means is settled
afterwards.
-/

namespace KustoSearch.Request

open Json

/-- A value with parameters, under the name of a field. -/
structure FullTextParams where
  query : Json
  operator : Option String

/-- An exact value under the name of a field. -/
structure TermParams where
  value : Json
  ignoreCase : Bool

/-- A pattern under the name of a field. -/
structure WildcardParams where
  pattern : String
  ignoreCase : Bool

/-- The ends of a range under the name of a field. -/
structure RangeParams where
  gte : Option Json
  gt : Option Json
  lte : Option Json
  lt : Option Json
  format : Option String

/-- The parameters of a search for words. -/
structure WordsParams where
  query : String
  defaultField : Option String
  fields : Option (List String)
  defaultOperator : Option String

/-- The least number of optional clauses, as written. -/
inductive MinimumParams where
  | number (n : Int)
  | text (s : String)

/-- A query clause. -/
inductive Clause where
  | matchAll
  | matchNone
  | fullText (phrase : Bool) (fields : List (String × FullTextParams))
  | term (fields : List (String × TermParams))
  | terms (fields : List (String × Json))
  | range (fields : List (String × RangeParams))
  | bool (must filter should mustNot : List Clause) (minimum : Option MinimumParams)
  | present (field : String)
  | words (params : WordsParams)
  | wildcard (fields : List (String × WildcardParams))
  | startsWith (fields : List (String × String))
  | unimplemented (node : Unimplemented)

/-- A type that an aggregation declares, with its parameters. -/
inductive Declared where
  | metric (name : String) (function : MetricFunction) (field : Option String)
      (missing : Option Json)
  | percentiles (field : Option String) (percents : Option (List Binary64))
  | terms (field : Option String) (size : Option Nat) (order : Option Json)
      (minDocCount : Option Nat) (missing : Option Json)
  | histogram (field : Option String) (interval : Option Binary64) (minDocCount : Option Nat)
  | dateHistogram (field interval fixedInterval calendarInterval : Option String)
      (minDocCount : Option Nat)
  | unimplemented (node : Unimplemented)

/-- The name of a declared type. -/
def Declared.name : Declared → String
  | .metric name .. => name
  | .percentiles .. => "percentiles"
  | .terms .. => "terms"
  | .histogram .. => "histogram"
  | .dateHistogram .. => "date_histogram"
  | .unimplemented node => node.dslName

/-- An aggregation: the types it declares, in a fixed order, and its sub-aggregations. -/
inductive AggregationSpec where
  | node (declared : List Declared) (children : List (String × AggregationSpec))

/-- The columns of a hit, as written. -/
inductive SourceParams where
  | bool (b : Bool)
  | patterns (includes excludes : List String)

/-- One sort criterion: a field with the direction that is given for it. -/
abbrev SortParams := String × Option String

/-- A request. -/
structure Document where
  query : Option Clause
  skip : Option Nat
  size : Option Nat
  source : Option SourceParams
  aggregations : List (String × AggregationSpec)
  sort : List SortParams
  /-- Whether hits are counted, when the document says so by a truth value. -/
  trackTotal : Option Bool

/-! ## Clauses -/

/-- A value alone, or an object with the value and an operator. -/
def fullTextParams? (json : Json) : Option FullTextParams :=
  let withParams : Option FullTextParams := do
    let [query, operator, boost] ← namedSlots? [["query"], ["operator"], ["boost"]] json | none
    let query ← required? any? query
    let operator ← optional? string? operator
    let _ ← optional? binary64? boost
    some ⟨query, operator⟩
  some (withParams.getD ⟨json, none⟩)

/-- A value alone, or an object with the value and whether case matters. -/
def termParams? (json : Json) : Option TermParams :=
  let withParams : Option TermParams := do
    let [value, boost, ignoreCase] ←
      namedSlots? [["value"], ["boost"], ["case_insensitive"]] json | none
    let value ← required? any? value
    let _ ← optional? binary64? boost
    let ignoreCase ← optional? bool? ignoreCase
    some ⟨value, ignoreCase.getD false⟩
  some (withParams.getD ⟨json, false⟩)

/-- A pattern alone, or an object with the pattern and whether case matters. -/
def wildcardParams? (json : Json) : Option WildcardParams :=
  match json with
  | .string s => some ⟨s, false⟩
  | json => do
    let [value, boost, ignoreCase] ←
      namedSlots? [["value"], ["boost"], ["case_insensitive"]] json | none
    let value ← required? string? value
    let _ ← optional? binary64? boost
    let ignoreCase ← optional? bool? ignoreCase
    some ⟨value, ignoreCase.getD false⟩

/-- A text alone, or an object with the text. -/
def startsWithParams? (json : Json) : Option String :=
  match json with
  | .string s => some s
  | json => do
    let [value, boost] ← namedSlots? [["value"], ["boost"]] json | none
    let value ← required? string? value
    let _ ← optional? binary64? boost
    some value

/-- The ends of a range. -/
def rangeParams? (json : Json) : Option RangeParams := do
  let [gte, gt, lte, lt, format, timeZone, boost] ←
    slots? [["gte"], ["gt"], ["lte"], ["lt"], ["format"], ["time_zone"], ["boost"]] json | none
  let gte ← optional? any? gte
  let gt ← optional? any? gt
  let lte ← optional? any? lte
  let lt ← optional? any? lt
  let format ← optional? string? format
  let _ ← optional? string? timeZone
  let _ ← optional? binary64? boost
  some ⟨gte, gt, lte, lt, format⟩

/-- The parameters of a search for words. -/
def wordsParams? (json : Json) : Option WordsParams := do
  let [query, defaultField, fields, defaultOperator, analyze] ←
    slots? [["query"], ["default_field"], ["fields"], ["default_operator"],
      ["analyze_wildcard"]] json | none
  let query ← required? string? query
  let defaultField ← optional? string? defaultField
  let fields ← optional? strings? fields
  let defaultOperator ← optional? string? defaultOperator
  let _ ← optional? bool? analyze
  some ⟨query, defaultField, fields, defaultOperator⟩

/-- A record whose only field is an optional boost. -/
def boostOnly? (json : Json) : Option Unit := do
  let [boost] ← slots? [["boost"]] json | none
  let _ ← optional? binary64? boost
  some ()

/-- The one field of a clause on the presence of a field. -/
def presentParams? (json : Json) : Option String := do
  let [field] ← slots? [["field"]] json | none
  required? string? field

/-- A number or a text. -/
def minimumParams? : Json → Option MinimumParams
  | .string s => some (.text s)
  | json => (int32? json).map .number

/-- One value or a list of them. -/
def oneOrMore? {α : Type} (read : Json → Option α) : Json → Option (List α)
  | .array items => items.mapM read
  | json => (read json).map fun value => [value]

/-- The clauses that have no statement, by their names. -/
def unimplementedClause? (name : String) : Option Unimplemented :=
  match name with
  | "regexp" => some ⟨"RegexpClause", name⟩
  | "fuzzy" => some ⟨"FuzzyClause", name⟩
  | "ids" => some ⟨"IdsClause", name⟩
  | "nested" => some ⟨"NestedClause", name⟩
  | "geo_distance" => some ⟨"GeoDistanceClause", name⟩
  | "geo_bounding_box" => some ⟨"GeoBoundingBoxClause", name⟩
  | "more_like_this" => some ⟨"MoreLikeThisClause", name⟩
  | "script" => some ⟨"ScriptClause", name⟩
  | _ => none

/-- A clause that holds no other clauses, by its name. -/
def leafClause? (name : String) (body : Json) : Option Clause :=
  match name with
  | "match_all" => (boostOnly? body).map fun _ => .matchAll
  | "match_none" => (boostOnly? body).map fun _ => .matchNone
  | "match" => (table? fullTextParams? body).map (.fullText false)
  | "match_phrase" => (table? fullTextParams? body).map (.fullText true)
  | "term" => (table? termParams? body).map .term
  | "terms" => (table? any? body).map .terms
  | "range" => (table? rangeParams? body).map .range
  | "exists" => (presentParams? body).map .present
  | "query_string" => (wordsParams? body).map .words
  | "simple_query_string" => (wordsParams? body).map .words
  | "wildcard" => (table? wildcardParams? body).map .wildcard
  | "prefix" => (table? startsWithParams? body).map .startsWith
  | name => (unimplementedClause? name).map .unimplemented

/-- A clause: an object whose one key is the name of the clause. Clauses nest at most `depth`
deep. -/
def clauseWithin? : (depth : Nat) → Json → Option Clause
  | 0, _ => none
  | depth + 1, json =>
    match json with
    | .object [(name, body)] =>
      if name = "bool" then do
        let [must, should, mustNot, filter, minimum, boost] ←
          slots? [["must"], ["should"], ["must_not"], ["filter"], ["minimum_should_match"],
            ["boost"]] body | none
        let clauses := optional? (oneOrMore? (clauseWithin? depth))
        let must ← clauses must
        let should ← clauses should
        let mustNot ← clauses mustNot
        let filter ← clauses filter
        let minimum ← optional? minimumParams? minimum
        let _ ← optional? binary64? boost
        some (.bool (must.getD []) (filter.getD []) (should.getD []) (mustNot.getD []) minimum)
      else leafClause? name body
    | _ => none

/-- A clause. -/
def clause? (json : Json) : Option Clause := clauseWithin? json.depth json

/-! ## Aggregations -/

/-- Parameters of a metric on a field. -/
def metricParams? (name : String) (function : MetricFunction) (json : Json) :
    Option Declared := do
  let [field, missing] ← slots? [["field"], ["missing"]] json | none
  let field ← optional? string? field
  let missing ← optional? any? missing
  some (.metric name function field missing)

/-- Parameters of a percentiles aggregation. -/
def percentilesParams? (json : Json) : Option Declared := do
  let [field, percents] ← slots? [["field"], ["percents"]] json | none
  let field ← optional? string? field
  let percents ← optional? (list? binary64?) percents
  some (.percentiles field percents)

/-- Parameters of a terms aggregation. -/
def termsParams? (json : Json) : Option Declared := do
  let [field, size, order, minDocCount, missing] ←
    slots? [["field"], ["size"], ["order"], ["min_doc_count"], ["missing"]] json | none
  let field ← optional? string? field
  let size ← optional? nat? size
  let order ← optional? any? order
  let minDocCount ← optional? nat? minDocCount
  let missing ← optional? any? missing
  some (.terms field size order minDocCount missing)

/-- Parameters of a histogram over numbers. -/
def histogramParams? (json : Json) : Option Declared := do
  let [field, interval, minDocCount] ←
    slots? [["field"], ["interval"], ["min_doc_count"]] json | none
  let field ← optional? string? field
  let interval ← optional? binary64? interval
  let minDocCount ← optional? nat? minDocCount
  some (.histogram field interval minDocCount)

/-- Parameters of a histogram over dates. -/
def dateHistogramParams? (json : Json) : Option Declared := do
  let [field, interval, fixedInterval, calendarInterval, minDocCount, format, timeZone] ←
    slots? [["field"], ["interval"], ["fixed_interval"], ["calendar_interval"],
      ["min_doc_count"], ["format"], ["time_zone"]] json | none
  let field ← optional? string? field
  let interval ← optional? string? interval
  let fixedInterval ← optional? string? fixedInterval
  let calendarInterval ← optional? string? calendarInterval
  let minDocCount ← optional? nat? minDocCount
  let _ ← optional? string? format
  let _ ← optional? string? timeZone
  some (.dateHistogram field interval fixedInterval calendarInterval minDocCount)

/-- The types that an aggregation may declare, in order, and how each is read. -/
def declarations : List (String × (Json → Option Declared)) := [
  ("avg", metricParams? "avg" .avg),
  ("sum", metricParams? "sum" .sum),
  ("min", metricParams? "min" .min),
  ("max", metricParams? "max" .max),
  ("stats", metricParams? "stats" .stats),
  ("value_count", metricParams? "value_count" .valueCount),
  ("cardinality", metricParams? "cardinality" .cardinality),
  ("percentiles", percentilesParams?),
  ("terms", termsParams?),
  ("histogram", histogramParams?),
  ("date_histogram", dateHistogramParams?),
  ("range", fun _ => some (.unimplemented ⟨"RangeAggregation", "range"⟩)),
  ("date_range", fun _ => some (.unimplemented ⟨"DateRangeAggregation", "date_range"⟩)),
  ("filter", fun _ => some (.unimplemented ⟨"FilterAggregation", "filter"⟩)),
  ("filters", fun _ => some (.unimplemented ⟨"FiltersAggregation", "filters"⟩)),
  ("global", fun _ => some (.unimplemented ⟨"GlobalAggregation", "global"⟩)),
  ("top_hits", fun _ => some (.unimplemented ⟨"TopHitsAggregation", "top_hits"⟩))]

/-- The names of the field that holds sub-aggregations. -/
def aggregationsField : List String := ["aggs", "aggregations"]

/-- The declared types of an aggregation, from the slots of its fields. -/
def declared? (slots : List (Option Json)) : Option (List Declared) :=
  let readSlot (d : (String × (Json → Option Declared)) × Option Json) := optional? d.1.2 d.2
  ((declarations.zip slots).mapM readSlot).map (List.filterMap id)

/-- A table of aggregations, nested at most `depth` deep. -/
def aggregationWithin? : (depth : Nat) → Json → Option AggregationSpec
  | 0, _ => none
  | depth + 1, json => do
    let slots ← slots? (declarations.map (fun d => [d.1]) ++ [aggregationsField]) json
    let declared ← declared? slots
    let children ← optional? (table? (aggregationWithin? depth))
      (slots[declarations.length]?.bind id)
    some (.node declared (children.getD []))

/-- A table of aggregations. -/
def aggregations? (json : Json) : Option (List (String × AggregationSpec)) :=
  table? (aggregationWithin? json.depth) json

/-! ## Hits -/

/-- A truth value, a pattern, a list of patterns, or an object with two such lists. -/
def sourceParams? : Json → Option SourceParams
  | .bool b => some (.bool b)
  | .string s => some (.patterns [s] [])
  | .array items => (items.mapM string?).map fun ps => .patterns ps []
  | json => do
    let [includes, excludes] ←
      namedSlots? [["includes", "include"], ["excludes", "exclude"]] json | none
    let includes ← optional? strings? includes
    let excludes ← optional? strings? excludes
    some (.patterns (includes.getD []) (excludes.getD []))

/-- A direction alone, or an object that may have one. -/
def sortOrder? (json : Json) : Option (Option String) :=
  match json with
  | .string s => some (some s)
  | json => do
    let [order] ← namedSlots? [["order"]] json | none
    optional? string? order

/-- A field, or an object with a direction for each of its fields. -/
def sortParams? : Json → Option (List SortParams)
  | .string s => some [(s, none)]
  | json => table? sortOrder? json

/-- Whether hits are counted; a number does not say. -/
def trackTotal? : Json → Option (Option Bool)
  | .bool b => some (some b)
  | json => (nat? json).map fun _ => none

/-- A request. -/
def Document.read? (json : Json) : Option Document := do
  let [query, skip, size, source, aggregations, sort, trackTotal] ←
    namedSlots? [["query"], ["from"], ["size"], ["_source"], aggregationsField, ["sort"],
      ["track_total_hits"]] json | none
  let query ← optional? clause? query
  let skip ← optional? nat? skip
  let size ← optional? nat? size
  let source ← optional? sourceParams? source
  let aggregations ← optional? aggregations? aggregations
  let sort ← optional? (oneOrMore? sortParams?) sort
  let trackTotal ← optional? trackTotal? trackTotal
  some {
    query := query
    skip := skip
    size := size
    source := source
    aggregations := aggregations.getD []
    sort := (sort.getD []).flatten
    trackTotal := trackTotal.bind id }

end KustoSearch.Request
