import KustoSearch.Json.Value
import KustoSearch.Kql.Moment

/-! # Predicates

Row predicates of a statement. A `Predicate` is the meaning; `Predicate.text` writes it, and puts
parentheses wherever a connective joins more than one part.
-/

namespace KustoSearch.Kql

/-- What a test looks at. -/
inductive Target where
  | column (name : String)
  /-- Any column of the row. -/
  | anyColumn
deriving DecidableEq, Repr

/-- The text of a target. -/
def Target.text : Target → String
  | .column name => identifier name
  | .anyColumn => "*"

/-- Comparisons of a column with a literal. -/
inductive Comparison where
  | equal
  | equalIgnoringCase
  | less
  | atMost
  | greater
  | atLeast
  /-- Holds the literal as a whole term. -/
  | hasTerm
  /-- Holds a term that begins with the literal. -/
  | hasTermFrom
  | startsWith
  | matchesRegex
deriving DecidableEq, Repr

/-- The operator of a comparison. -/
def Comparison.text : Comparison → String
  | .equal => "=="
  | .equalIgnoringCase => "=~"
  | .less => "<"
  | .atMost => "<="
  | .greater => ">"
  | .atLeast => ">="
  | .hasTerm => "has"
  | .hasTermFrom => "hasprefix"
  | .startsWith => "startswith_cs"
  | .matchesRegex => "matches regex"

/-- Units of a count of time since 1970-01-01. -/
inductive EpochUnit where
  | millis
  | seconds
deriving DecidableEq, Repr

/-- The function that makes a date of such a count. -/
def EpochUnit.function : EpochUnit → String
  | .millis => "unixtime_milliseconds_todatetime"
  | .seconds => "unixtime_seconds_todatetime"

/-- What a column is compared with. -/
inductive Literal where
  | text (s : String)
  | number (n : Number)
  /-- A floating-point number written without a point when it is whole. -/
  | real (x : Binary64)
  | bool (b : Bool)
  | moment (m : Moment)
  | epoch (unit : EpochUnit) (n : Number)
deriving DecidableEq

/-- The text of a literal. -/
def Literal.chars : Literal → String
  | .text s => textLiteral s
  | .number n => n.text
  | .real x => Decimal.plainText x
  | .bool b => if b then "true" else "false"
  | .moment m => m.text
  | .epoch unit n => unit.function ++ "(" ++ n.text ++ ")"

/-- The two ways to join predicates. -/
inductive Connective where
  | all
  | any
deriving DecidableEq, Repr

/-- The word of a connective. -/
def Connective.word : Connective → String
  | .all => "and"
  | .any => "or"

/-- A condition on a row. -/
inductive Predicate where
  | constant (b : Bool)
  | test (target : Target) (comparison : Comparison) (literal : Literal)
  /-- The column holds one of the literals. -/
  | oneOf (column : String) (literals : List Literal)
  | notEmpty (column : String)
  /-- Two tests side by side, both to hold. -/
  | between (lower upper : Predicate)
  | join (connective : Connective) (parts : List Predicate)
  /-- At least `count` of the parts hold. -/
  | atLeast (count : Nat) (parts : List Predicate)
  | negation (part : Predicate)

/-- Parts joined by a word: one part stands as it is, several in parentheses. -/
def joinTexts (word : String) : List String → String
  | [part] => part
  | parts => Text.join (" " ++ word ++ " ") (parts.map fun p => "(" ++ p ++ ")")

mutual

/-- The text of a predicate. -/
def Predicate.text : Predicate → String
  | .constant b => if b then "true" else "false"
  | .test target comparison literal =>
    target.text ++ " " ++ comparison.text ++ " " ++ literal.chars
  | .oneOf column literals =>
    identifier column ++ " in (" ++ Text.join ", " (literals.map Literal.chars) ++ ")"
  | .notEmpty column => "isnotempty(" ++ identifier column ++ ")"
  | .between lower upper => lower.text ++ " and " ++ upper.text
  | .join connective parts => joinTexts connective.word (Predicate.texts parts)
  | .atLeast count parts =>
    Text.join " + " ((Predicate.texts parts).map fun p => "toint(" ++ p ++ ")") ++ " >= " ++
      Text.naturalText count
  | .negation part => "not(" ++ part.text ++ ")"

/-- The texts of predicates. -/
def Predicate.texts : List Predicate → List String
  | [] => []
  | part :: parts => part.text :: Predicate.texts parts

end

end KustoSearch.Kql
