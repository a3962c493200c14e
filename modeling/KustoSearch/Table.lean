import KustoSearch.Json.Value
import KustoSearch.Text.Join

/-! # Result tables

What the engine answers: named tables of cells, with the size of the answer and the time that the
engine spent on it. A row need not be as long as the table has columns.
-/

namespace KustoSearch

/-- The meaning of a column's values. -/
inductive ColumnType where
  | string
  | number
  | timestamp
  | bool
  | dynamic
deriving DecidableEq, Repr

/-- The name of a column type. -/
def ColumnType.name : ColumnType → String
  | .string => "string"
  | .number => "number"
  | .timestamp => "timestamp"
  | .bool => "bool"
  | .dynamic => "dynamic"

/-- The column type for one of the engine's type names, in any case. -/
def ColumnType.ofTypeName (name : String) : ColumnType :=
  let name := Text.lower name
  if ["datetime", "date"].contains name then .timestamp
  else if ["int", "long", "real", "decimal", "double", "int32", "int64", "single",
      "float"].contains name then .number
  else if ["bool", "boolean", "sbyte"].contains name then .bool
  else if ["dynamic", "object"].contains name then .dynamic
  else .string

/-- A column. -/
structure Column where
  name : String
  type : ColumnType
deriving DecidableEq, Repr

/-- A row of cells. -/
abbrev Row := List Json

/-- A named table. -/
structure Table where
  name : String
  columns : List Column
  rows : List Row

/-- The position of the first column of a name. -/
def Table.columnIndex? (table : Table) (name : String) : Option Nat :=
  table.columns.findIdx? fun c => c.name = name

/-- The answer of the engine. -/
structure Result where
  tables : List Table
  /-- The size of the answer as it was received. -/
  payloadBytes : Nat
  /-- The time the engine reports for itself, in nanoseconds. -/
  engineNanos : Option Nat

namespace Result

/-- The first table of a name. -/
def table? (result : Result) (name : String) : Option Table :=
  result.tables.find? fun t => t.name = name

/-- The number of rows in all tables. -/
def rowCount (result : Result) : Nat := (result.tables.flatMap Table.rows).length

end Result

end KustoSearch
