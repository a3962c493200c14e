import KustoSearch.Engine.Status
import KustoSearch.Json.Printer
import KustoSearch.Json.Record

/-! # Payloads

The document that brings a result: a list of tables. Where there are several, the last one is a
table of contents. Each of its rows tells the place, the kind and the name of a table; the tables
with results are taken in this order, and a table with a status may tell how long the engine took.
-/

namespace KustoSearch

/-- A step that reads a reply without getting a result. -/
inductive EngineStop where
  | error (e : EngineError)
  | fault (f : Fault)
deriving DecidableEq, Repr

namespace Payload

/-- A table as it is sent; a row may be anything. -/
structure RawTable where
  name : String
  columns : List Column
  rows : List Json

/-! ## Reading -/

/-- How many levels of a document lie around a row. -/
def rowDepth : Nat := 4

/-- A list of trees that are all read alike. -/
def list? {α : Type} (read : Json.Tree → Option α) : Json.Tree → Option (List α)
  | .array items => items.mapM read
  | _ => none

/-- A field that is there. -/
def required? {α : Type} (read : Json.Tree → Option α) (slot : Option Json.Tree) : Option α :=
  slot.bind read

/-- A column. The engine's own name of the type goes before the general one, and a column without
either may hold anything. -/
def column? (tree : Json.Tree) : Option Column := do
  match ← tree.slots? [["ColumnName"], ["DataType"], ["ColumnType"]] with
  | [name, general, own] =>
    let name ← required? Json.Tree.string? name
    let general ← Json.Tree.optional? Json.Tree.string? general
    let own ← Json.Tree.optional? Json.Tree.string? own
    some ⟨name, ((own.or general).map ColumnType.ofTypeName).getD .dynamic⟩
  | _ => none

/-- A table. Its name may be missing. -/
def table? (tree : Json.Tree) : Option RawTable := do
  match ← tree.slots? [["TableName"], ["Columns"], ["Rows"]] with
  | [name, columns, rows] =>
    let name ← match name with
      | none => some ""
      | some name => name.string?
    let columns ← required? (list? column?) columns
    let rows ← required? (list? (Json.Tree.value? (Json.maxDepth - rowDepth))) rows
    some ⟨name, columns, rows⟩
  | _ => none

/-- The tables of a document. -/
def tables? (tree : Json.Tree) : Option (List RawTable) := do
  match ← tree.slots? [["Tables"]] with
  | [tables] => required? (list? table?) tables
  | _ => none

/-- The tables of a payload. -/
def read? (payload : List UInt8) : Option (List RawTable) := do
  let cs ← Text.Utf8.decode? payload
  let tree ← Json.Tree.read? cs
  tables? tree

/-! ## Tables -/

/-- An error that asking again does not mend. -/
def refused {α : Type} (detail : String) : Except EngineStop α :=
  .error (.error (.permanent detail))

/-- The message of a row that is no list of cells. -/
def rowMessage (row : Json) : String :=
  (Status.message? row).getD (String.ofList (row.chars.take Status.maxDetail))

/-- The cells of a row of the table of a name; any other row says that the engine gave up. -/
def cells (table : String) : Json → Except EngineStop Row
  | .array cells => .ok cells
  | row => refused ("query failed while streaming table " ++ table ++ ": " ++ rowMessage row)

/-- A sent table under a name. -/
def RawTable.named (table : RawTable) (name : String) : Except EngineStop Table := do
  let rows ← table.rows.mapM (cells name)
  .ok ⟨name, table.columns, rows⟩

/-- The position of the first column of a name. -/
def RawTable.columnIndex? (table : RawTable) (name : String) : Option Nat :=
  table.columns.findIdx? fun c => c.name = name

/-- A cell of a row. -/
def cell? (row : Json) (i : Nat) : Option Json :=
  match row with
  | .array cells => cells[i]?
  | _ => none

/-- The text in a cell of a row. -/
def cellText? (row : Json) (i : Nat) : Option String := (cell? row i).bind Json.string?

/-! ## The time of the engine -/

/-- Seconds in nanoseconds, to the nearest one; a half goes to the even neighbour. -/
def nanos (seconds : Binary64) : Nat :=
  let units := seconds.coefficient * Nat.pow 10 9
  if 0 ≤ seconds.power then units * Nat.pow 2 seconds.power.toNat
  else
    let divisor := Nat.pow 2 (-seconds.power).toNat
    let quotient := units / divisor
    let twice := 2 * (units % divisor)
    if twice < divisor || (twice = divisor && quotient % 2 = 0) then quotient else quotient + 1

/-- The seconds that a status row tells. -/
def seconds? (column : Nat) (row : Json) : Option Binary64 := do
  let text ← cellText? row column
  let document ← Json.read? text.toList
  let time ← document.get? "ExecutionTime"
  (Json.binary64? time).filter Binary64.isAtLeastZero

/-- The time that a status table tells, from the first row that tells one. The seconds of a
duration are below `2^64`. -/
def engineTime (table : RawTable) : Except EngineStop (Option Nat) :=
  match table.columnIndex? "StatusDescription" with
  | none => .ok none
  | some column =>
    match table.rows.findSome? (seconds? column) with
    | none => .ok none
    | some seconds =>
      if nanos seconds < Nat.pow 2 64 * Nat.pow 10 9 then .ok (some (nanos seconds))
      else .error (.fault .durationOutOfRange)

/-! ## The table of contents -/

/-- The columns that every table of contents has. -/
structure Contents where
  ordinal : Nat
  kind : Nat
  name : Nat

/-- The columns of a table of contents. -/
def Contents.of? (table : RawTable) : Option Contents := do
  some ⟨← table.columnIndex? "Ordinal", ← table.columnIndex? "Kind", ← table.columnIndex? "Name"⟩

/-- A place in the list of tables, as a number or a text. -/
def ordinal? (row : Json) (column : Nat) : Option Nat := do
  let value ← cell? row column
  (Json.nat? value).or (value.string?.bind fun s => Text.uint64? s.toList)

/-- What has been read of the contents: the tables that are left in their places, the results, and
the time of the engine. -/
structure Reading where
  left : List (Option RawTable)
  results : List Table
  engineNanos : Option Nat

/-- Takes the table at a place under a name. -/
def take (reading : Reading) (place : Nat) (name : String) : Except EngineStop Reading :=
  match reading.left[place]?.join with
  | none =>
    refused ("table of contents points at missing table " ++ Text.naturalText place)
  | some table => do
    let result ← table.named name
    .ok { reading with
      left := reading.left.set place none
      results := reading.results ++ [result] }

/-- Looks at the table at a place for the time of the engine, when it is not known yet. -/
def lookAt (reading : Reading) (place : Nat) : Except EngineStop Reading :=
  match reading.engineNanos, reading.left[place]?.join with
  | none, some table => do
    let time ← engineTime table
    .ok { reading with engineNanos := time }
  | _, _ => .ok reading

/-- Follows a row of the contents; rows of other kinds do not count. -/
def follow (contents : Contents) (reading : Reading) (row : Json) :
    Except EngineStop Reading :=
  let kind := cellText? row contents.kind
  if kind = some "QueryResult" || kind = some "QueryStatus" then
    match ordinal? row contents.ordinal with
    | none => refused "invalid ordinal in table of contents"
    | some place =>
      if kind = some "QueryStatus" then lookAt reading place
      else take reading place ((cellText? row contents.name).getD "")
  else .ok reading

/-- The results that a table of contents lists. -/
def listed (contents : RawTable) (tables : List RawTable) : Except EngineStop Reading :=
  match Contents.of? contents with
  | none => refused "table of contents is missing Ordinal, Kind or Name"
  | some columns => contents.rows.foldlM (follow columns) ⟨tables.map some, [], none⟩

/-- The results in a list of tables, with the time of the engine. -/
def results (tables : List RawTable) : Except EngineStop (List Table × Option Nat) :=
  match tables.getLast? with
  | none => .ok ([], none)
  | some last =>
    if tables.length = 1 then do
      let table ← last.named last.name
      .ok ([table], none)
    else do
      let reading ← listed last tables.dropLast
      .ok (reading.results, reading.engineNanos)

/-- The result that a payload brings. -/
def result (payload : List UInt8) : Except EngineStop Result :=
  match read? payload with
  | none => refused "undecodable response body"
  | some tables => do
    let (tables, engineNanos) ← results tables
    .ok ⟨tables, payload.length, engineNanos⟩

end Payload

end KustoSearch
