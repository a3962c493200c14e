import KustoSearch.Json.Value

/-! # Configuration documents

A document is a table of named values. A table remembers how it came about, since that decides what
may still be added to it: a table with a header of its own is closed to dotted names, a table that
dotted names made is closed to headers, and an inline table is closed to both.
-/

namespace KustoSearch.Toml

/-- How a table came about. -/
inductive Origin where
  /-- It has a header of its own, or is the whole document. -/
  | header
  /-- A longer header runs through it. -/
  | implied
  /-- A dotted name runs through it. -/
  | dotted
deriving DecidableEq, Repr

/-- A value of a document. -/
inductive Value where
  | string (s : String)
  | integer (n : Int)
  | float (x : Float)
  | boolean (b : Bool)
  /-- A date, a time or both. -/
  | moment (text : String)
  | array (items : List Value)
  | inline (entries : List (String × Value))
  | table (origin : Origin) (entries : List (String × Value))
  /-- Tables that share a name, in order. -/
  | tables (items : List (List (String × Value)))
deriving Inhabited

/-- The entries of a table in which one may still be set, with how the table came about. -/
structure Table where
  origin : Origin
  entries : List (String × Value)

namespace Table

/-- A table with nothing in it. -/
def empty (origin : Origin) : Table := ⟨origin, []⟩

/-- The value of a name. -/
def get? (table : Table) (name : String) : Option Value := member? name table.entries

/-- The table with a value set. -/
def put (table : Table) (name : String) (value : Value) : Table :=
  { table with entries := putMember name value table.entries }

/-- Changes the table at the end of a path. Tables that are missing on the way are made; through
a list of tables the path goes on in the last one. A dotted path does not go through tables with a
header. -/
def change? (dotted : Bool) (f : Table → Option Table) : List String → Table → Option Table
  | [], table => f table
  | name :: path, table =>
    match table.get? name with
    | none =>
      (change? dotted f path (.empty (if dotted then .dotted else .implied))).map fun child =>
        table.put name (.table child.origin child.entries)
    | some (.table origin entries) =>
      if dotted && origin = .header then none
      else
        (change? dotted f path ⟨origin, entries⟩).map fun child =>
          table.put name (.table child.origin child.entries)
    | some (.tables items) =>
      match items.getLast? with
      | none => none
      | some last =>
        (change? dotted f path ⟨.header, last⟩).map fun child =>
          table.put name (.tables (items.dropLast ++ [child.entries]))
    | some _ => none

/-- Sets a value that is not there yet. With a dotted name it goes into a table that dotted names
made. -/
def insert? (table : Table) (path : List String) (name : String) (value : Value) :
    Option Table :=
  let add (t : Table) : Option Table :=
    if decide (t.origin = .dotted) = path.isEmpty then none
    else
      match t.get? name with
      | some _ => none
      | none => some (t.put name value)
  table.change? true add path

/-- Opens the table of a header. It may have been made by longer headers, and by nothing else. -/
def openTable? (table : Table) (path : List String) (name : String) : Option Table :=
  let add (t : Table) : Option Table :=
    match t.get? name with
    | none => some (t.put name (.table .header []))
    | some (.table .implied entries) => some (t.put name (.table .header entries))
    | some _ => none
  table.change? false add path

/-- Opens one more table of a name that stands for several. -/
def openItem? (table : Table) (path : List String) (name : String) : Option Table :=
  let add (t : Table) : Option Table :=
    match t.get? name with
    | none => some (t.put name (.tables [[]]))
    | some (.tables items) => some (t.put name (.tables (items ++ [[]])))
    | some _ => none
  table.change? false add path

end Table

namespace Value

/-- The values of a record's fields by name. A list gives them in order, and what it has beyond
them does not count; a date gives none. -/
def slots? (fields : List String) : Value → Option (List (Option Value))
  | .table _ entries => some (fields.map fun f => member? f entries)
  | .inline entries => some (fields.map fun f => member? f entries)
  | .array items => some (fields.mapIdx fun i _ => items[i]?)
  | .tables items => some (fields.mapIdx fun i _ => (items[i]?).map (.table .header))
  | .moment _ => some (fields.map fun _ => none)
  | _ => none

/-- The text that a value is. -/
def string? : Value → Option String
  | .string s => some s
  | _ => none

/-- The truth value that a value is. -/
def bool? : Value → Option Bool
  | .boolean b => some b
  | _ => none

/-- The natural number below a bound that a value is. -/
def natBelow? (bound : Nat) : Value → Option Nat
  | .integer (.ofNat n) => if n < bound then some n else none
  | _ => none

end Value

end KustoSearch.Toml
