import KustoSearch.Text.Blank
import KustoSearch.Toml.Scalar

/-! # Reading configuration documents

A document is read line by line: a line may open a table by its header, or set a value in the table
that was opened last. Names may be dotted, which sets a value in a table further inside.
-/

namespace KustoSearch.Toml

/-- How deeply arrays and inline tables may nest, and how long a dotted name may be: less than
this. -/
def nestingLimit : Nat := 80

/-! ## Names -/

/-- Whether a character may stand in a name without quotes. -/
def isBare (c : Char) : Bool := c.isAlphanum || c = '_' || c = '-'

/-- One part of a name. -/
def namePart? (cs : List Char) : Option (String × List Char) :=
  match cs with
  | '"' :: _ => lineText? cs
  | '\'' :: _ => lineText? cs
  | _ =>
    let bare := cs.takeWhile isBare
    if bare.isEmpty then none else some (String.ofList bare, cs.drop bare.length)

/-- The parts of a name with points between them, and spaces around each. -/
def nameParts? : Nat → List Char → Option (List String × List Char)
  | 0, _ => none
  | fuel + 1, cs =>
    match namePart? (skipSpace cs) with
    | none => none
    | some (part, rest) =>
      match skipSpace rest with
      | '.' :: rest => (nameParts? fuel rest).map fun (parts, rest) => (part :: parts, rest)
      | rest => some ([part], rest)

/-- A name: the path to its table, and its last part. -/
def name? (cs : List Char) : Option (List String × String × List Char) := do
  let (parts, rest) ← nameParts? (nestingLimit - 1) cs
  some (parts.dropLast, ← parts.getLast?, rest)

/-! ## Lines -/

/-- The rest after a comment, up to its line end. -/
def skipComment : List Char → List Char
  | '#' :: rest => rest.dropWhile isPlain
  | cs => cs

/-- The rest after the end of a line, which a comment may stand before. -/
def lineEnd? (cs : List Char) : Option (List Char) :=
  match skipComment (skipSpace cs) with
  | [] => some []
  | cs => newline? cs

/-- The rest after spaces, line ends and comments. -/
def skipLines : Nat → List Char → List Char
  | 0, cs => cs
  | fuel + 1, cs =>
    match newline? (skipComment (skipSpace cs)) with
    | some rest => skipLines fuel rest
    | none => skipSpace cs

/-- The rest after spaces, line ends and comments. -/
def skipBlank (cs : List Char) : List Char := skipLines cs.length cs

/-! ## Values -/

/-- A value that is no array or inline table. -/
def scalar? (cs : List Char) : Option (Value × List Char) :=
  match cs with
  | '"' :: _ => (text? cs).map fun (s, rest) => (.string s, rest)
  | '\'' :: _ => (text? cs).map fun (s, rest) => (.string s, rest)
  | 't' :: 'r' :: 'u' :: 'e' :: rest => some (.boolean true, rest)
  | 'f' :: 'a' :: 'l' :: 's' :: 'e' :: rest => some (.boolean false, rest)
  | _ =>
    ((moment? cs).map fun (s, rest) => (Value.moment s, rest)).or
      (((float? cs).map fun (x, rest) => (Value.float x, rest)).or
        ((integer? cs).map fun (n, rest) => (Value.integer n, rest)))

mutual

/-- A value. `depth` bounds the nesting, `fuel` the number of steps. -/
def value? (depth : Nat) : Nat → List Char → Option (Value × List Char)
  | 0, _ => none
  | fuel + 1, cs =>
    match cs with
    | '[' :: rest => if depth = 0 then none else items? (depth - 1) fuel [] (skipBlank rest)
    | '\x7b' :: rest =>
      if depth = 0 then none
      else
        match skipSpace rest with
        | '\x7d' :: rest => some (.inline [], rest)
        | rest => entries? (depth - 1) fuel (.empty .header) rest
    | cs => scalar? cs

/-- The items of an array, up to its end. -/
def items? (depth : Nat) : Nat → List Value → List Char → Option (Value × List Char)
  | 0, _, _ => none
  | fuel + 1, read, cs =>
    match cs with
    | ']' :: rest => some (.array read.reverse, rest)
    | cs =>
      match value? depth fuel cs with
      | none => none
      | some (item, rest) =>
        match skipBlank rest with
        | ',' :: rest => items? depth fuel (item :: read) (skipBlank rest)
        | ']' :: rest => some (.array (item :: read).reverse, rest)
        | _ => none

/-- The entries of an inline table from one that must follow on, up to its end. -/
def entries? (depth : Nat) : Nat → Table → List Char → Option (Value × List Char)
  | 0, _, _ => none
  | fuel + 1, table, cs =>
    match name? cs with
    | some (path, name, '=' :: rest) =>
      match value? depth fuel (skipSpace rest) with
      | none => none
      | some (value, rest) =>
        match table.insert? path name value with
        | none => none
        | some table =>
          match skipSpace rest with
          | ',' :: rest => entries? depth fuel table rest
          | '\x7d' :: rest => some (.inline table.entries, rest)
          | _ => none
    | _ => none

end

/-! ## Documents -/

/-- What has been read of a document, and the path of the table that was opened last. -/
structure Draft where
  root : Table
  current : List String

namespace Draft

/-- A document with nothing in it. -/
def empty : Draft := ⟨.empty .header, []⟩

/-- Sets a value in the table that was opened last. -/
def set? (draft : Draft) (path : List String) (name : String) (value : Value) : Option Draft :=
  (draft.root.change? false (fun t => t.insert? path name value) draft.current).map fun root =>
    { draft with root := root }

/-- Opens the table of a header. -/
def openTable? (draft : Draft) (path : List String) (name : String) : Option Draft :=
  (draft.root.openTable? path name).map fun root => ⟨root, path ++ [name]⟩

/-- Opens one more of several tables. -/
def openItem? (draft : Draft) (path : List String) (name : String) : Option Draft :=
  (draft.root.openItem? path name).map fun root => ⟨root, path ++ [name]⟩

/-- Takes in a line that is not blank; the rest begins after the line. -/
def line? (draft : Draft) : List Char → Option (Draft × List Char)
  | '[' :: '[' :: cs => do
    match ← name? cs with
    | (path, name, ']' :: ']' :: rest) => some (← draft.openItem? path name, ← lineEnd? rest)
    | _ => none
  | '[' :: cs => do
    match ← name? cs with
    | (path, name, ']' :: rest) => some (← draft.openTable? path name, ← lineEnd? rest)
    | _ => none
  | cs => do
    match ← name? cs with
    | (path, name, '=' :: rest) => do
      let (value, rest) ← value? (nestingLimit - 1) (2 * rest.length + 2) (skipSpace rest)
      let rest ← lineEnd? rest
      some (← draft.set? path name value, rest)
    | _ => none

/-- Takes in all lines. -/
def lines? : Nat → Draft → List Char → Option Draft
  | 0, _, _ => none
  | fuel + 1, draft, cs =>
    match lineEnd? cs with
    | some [] => some draft
    | some rest => lines? fuel draft rest
    | none =>
      match draft.line? (skipSpace cs) with
      | some (draft, rest) => lines? fuel draft rest
      | none => none

end Draft

/-- The document that a text is; a byte order mark at its head does not count. -/
def read? (cs : List Char) : Option Value :=
  let cs := match cs with
    | '\uFEFF' :: rest => rest
    | cs => cs
  (Draft.lines? (cs.length + 2) .empty cs).map fun draft => .table .header draft.root.entries

end KustoSearch.Toml
