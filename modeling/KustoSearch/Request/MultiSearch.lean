import KustoSearch.Failure
import KustoSearch.Json.Record
import KustoSearch.Text.Blank

/-! # Multi-searches

Several searches in one document: a line with a header and a line with a body for each. A line ends
with a line feed, which a carriage return may come before. Blank lines do not count. The header may
name an index.
-/

namespace KustoSearch

/-- One of several searches. -/
structure MultiSearchEntry where
  /-- The index that the header names. -/
  index : Option String
  body : Json

namespace MultiSearch

/-- The index that a header line names. -/
def header? (line : List Char) : Option (Option String) := do
  let tree ← Json.Tree.read? line
  let slots ← tree.slots? [["index"]]
  Json.Tree.optional? Json.Tree.string? (slots.head?.join)

/-- A line without the carriage return at its end. -/
def withoutReturn (line : List Char) : List Char :=
  if line.getLast? = some '\r' then line.dropLast else line

/-- The lines of the pieces between line feeds; no line feed comes after the last one. -/
def ofPieces : List (List Char) → List (List Char)
  | [] => []
  | [last] => [last]
  | piece :: pieces => withoutReturn piece :: ofPieces pieces

/-- The lines that are not blank. -/
def lines (cs : List Char) : List (List Char) :=
  (ofPieces (Text.splitWhere (· = '\n') cs)).filter fun line => !Text.allBlank line

/-- The failure of a line of the search at a place. -/
def invalid (part : String) (place : Nat) : Failure :=
  .malformed ("invalid " ++ part ++ " for search " ++ Text.naturalText place)

/-- The searches of header and body lines from a place on. -/
def entriesFrom (place : Nat) : List (List Char) → Except Failure (List MultiSearchEntry)
  | header :: body :: rest =>
    match header? header with
    | none => .error (invalid "header" place)
    | some index =>
      match Json.read? body with
      | none => .error (invalid "body" place)
      | some body => do
        let entries ← entriesFrom (place + 1) rest
        .ok (⟨index, body⟩ :: entries)
  | [_] => .error (.malformed "msearch body must consist of header/body line pairs")
  | [] => .ok []

/-- The searches of a list of lines. -/
def ofLines (lines : List (List Char)) : Except Failure (List MultiSearchEntry) :=
  if lines.isEmpty then .error (.malformed "msearch body contains no searches")
  else if lines.length % 2 ≠ 0 then
    .error (.malformed "msearch body must consist of header/body line pairs")
  else entriesFrom 0 lines

/-- The searches of a document. -/
def read (bytes : List UInt8) : Except Failure (List MultiSearchEntry) :=
  match Text.Utf8.decode? bytes with
  | none => .error (.malformed "msearch body is not UTF-8")
  | some cs => ofLines (lines cs)

end MultiSearch

end KustoSearch
