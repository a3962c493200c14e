import KustoSearch.Json.Printer
import KustoSearch.Toml.Value

/-! # Writing configuration documents

Texts in double quotes, with escapes for quotes, backslashes and control characters, and one line
for each named value.
-/

namespace KustoSearch.Toml

/-- One character of a quoted text. -/
def escapeChar (c : Char) : List Char :=
  if c.toNat = 0x7F then "\\u007f".toList else Json.escapeChar c

/-- A text between quotes. -/
def quoted (s : String) : String := String.ofList ('"' :: (s.toList.flatMap escapeChar ++ ['"']))

/-- The line that sets a value. -/
def entryLine (name value : String) : String := name ++ " = " ++ value ++ "\n"

/-- The header of a table. -/
def headerLine (name : String) : String := "[" ++ name ++ "]\n"

end KustoSearch.Toml
