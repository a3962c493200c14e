import KustoSearch.Text.Join

/-! # Quoted names and texts

How names and texts of the caller are written in a statement, and how literal characters are
written in a regular expression. Each is a table of single characters.
-/

namespace KustoSearch.Kql

/-- One character of a bracketed name. -/
def identifierChar (c : Char) : List Char :=
  if c = '\\' then ['\\', '\\'] else if c = '\'' then ['\\', '\''] else [c]

/-- A column or table name in brackets. -/
def identifier (name : String) : String :=
  "['" ++ String.ofList (name.toList.flatMap identifierChar) ++ "']"

/-- One character of a text literal. -/
def literalChar (c : Char) : List Char :=
  if c = '\\' then ['\\', '\\']
  else if c = '"' then ['\\', '"']
  else if c = '\n' then ['\\', 'n']
  else if c = '\r' then ['\\', 'r']
  else if c = '\t' then ['\\', 't']
  else [c]

/-- A text between double quotes. -/
def textLiteral (s : String) : String :=
  "\"" ++ String.ofList (s.toList.flatMap literalChar) ++ "\""

/-- The characters that mean something in a regular expression. -/
def regexSpecials : List Char :=
  ['\\', '.', '+', '*', '?', '(', ')', '|', '[', ']', '\x7b', '\x7d', '^', '$', '#', '&', '-', '~']

/-- One character of a wildcard pattern: a star is any run, a question mark any one character,
and every other character stands for itself. -/
def wildcardChar (c : Char) : List Char :=
  if c = '*' then ['.', '*']
  else if c = '?' then ['.']
  else if regexSpecials.contains c then ['\\', c]
  else [c]

/-- The regular expression of a wildcard pattern, anchored at both ends. -/
def wildcardRegex (pattern : String) (ignoreCase : Bool) : String :=
  (if ignoreCase then "(?i)" else "") ++ "^" ++
    String.ofList (pattern.toList.flatMap wildcardChar) ++ "$"

end KustoSearch.Kql
