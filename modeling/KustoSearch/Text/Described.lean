import KustoSearch.Text.Hidden
import KustoSearch.Text.Numeral

/-! # Described texts

Texts shown in messages: between double quotes, with everything that cannot be seen spelled out by
its code point.
-/

namespace KustoSearch.Text

/-- One character of a described text. -/
def describedChar (c : Char) : List Char :=
  if c.toNat = 0 then ['\\', '0']
  else if c = '\t' then ['\\', 't']
  else if c = '\r' then ['\\', 'r']
  else if c = '\n' then ['\\', 'n']
  else if c = '\\' then ['\\', '\\']
  else if c = '"' then ['\\', '"']
  else if isHidden c then ['\\', 'u', '\x7b'] ++ hexadecimal c.toNat ++ ['\x7d']
  else [c]

/-- A text between quotes, as messages show it. -/
def described (s : String) : String :=
  "\"" ++ String.ofList (s.toList.flatMap describedChar) ++ "\""

end KustoSearch.Text
