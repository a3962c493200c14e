import KustoSearch.Text.Numeral

/-! # Percent escapes

A byte may be written as a percent sign and two hexadecimal digits. A percent sign that no two such
digits follow stands for itself.
-/

namespace KustoSearch.Text.Percent

/-- The bytes of a text with its escapes resolved. -/
def unescape : List Char → List UInt8
  | '%' :: a :: b :: rest =>
    match hexValue? a, hexValue? b with
    | some x, some y => UInt8.ofNat (16 * x + y) :: unescape rest
    | _, _ => 0x25 :: unescape (a :: b :: rest)
  | c :: rest => (String.singleton c).toUTF8.toList ++ unescape rest
  | [] => []

/-- The escape of a byte. -/
def escapedByte (b : UInt8) : List Char :=
  let digit (d : Nat) : Char := if d < 10 then digitChar d else Char.ofNat (55 + d)
  ['%', digit (b.toNat / 16), digit (b.toNat % 16)]

/-- A text with the characters of a set escaped, and everything that is no visible ASCII. -/
def escape (set : List Char) (cs : List Char) : List Char :=
  cs.flatMap fun c =>
    if 0x20 < c.toNat && c.toNat < 0x7F && !set.contains c then [c]
    else (String.singleton c).toUTF8.toList.flatMap escapedByte

end KustoSearch.Text.Percent
