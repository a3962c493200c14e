/-! # Numerals

Whole numbers in decimal: `decimal` writes them and `natural?` reads them. Reading takes any run
of ASCII digits, so leading zeros are welcome; writing gives the one form without them.
-/

namespace KustoSearch.Text

/-- The ten digits in order. -/
def digitChar (d : Nat) : Char := Char.ofNat (48 + d)

/-- Whether `c` is an ASCII digit. -/
def isDigit (c : Char) : Bool := '0' ≤ c && c ≤ '9'

/-- The value of an ASCII digit. -/
def digitValue (c : Char) : Nat := c.toNat - 48

/-- The decimal digits of `n`, most significant first. -/
def decimal (n : Nat) : List Char :=
  if n < 10 then [digitChar n] else decimal (n / 10) ++ [digitChar (n % 10)]
termination_by n
decreasing_by omega

/-- The number that a run of digits stands for. -/
def digitsValue (cs : List Char) : Nat :=
  cs.foldl (fun n c => 10 * n + digitValue c) 0

/-- A non-empty run of ASCII digits, read as a number. -/
def natural? (cs : List Char) : Option Nat :=
  if !cs.isEmpty && cs.all isDigit then some (digitsValue cs) else none

/-- A run of digits after an optional plus sign. -/
def unsigned? : List Char → Option Nat
  | '+' :: cs => natural? cs
  | cs => natural? cs

/-- A run of digits after an optional sign. -/
def signed? : List Char → Option Int
  | '-' :: cs => (natural? cs).map fun n => -(n : Int)
  | '+' :: cs => (natural? cs).map fun n => (n : Int)
  | cs => (natural? cs).map fun n => (n : Int)

/-- A signed numeral between `lo` and `hi`. -/
def signedWithin? (lo hi : Int) (cs : List Char) : Option Int :=
  (signed? cs).filter fun n => lo ≤ n && n ≤ hi

/-- The least and the greatest integer of 32 and of 64 bits. -/
def int32Min : Int := -Int.pow 2 31
def int32Max : Int := Int.pow 2 31 - 1
def int64Min : Int := -Int.pow 2 63
def int64Max : Int := Int.pow 2 63 - 1

/-- A signed numeral that fits 64 bits. -/
def int64? (cs : List Char) : Option Int := signedWithin? int64Min int64Max cs

/-- A signed numeral that fits 32 bits. -/
def int32? (cs : List Char) : Option Int := signedWithin? int32Min int32Max cs

/-- An unsigned numeral below 2^64. -/
def uint64? (cs : List Char) : Option Nat := (unsigned? cs).filter (· < Nat.pow 2 64)

/-- `n` in decimal. -/
def naturalText (n : Nat) : String := String.ofList (decimal n)

/-- `n` in decimal, with a minus sign when negative. -/
def integerText (n : Int) : String :=
  if n < 0 then "-" ++ naturalText n.natAbs else naturalText n.natAbs

/-- `n` in decimal, filled up with zeros on the left to `width` digits. -/
def paddedText (width n : Nat) : String :=
  let digits := decimal n
  String.ofList (List.replicate (width - digits.length) '0' ++ digits)

/-- A hexadecimal digit, in lower case. -/
def hexDigit (d : Nat) : Char := if d < 10 then digitChar d else Char.ofNat (87 + d)

/-- The hexadecimal digits of `n`, most significant first. -/
def hexadecimal (n : Nat) : List Char :=
  if n < 16 then [hexDigit n] else hexadecimal (n / 16) ++ [hexDigit (n % 16)]
termination_by n
decreasing_by omega

/-- The value of a hexadecimal digit of either case. -/
def hexValue? (c : Char) : Option Nat :=
  if isDigit c then some (c.toNat - 48)
  else if 'a' ≤ c && c ≤ 'f' then some (c.toNat - 87)
  else if 'A' ≤ c && c ≤ 'F' then some (c.toNat - 55)
  else none

/-- A non-empty run of digits of a base up to sixteen, read as a number. -/
def inBase? (base : Nat) (cs : List Char) : Option Nat := do
  let digits ← cs.mapM hexValue?
  if !digits.isEmpty && digits.all (· < base) then
    some (digits.foldl (fun n d => base * n + d) 0)
  else none

end KustoSearch.Text
