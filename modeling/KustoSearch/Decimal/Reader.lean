import KustoSearch.Decimal.Binary
import KustoSearch.Text.Join
import KustoSearch.Text.Numeral

/-! # Reading floating-point text

The grammar of a floating-point numeral: an optional sign, then either the name of a special value
in any case or digits with at most one point and an optional exponent. The value is the nearest
binary number.
-/

namespace KustoSearch.Decimal

/-- The parts of an unsigned numeral: digits before and after the point, and the exponent. -/
structure Parts where
  whole : List Char
  fraction : List Char
  exponent : Int
deriving Repr

/-- The exponent at the end of a numeral, or zero where there is none. -/
def exponentPart? : List Char → Option Int
  | [] => some 0
  | 'e' :: cs => Text.signed? cs
  | 'E' :: cs => Text.signed? cs
  | _ :: _ => none

/-- Splits an unsigned numeral; there is a digit before or after the point. -/
def parts? (cs : List Char) : Option Parts := do
  let whole := cs.takeWhile Text.isDigit
  let rest := cs.dropWhile Text.isDigit
  let (fraction, tail) := match rest with
    | '.' :: rest => (rest.takeWhile Text.isDigit, rest.dropWhile Text.isDigit)
    | rest => ([], rest)
  if whole.isEmpty && fraction.isEmpty then none
  else some ⟨whole, fraction, ← exponentPart? tail⟩

/-- The nearest machine number to `digits · 10^exponent`. Exponents that no digit count of the
numeral can bring back into range are decided at once. -/
def scaled (digits : Nat) (size : Nat) (exponent : Int) : Float :=
  if digits = 0 then 0.0
  else if exponent + size < -400 then 0.0
  else if exponent > 400 then 1.0 / 0.0
  else Float.ofScientific digits (exponent < 0) exponent.natAbs

/-- The value of an unsigned numeral. -/
def Parts.value (p : Parts) : Float :=
  let digits := p.whole ++ p.fraction
  scaled (Text.digitsValue digits) digits.length (p.exponent - p.fraction.length)

/-- The value of an unsigned numeral or special name. -/
def magnitude? (cs : List Char) : Option Float :=
  let name := cs.map Text.lowerChar
  if name = "inf".toList || name = "infinity".toList then some (1.0 / 0.0)
  else if name = "nan".toList then some (0.0 / 0.0)
  else (parts? cs).map Parts.value

/-- The machine number that a text stands for; it may be infinite or no number. -/
def float? : List Char → Option Float
  | '-' :: cs => (magnitude? cs).map fun x => -x
  | '+' :: cs => magnitude? cs
  | cs => magnitude? cs

/-- The finite number that a text stands for. -/
def finite? (cs : List Char) : Option Binary64 := (float? cs).bind Binary64.ofFloat?

end KustoSearch.Decimal
