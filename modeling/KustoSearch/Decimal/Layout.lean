import KustoSearch.Decimal.Shortest
import KustoSearch.Text.Numeral

/-! # Layouts of floating-point text

A `Layout` holds the decisions of one output format: where positional writing ends, how a whole
number shows, how an exponent is written. `Layout.text` writes a number in it.
-/

namespace KustoSearch.Decimal

/-- How numbers are written out. -/
structure Layout where
  /-- Least and greatest exponent of the leading digit that is written positionally; numbers
  outside go to exponent form. No bounds mean that all are positional. -/
  positional : Option (Int × Int)
  /-- A whole number ends in `.0` when written positionally. -/
  pointZero : Bool
  /-- A positive exponent carries a plus sign. -/
  plusExponent : Bool
  /-- Which of two equally short and near digit strings is taken. -/
  tie : TieRule
deriving DecidableEq, Repr

namespace Layout

/-- Digits with the point after the first `whole` of them, where `whole` may exceed their number
or be negative. -/
def positionalText (pointZero : Bool) (digits : List Char) (whole : Int) : List Char :=
  if whole ≤ 0 then
    ['0', '.'] ++ List.replicate (-whole).toNat '0' ++ digits
  else if digits.length ≤ whole.toNat then
    digits ++ List.replicate (whole.toNat - digits.length) '0' ++
      (if pointZero then ['.', '0'] else [])
  else
    digits.take whole.toNat ++ ['.'] ++ digits.drop whole.toNat

/-- One digit, the others after a point, and the exponent of the first. -/
def exponentText (plus : Bool) (digits : List Char) (exponent : Int) : List Char :=
  let fraction := match digits.drop 1 with
    | [] => []
    | rest => '.' :: rest
  let sign := if exponent < 0 then ['-'] else if plus then ['+'] else []
  digits.take 1 ++ fraction ++ ['e'] ++ sign ++ Text.decimal exponent.natAbs

/-- The magnitude `d` in the layout. -/
def magnitudeText (layout : Layout) (d : Numeral) : List Char :=
  let digits := Text.decimal d.digits
  let lead := d.exponent + digits.length - 1
  let inRange := match layout.positional with
    | none => true
    | some (lo, hi) => d.digits == 0 || (lo ≤ lead && lead ≤ hi)
  if inRange then positionalText layout.pointZero digits (lead + 1)
  else exponentText layout.plusExponent digits lead

/-- The shortest text of `x` in the layout; minus zero keeps its sign. -/
def text (layout : Layout) (x : Binary64) : List Char :=
  (if x.isNegative then ['-'] else []) ++ layout.magnitudeText (shortest layout.tie x)

end Layout

/-- Plain writing: positional throughout, and a whole number has no point. -/
def plain : Layout where
  positional := none
  pointZero := false
  plusExponent := false
  tie := .upward

/-- Descriptive writing: always visibly a floating-point number, in exponent form below `10^-4`
and from `10^16` on. -/
def descriptive : Layout where
  positional := some (-4, 15)
  pointZero := true
  plusExponent := false
  tie := .upward

/-- `x` in plain writing. -/
def plainText (x : Binary64) : String := String.ofList (plain.text x)

/-- `x` in descriptive writing. -/
def descriptiveText (x : Binary64) : String := String.ofList (descriptive.text x)

end KustoSearch.Decimal
