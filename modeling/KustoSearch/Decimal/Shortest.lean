import KustoSearch.Decimal.Binary

/-! # Shortest decimals

The fewest decimal digits that read back to a given binary number. `readsBack` is the rounding
interval of the number, decided by exact arithmetic; the digits that `shortest` selects lie in it,
and on the first decimal grid that has a point in it the nearest such point is taken.
-/

namespace KustoSearch.Decimal

/-- The number `digits · 10^exponent`. -/
structure Numeral where
  digits : Nat
  exponent : Int
deriving DecidableEq, Repr

/-- Which of two equally near candidates is taken. -/
inductive TieRule where
  | toEven
  | upward
deriving DecidableEq, Repr

/-- Compares `a · 10^i` with `n · 2^j`. -/
def compareScaled (a : Nat) (i : Int) (n : Nat) (j : Int) : Ordering :=
  compare (a * Nat.pow 10 i.toNat * Nat.pow 2 (-j).toNat)
    (n * Nat.pow 2 j.toNat * Nat.pow 10 (-i).toNat)

/-- Whether `d` lies among the reals that round to the magnitude of `x`. The ends of that
interval are half-way to the neighbours and belong to it when the coefficient is even. -/
def readsBack (x : Binary64) (d : Numeral) : Bool :=
  let below := if x.narrowBelow then 4 * x.coefficient - 1 else 4 * x.coefficient - 2
  let above := 4 * x.coefficient + 2
  let closed := x.coefficient % 2 == 0
  let atLow := compareScaled d.digits d.exponent below (x.power - 2)
  let atHigh := compareScaled d.digits d.exponent above (x.power - 2)
  (atLow == .gt || (closed && atLow == .eq)) && (atHigh == .lt || (closed && atHigh == .eq))

/-- The magnitude of `x` divided by `10^exponent`, rounded down. -/
def gridFloor (x : Binary64) (exponent : Int) : Nat :=
  (x.coefficient * Nat.pow 2 x.power.toNat * Nat.pow 10 (-exponent).toNat) /
    (Nat.pow 2 (-x.power).toNat * Nat.pow 10 exponent.toNat)

/-- The nearer of two neighbouring grid points `low` and `low + 1` that both read back. -/
def nearer (tie : TieRule) (x : Binary64) (low : Nat) (exponent : Int) : Numeral :=
  match compareScaled (2 * low + 1) exponent (2 * x.coefficient) x.power with
  | .gt => ⟨low, exponent⟩
  | .lt => ⟨low + 1, exponent⟩
  | .eq =>
    match tie with
    | .upward => ⟨low + 1, exponent⟩
    | .toEven => if low % 2 == 0 then ⟨low, exponent⟩ else ⟨low + 1, exponent⟩

/-- The point of the grid `10^exponent` that stands for `x`, when one reads back. -/
def onGrid? (tie : TieRule) (x : Binary64) (exponent : Int) : Option Numeral :=
  let low := gridFloor x exponent
  match readsBack x ⟨low, exponent⟩, readsBack x ⟨low + 1, exponent⟩ with
  | true, true => some (nearer tie x low exponent)
  | true, false => some ⟨low, exponent⟩
  | false, true => some ⟨low + 1, exponent⟩
  | false, false => none

/-- The least `k` from `candidate` on, within `steps` steps, with the magnitude below `10^k`. -/
def scaleFrom (x : Binary64) : (steps : Nat) → (candidate : Int) → Int
  | 0, k => k
  | steps + 1, k =>
    if compareScaled 1 k x.coefficient x.power == .gt then k else scaleFrom x steps (k + 1)

/-- The least `k` with the magnitude of a non-zero number below `10^k`. -/
def scale (x : Binary64) : Int :=
  let bits : Int := x.power + Nat.log2 x.coefficient
  scaleFrom x 4 (Int.fdiv (bits * 30103) 100000 - 1)

/-- Moves trailing zeros from the digits into the exponent. -/
def stripZeros (digits : Nat) (exponent : Int) : Numeral :=
  if h : digits ≠ 0 ∧ digits % 10 = 0 then stripZeros (digits / 10) (exponent + 1)
  else ⟨digits, exponent⟩
termination_by digits
decreasing_by omega

/-- The exact value, for a number that no grid of up to seventeen digits stands for. -/
def exact (x : Binary64) : Numeral :=
  if 0 ≤ x.power then ⟨x.coefficient * Nat.pow 2 x.power.toNat, 0⟩
  else ⟨x.coefficient * Nat.pow 5 (-x.power).toNat, x.power⟩

/-- The fewest digits that read back to the magnitude of `x`. -/
def shortest (tie : TieRule) (x : Binary64) : Numeral :=
  if x.isZero then ⟨0, 0⟩
  else
    let k := scale x
    let found := (List.range 17).findSome? fun n => onGrid? tie x (k - (n + 1 : Nat))
    let d := found.getD (exact x)
    stripZeros d.digits d.exponent

end KustoSearch.Decimal
