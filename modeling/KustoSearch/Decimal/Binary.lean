/-! # Finite binary floating-point numbers

`Binary64` is a finite number of 64 bits, held as its bit pattern, so equality is decidable and
means "the same bits". Its value is `±coefficient · 2^power`; whole-number questions are answered
from these two exactly, without rounding.
-/

namespace KustoSearch

/-- A finite number in the 64-bit binary format. -/
structure Binary64 where
  bits : UInt64
  finite : (bits >>> 52) &&& 0x7FF ≠ 0x7FF
deriving DecidableEq

namespace Binary64

/-- The number with the bits of `x`, unless `x` is infinite or no number. -/
def ofFloat? (x : Float) : Option Binary64 :=
  if h : (x.toBits >>> 52) &&& 0x7FF ≠ 0x7FF then some ⟨x.toBits, h⟩ else none

/-- The machine number with the same bits. -/
def toFloat (x : Binary64) : Float := Float.ofBits x.bits

/-- Zero without a sign. -/
def zero : Binary64 := ⟨0, by decide⟩

instance : Inhabited Binary64 := ⟨zero⟩

/-- Whether the sign bit is set; minus zero has it too. -/
def isNegative (x : Binary64) : Bool := x.bits >>> 63 == 1

/-- The eleven exponent bits. -/
def exponentBits (x : Binary64) : Nat := ((x.bits >>> 52) &&& 0x7FF).toNat

/-- The fifty-two fraction bits. -/
def fractionBits (x : Binary64) : Nat := (x.bits &&& 0xFFFFFFFFFFFFF).toNat

/-- The whole number whose multiple by a power of two is the magnitude. -/
def coefficient (x : Binary64) : Nat :=
  if x.exponentBits == 0 then x.fractionBits else 0x10000000000000 + x.fractionBits

/-- The power of two that goes with `coefficient`. -/
def power (x : Binary64) : Int :=
  if x.exponentBits == 0 then -1074 else (x.exponentBits : Int) - 1075

/-- Whether the neighbour towards zero is half as far away as the other one. -/
def narrowBelow (x : Binary64) : Bool := x.fractionBits == 0 && x.exponentBits > 1

/-- Whether the magnitude is zero. -/
def isZero (x : Binary64) : Bool := x.coefficient == 0

/-- The whole part of the magnitude. -/
def wholePart (x : Binary64) : Nat :=
  if 0 ≤ x.power then x.coefficient * Nat.pow 2 x.power.toNat
  else x.coefficient / Nat.pow 2 (-x.power).toNat

/-- Whether the value has no fraction. -/
def isWhole (x : Binary64) : Bool :=
  0 ≤ x.power || x.coefficient % Nat.pow 2 (-x.power).toNat == 0

/-- The nearest whole number to the magnitude; a half goes up. -/
def roundedMagnitude (x : Binary64) : Nat :=
  if 0 ≤ x.power then x.coefficient * Nat.pow 2 x.power.toNat
  else
    let unit := Nat.pow 2 (-x.power).toNat
    (2 * x.coefficient + unit) / (2 * unit)

/-- The nearest whole number; a half goes away from zero. -/
def rounded (x : Binary64) : Int :=
  if x.isNegative then -(x.roundedMagnitude : Int) else x.roundedMagnitude

/-- Whether the value is greater than zero. -/
def isPositive (x : Binary64) : Bool := !x.isNegative && !x.isZero

/-- Whether the value is at least zero; minus zero is. -/
def isAtLeastZero (x : Binary64) : Bool := !x.isNegative || x.isZero

/-- Whether the magnitude is at most a natural number. -/
def magnitudeAtMost (x : Binary64) (n : Nat) : Bool :=
  if 0 ≤ x.power then x.coefficient * Nat.pow 2 x.power.toNat ≤ n
  else x.coefficient ≤ n * Nat.pow 2 (-x.power).toNat

/-- The number nearest to a natural number; ties go to the even coefficient. -/
def ofNat? (n : Nat) : Option Binary64 := ofFloat? (Float.ofScientific n false 0)

end Binary64

end KustoSearch
