/-!
**Binary floating point.** A format says how many binary digits its numbers have and between which
exponents they lie. A product or a quotient is computed exactly and then rounded to the nearest
number of the format, of two nearest ones to the even one; what is beyond all numbers is infinite.
-/

namespace DeviceAuth

/-- A format of binary floating point. -/
structure BinaryFormat where
  /-- How many binary digits a number has at most. -/
  digits : Nat
  /-- The exponent of the least unit. -/
  leastExponent : Int
  /-- The exponent of the least power of two that is beyond all numbers. -/
  endExponent : Int

/-- A magnitude in binary floating point. -/
inductive Magnitude where
  /-- The number `mantissa · 2 ^ exponent`. -/
  | finite (mantissa : Nat) (exponent : Int)
  /-- What is beyond all numbers. -/
  | infinite
  deriving DecidableEq, Repr

/-- The natural number nearest to a quotient; of two nearest ones, the even one. -/
def nearestEven (numerator denominator : Nat) : Nat :=
  let floor := numerator / denominator
  let excess := 2 * (numerator % denominator)
  if excess < denominator ∨ (excess = denominator ∧ floor % 2 = 0) then floor else floor + 1

namespace Magnitude

/-- The quotient of natural numbers that `numerator / denominator · 2 ^ exponent` is. -/
def scaled (numerator denominator : Nat) (exponent : Int) : Nat × Nat :=
  (numerator <<< exponent.toNat, denominator <<< (-exponent).toNat)

/-- Whether a magnitude is zero. -/
def isZero : Magnitude → Bool
  | finite mantissa _ => mantissa == 0
  | infinite => false

/-- Whether a magnitude is less than another one. -/
def lessThan : Magnitude → Magnitude → Bool
  | finite mantissa exponent, finite otherMantissa otherExponent =>
    let (numerator, denominator) := scaled mantissa 1 exponent
    let (otherNumerator, otherDenominator) := scaled otherMantissa 1 otherExponent
    numerator * otherDenominator < otherNumerator * denominator
  | finite _ _, infinite => true
  | infinite, _ => false

/-- The integer part of a number. -/
def floor : Magnitude → Nat
  | finite mantissa exponent =>
    let (numerator, denominator) := scaled mantissa 1 exponent
    numerator / denominator
  | infinite => 0

/-- The natural number that a magnitude is. -/
def whole? : Magnitude → Option Nat
  | finite mantissa exponent =>
    let (numerator, denominator) := scaled mantissa 1 exponent
    if numerator % denominator = 0 then some (numerator / denominator) else none
  | infinite => none

end Magnitude

namespace BinaryFormat

/-- The format of 64 bits. -/
def double : BinaryFormat := ⟨53, -1074, 1024⟩

/-- The format of 80 bits. -/
def extended : BinaryFormat := ⟨64, -16445, 16384⟩

/-- The exponent of the unit to which a quotient is rounded: with it the quotient has as many binary
digits before the point as the format has. -/
def unitExponent (format : BinaryFormat) (numerator denominator : Nat) : Int :=
  let guess : Int := numerator.log2 - denominator.log2 - format.digits
  let (scaledNumerator, scaledDenominator) := Magnitude.scaled numerator denominator (-guess)
  let exponent :=
    if (scaledNumerator / scaledDenominator).log2 < format.digits then guess else guess + 1
  max format.leastExponent exponent

/-- A quotient, rounded. -/
def round (format : BinaryFormat) (numerator denominator : Nat) : Magnitude :=
  if numerator = 0 then .finite 0 0
  else
    let exponent := format.unitExponent numerator denominator
    let (scaledNumerator, scaledDenominator) := Magnitude.scaled numerator denominator (-exponent)
    let mantissa := nearestEven scaledNumerator scaledDenominator
    if format.endExponent ≤ mantissa.log2 + exponent then .infinite else .finite mantissa exponent

/-- A product of two powers of two and a quotient, rounded. -/
def roundScaled (format : BinaryFormat) (numerator denominator : Nat) (exponent : Int) :
    Magnitude :=
  let (numerator, denominator) := Magnitude.scaled numerator denominator exponent
  format.round numerator denominator

/-- A magnitude of another format, rounded. -/
def convert (format : BinaryFormat) : Magnitude → Magnitude
  | .finite mantissa exponent => format.roundScaled mantissa 1 exponent
  | .infinite => .infinite

/-- A product. -/
def times (format : BinaryFormat) : Magnitude → Magnitude → Magnitude
  | .finite mantissa exponent, .finite otherMantissa otherExponent =>
    format.roundScaled (mantissa * otherMantissa) 1 (exponent + otherExponent)
  | _, _ => .infinite

/-- A quotient of numbers, of which the second is not zero. -/
def dividedBy (format : BinaryFormat) : Magnitude → Magnitude → Magnitude
  | .finite mantissa exponent, .finite otherMantissa otherExponent =>
    format.roundScaled mantissa otherMantissa (exponent - otherExponent)
  | _, _ => .infinite

/-- The number nearest to a natural number. -/
def ofNat (format : BinaryFormat) (value : Nat) : Magnitude :=
  format.round value 1

/-- The number nearest to a power of ten. -/
def tenTo (format : BinaryFormat) (exponent : Int) : Magnitude :=
  format.round (Nat.pow 10 exponent.toNat) (Nat.pow 10 (-exponent).toNat)

end BinaryFormat

end DeviceAuth
