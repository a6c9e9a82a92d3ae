import DeviceAuth.Binary
import DeviceAuth.Json.Basic
import DeviceAuth.Text.Basic

/-!
**Numbers of JSON texts in 64-bit floating point.** The digits of a literal are taken as a whole
number as long as it stays below `2 ^ 64`; the digits that do not fit count as zeros. That number is
rounded, then multiplied or divided by the power of ten that the point and the exponent ask for, and
rounded again. So the result may differ by a unit or two from the number that is nearest to the
literal, and a literal near the end of the range may be too great although a number is near.
-/

namespace DeviceAuth.Json.Number

/-- The least number that does not fit a word of 64 bits. -/
def wordEnd : Nat := 18446744073709551616

/-- A number with the digits appended that fit, and the digits that do not. -/
def appendDigits (significand : Nat) : List Nat → Nat × List Nat
  | [] => (significand, [])
  | digit :: rest =>
    if 10 * significand + digit < wordEnd then appendDigits (10 * significand + digit) rest
    else (significand, digit :: rest)

/-- The decimal digits of a natural number. -/
def digitsOf (value : Nat) : List Nat :=
  Text.digitValues (Nat.toDigits 10 value)

/-- The whole number and the exponent of ten of a literal with these digits. -/
def significand (whole fraction : List Nat) (exponent : Int) : Nat × Int :=
  let (value, surplus) := appendDigits 0 whole
  let (value, unread) := appendDigits value fraction
  (value, exponent + surplus.length - (fraction.length - unread.length : Nat))

/-- The greatest power of ten that is a number of the format. -/
def greatestTen : Nat := 308

/-- A magnitude times a power of ten; `none` if that is too great. One division is not enough for
the least exponents. -/
def shiftTens? (magnitude : Magnitude) (exponent : Int) : Option Magnitude :=
  let tenTo (exponent : Nat) : Magnitude := BinaryFormat.double.tenTo exponent
  if magnitude.isZero then some magnitude
  else if greatestTen < exponent then none
  else if 0 ≤ exponent then
    match BinaryFormat.double.times magnitude (tenTo exponent.toNat) with
    | .infinite => none
    | product => some product
  else if -greatestTen ≤ exponent then
    some (BinaryFormat.double.dividedBy magnitude (tenTo (-exponent).toNat))
  else
    shiftTens? (BinaryFormat.double.dividedBy magnitude (tenTo greatestTen))
      (exponent + greatestTen)
termination_by (-exponent).toNat
decreasing_by simp only [greatestTen] at *; omega

/-- Whether a number has a minus. -/
def isNegative : Number → Bool
  | integer value => value < 0
  | scientific negative _ _ _ => negative

/-- The magnitude of a number in 64-bit floating point; `none` if it is too great. -/
def magnitude? (number : Number) : Option Magnitude :=
  let (value, exponent) := match number with
    | integer value => significand (digitsOf value.natAbs) [] 0
    | scientific _ whole fraction exponent => significand whole fraction exponent
  shiftTens? (BinaryFormat.double.ofNat value) exponent

end DeviceAuth.Json.Number
