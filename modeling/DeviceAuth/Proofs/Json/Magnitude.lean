import Mathlib.Tactic.SplitIfs
import DeviceAuth.Json.Record

/-!
**Integers of 64 bits can be kept.** A value that is kept before it is read must have numbers in
64-bit floating point. An integer below `2 ^ 64` is taken whole, and its magnitude stays far below
the end of the range: rounding moves a number by less than a factor of two.
-/

namespace DeviceAuth

namespace BinaryFormat

variable {format : BinaryFormat} {numerator denominator : Nat}

/-- In the unit that is rounded to, a quotient has at most one digit more than the format. -/
theorem scaled_quotient_lt (divides : denominator ≠ 0) {exponent : Int}
    (unit : (numerator.log2 : Int) - denominator.log2 - format.digits ≤ exponent) :
    (Magnitude.scaled numerator denominator (-exponent)).1
      / (Magnitude.scaled numerator denominator (-exponent)).2
        < Nat.pow 2 (format.digits + 1) := by
  have top : numerator < 2 ^ (numerator.log2 + 1) := Nat.lt_log2_self
  have bottom : 2 ^ denominator.log2 ≤ denominator := Nat.log2_self_le divides
  simp only [Magnitude.scaled, Int.neg_neg, Nat.shiftLeft_eq, Nat.pow_eq]
  rw [Nat.div_lt_iff_lt_mul (Nat.mul_pos (Nat.pos_of_ne_zero divides) (Nat.two_pow_pos _))]
  calc numerator * 2 ^ (-exponent).toNat
      < 2 ^ (numerator.log2 + 1) * 2 ^ (-exponent).toNat :=
        Nat.mul_lt_mul_of_pos_right top (Nat.two_pow_pos _)
    _ = 2 ^ (numerator.log2 + 1 + (-exponent).toNat) := (Nat.pow_add ..).symm
    _ ≤ 2 ^ (format.digits + 1 + (denominator.log2 + exponent.toNat)) :=
        Nat.pow_le_pow_right (by decide) (by omega)
    _ = 2 ^ (format.digits + 1) * (2 ^ denominator.log2 * 2 ^ exponent.toNat) := by
        rw [Nat.pow_add 2 (format.digits + 1), Nat.pow_add 2 denominator.log2]
    _ ≤ 2 ^ (format.digits + 1) * (denominator * 2 ^ exponent.toNat) :=
        Nat.mul_le_mul_left _ (Nat.mul_le_mul_right _ bottom)

theorem nearestEven_le (numerator denominator : Nat) :
    nearestEven numerator denominator ≤ numerator / denominator + 1 := by
  unfold nearestEven
  dsimp only
  split <;> omega

/-- The exponent below which the digits of a rounded quotient stay. -/
def exponentBound (format : BinaryFormat) (numerator denominator : Nat) : Int :=
  format.digits + 2 +
    max format.leastExponent ((numerator.log2 : Int) - denominator.log2 - format.digits + 1)

/-- A quotient that is not too great is rounded to a number that is hardly greater. -/
theorem exists_round (positive : numerator ≠ 0) (divides : denominator ≠ 0)
    (small : format.exponentBound numerator denominator ≤ format.endExponent) :
    ∃ mantissa exponent, format.round numerator denominator = .finite mantissa exponent ∧
      mantissa.log2 + exponent < format.exponentBound numerator denominator := by
  obtain ⟨exponent, unit⟩ : ∃ exponent, format.unitExponent numerator denominator = exponent :=
    ⟨_, rfl⟩
  have low : (numerator.log2 : Int) - denominator.log2 - format.digits ≤ exponent ∧
      exponent ≤ max format.leastExponent
        ((numerator.log2 : Int) - denominator.log2 - format.digits + 1) := by
    rw [← unit]
    unfold unitExponent
    dsimp only
    split <;> omega
  have quotient := scaled_quotient_lt divides low.1
  have rounded := nearestEven_le (Magnitude.scaled numerator denominator (-exponent)).1
    (Magnitude.scaled numerator denominator (-exponent)).2
  obtain ⟨mantissa, nearest⟩ : ∃ mantissa,
      nearestEven (Magnitude.scaled numerator denominator (-exponent)).1
        (Magnitude.scaled numerator denominator (-exponent)).2 = mantissa := ⟨_, rfl⟩
  have digits : mantissa.log2 < format.digits + 2 := by
    rcases Nat.eq_zero_or_pos mantissa with rfl | some
    · simp
    · rw [Nat.pow_eq] at quotient
      rw [Nat.log2_lt (by omega), Nat.pow_succ]
      omega
  have finite : ¬ format.endExponent ≤ mantissa.log2 + exponent := by
    unfold exponentBound at small
    omega
  refine ⟨mantissa, exponent, ?_, by unfold exponentBound; omega⟩
  simp only [round, if_neg positive, unit, nearest, if_neg finite]

end BinaryFormat

namespace Json.Number

open BinaryFormat

theorem le_foldl_digits (digits : List Nat) (value : Nat) :
    value ≤ digits.foldl (fun value digit => 10 * value + digit) value := by
  induction digits generalizing value with
  | nil => exact Nat.le_refl _
  | cons digit digits ih =>
    have later := ih (10 * value + digit)
    rw [List.foldl_cons]
    omega

/-- All digits are taken of a number that fits a word. -/
theorem appendDigits_eq {digits : List Nat} {value : Nat}
    (fits : digits.foldl (fun value digit => 10 * value + digit) value < wordEnd) :
    appendDigits value digits =
      (digits.foldl (fun value digit => 10 * value + digit) value, []) := by
  induction digits generalizing value with
  | nil => rfl
  | cons digit digits ih =>
    rw [List.foldl_cons] at fits ⊢
    have room := Nat.lt_of_le_of_lt (le_foldl_digits digits (10 * value + digit)) fits
    rw [appendDigits, if_pos room, ih fits]

theorem foldl_digitsOf (value : Nat) :
    (digitsOf value).foldl (fun value digit => 10 * value + digit) 0 = value :=
  Text.decimal_toDigits value

theorem significand_digitsOf {value : Nat} (fits : value < wordEnd) :
    significand (digitsOf value) [] 0 = (value, 0) := by
  have taken : appendDigits 0 (digitsOf value) = _ := appendDigits_eq (by rwa [foldl_digitsOf])
  rw [foldl_digitsOf] at taken
  simp [significand, taken, appendDigits]

/-- A number of 64 bits is far from the end of the range. -/
theorem exists_ofNat {value : Nat} (positive : value ≠ 0) (fits : value < wordEnd) :
    ∃ mantissa exponent, double.ofNat value = .finite mantissa exponent ∧
      mantissa.log2 + exponent < 67 := by
  have digits : value.log2 < 64 := (Nat.log2_lt positive).mpr fits
  have bound : double.exponentBound value 1 ≤ 67 := by
    simp only [exponentBound, double, show Nat.log2 1 = 0 by decide]
    omega
  have inRange : double.exponentBound value 1 ≤ double.endExponent := by
    simp only [double] at bound ⊢
    omega
  obtain ⟨mantissa, exponent, rounded, small⟩ := exists_round positive Nat.one_ne_zero inRange
  exact ⟨mantissa, exponent, rounded, by omega⟩

theorem shiftLeft_ne_zero {value : Nat} (positive : value ≠ 0) (count : Nat) :
    value <<< count ≠ 0 := by
  rw [Nat.shiftLeft_eq]
  exact Nat.mul_ne_zero positive (Nat.ne_of_gt (Nat.two_pow_pos count))

theorem log2_shiftLeft {value : Nat} (positive : value ≠ 0) (count : Nat) :
    (value <<< count).log2 = value.log2 + count := by
  have low := Nat.mul_le_mul_right (2 ^ count) (Nat.log2_self_le positive)
  have high := Nat.mul_lt_mul_of_pos_right (Nat.lt_log2_self (n := value)) (Nat.two_pow_pos count)
  rw [← Nat.pow_add] at low high
  rw [Nat.log2_eq_iff (shiftLeft_ne_zero positive count), Nat.shiftLeft_eq]
  exact ⟨low, by rwa [Nat.add_right_comm]⟩

/-- Multiplying by one leaves a number in the range. -/
theorem times_one_ne_infinite {mantissa : Nat} {exponent : Int}
    (small : mantissa.log2 + exponent < 67) :
    double.times (.finite mantissa exponent) (double.tenTo 0) ≠ .infinite := by
  have one : double.tenTo 0 = .finite (1 <<< 52) (-52) := by decide +kernel
  have product : mantissa * 1 <<< 52 = mantissa <<< 52 := by
    simp only [Nat.shiftLeft_eq, Nat.one_mul]
  rw [one, times, roundScaled, Magnitude.scaled, product]
  dsimp only
  rcases Nat.eq_zero_or_pos mantissa with rfl | positive
  · simp [BinaryFormat.round]
  have shifted := shiftLeft_ne_zero (Nat.ne_of_gt positive) 52
  have digits : double.exponentBound (mantissa <<< 52 <<< (exponent + -52).toNat)
      (1 <<< (-(exponent + -52)).toNat) ≤ 1024 := by
    rw [exponentBound, log2_shiftLeft shifted, log2_shiftLeft (Nat.ne_of_gt positive),
      log2_shiftLeft Nat.one_ne_zero, show Nat.log2 1 = 0 by decide]
    simp only [double]
    omega
  obtain ⟨_, _, rounded, -⟩ := exists_round (shiftLeft_ne_zero shifted _)
    (shiftLeft_ne_zero Nat.one_ne_zero _) digits
  rw [rounded]
  exact nofun

theorem shiftTens?_zero (magnitude : Magnitude) :
    shiftTens? magnitude 0 = if magnitude.isZero then some magnitude
      else match double.times magnitude (double.tenTo 0) with
        | .infinite => none
        | product => some product := by
  rw [shiftTens?, if_neg (by decide : ¬ (greatestTen : Int) < 0), if_pos (Int.le_refl 0)]
  rfl

theorem isZero_ofNat_zero : (double.ofNat 0).isZero = true := rfl

/-- **An integer of 64 bits has a magnitude.** -/
theorem isSome_magnitude? {value : Int} (fits : value.natAbs < wordEnd) :
    (magnitude? (.integer value)).isSome = true := by
  simp only [magnitude?, significand_digitsOf fits, shiftTens?_zero]
  split
  · rfl
  · next other =>
    have positive : value.natAbs ≠ 0 := fun none => other (none ▸ isZero_ofNat_zero)
    obtain ⟨mantissa, exponent, shape, small⟩ := exists_ofNat positive fits
    rw [shape]
    split
    · next infinite => exact absurd infinite (times_one_ne_infinite small)
    · rfl

end Json.Number

end DeviceAuth
