/-!
**Powers by doubling, and the scalar field.** A number is read as binary digits, most significant
first; `power` squares once for each digit and multiplies where the digit is one. The elements of
the scalar field are the numbers below a prime of 254 bits, the order of the curve groups over which
proofs are made; addition and multiplication are those of numbers modulo the prime.

Main statement: the digits of a number spell it (`ofBinary_binary`).
-/

namespace DeviceAuth

/-! ### Powers -/

/-- The binary digits of a number after those given, which are its last ones. -/
def binaryAfter (number : Nat) (digits : List Bool) : List Bool :=
  if positive : number = 0 then digits
  else binaryAfter (number / 2) ((number % 2 == 1) :: digits)
termination_by number
decreasing_by omega

/-- The binary digits of a number, most significant first. -/
def binary (number : Nat) : List Bool :=
  binaryAfter number []

/-- The number with these binary digits, most significant first. -/
def ofBinary (digits : List Bool) : Nat :=
  digits.foldl (fun number digit => 2 * number + digit.toNat) 0

/-- The power of an element of a multiplicative structure. -/
@[specialize]
def power {α : Type} [Mul α] (one base : α) (exponent : Nat) : α :=
  (binary exponent).foldl
    (fun result digit =>
      let square := result * result
      if digit then square * base else square)
    one

theorem foldl_binaryAfter (number : Nat) (digits : List Bool) :
    ofBinary (binaryAfter number digits) =
      digits.foldl (fun number digit => 2 * number + digit.toNat) number := by
  fun_induction binaryAfter number digits with
  | case1 => rfl
  | case2 number digits positive ih =>
    have last : 2 * (number / 2) + (number % 2 == 1).toNat = number := by
      rcases Nat.mod_two_eq_zero_or_one number with even | odd
      · simp [even]; omega
      · simp [odd]; omega
    rw [ih, List.foldl_cons, last]

/-- The digits of a number spell it. -/
theorem ofBinary_binary (number : Nat) : ofBinary (binary number) = number := by
  simp [binary, foldl_binaryAfter]

/-! ### The scalar field -/

/-- The order of the scalar field. -/
def scalarModulus : Nat :=
  21888242871839275222246405745257275088548364400416034343698204186575808495617

instance : @NeZero Nat Zero.ofOfNat0 scalarModulus := ⟨by decide⟩

/-- An element of the scalar field. -/
abbrev Scalar := Fin scalarModulus

/-- The element congruent to a number. -/
def Scalar.ofNat (number : Nat) : Scalar :=
  Fin.ofNat scalarModulus number

/-- The inverse; zero for zero. -/
def Scalar.inverse (element : Scalar) : Scalar :=
  power 1 element (scalarModulus - 2)

end DeviceAuth
