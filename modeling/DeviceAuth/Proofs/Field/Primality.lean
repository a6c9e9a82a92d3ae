import DeviceAuth.Field.Basic
import Mathlib.FieldTheory.Finite.Basic
import Mathlib.NumberTheory.LucasPrimality
import Mathlib.Tactic.NormNum.Prime

/-!
**The order of the scalar field is prime.**

* `val_power`: powers by doubling are powers modulo the order, whatever the order is.
* `Generates.prime` is Lucas's test: a number is prime if some element has the number less one as
  its order. That takes the powers of this element to the number less one and to its quotients by
  each of its prime factors, and these powers are computed by doubling.
* `prime_scalarModulus`: the order passes the test. The large factors of the order less one are
  shown to be prime in the same way, the small ones by trial division.
* `pow_of_mod_eq_one`: an exponent that is one modulo the order less one changes no element.
-/

namespace DeviceAuth

/-! ### Powers by doubling -/

section Power

variable {modulus : Nat}

/-- The result is at each digit the power to the number of the digits so far. -/
theorem val_foldl_digits (base : Fin modulus) (digits : List Bool) (number : Nat)
    (result : Fin modulus) (reached : result.val = base.val ^ number % modulus) :
    (digits.foldl
      (fun result digit =>
        let square := result * result
        if digit then square * base else square) result).val =
      base.val ^ digits.foldl (fun number digit => 2 * number + digit.toNat) number % modulus := by
  induction digits generalizing number result with
  | nil => exact reached
  | cons digit rest ih =>
    have square : (result * result).val = base.val ^ (2 * number) % modulus := by
      rw [Fin.val_mul, reached, ← Nat.mul_mod, ← pow_add, ← two_mul]
    refine ih (2 * number + digit.toNat) _ ?_
    cases digit with
    | false => exact square
    | true =>
      change (result * result * base).val = base.val ^ (2 * number + 1) % modulus
      rw [Fin.val_mul, square, Nat.mod_mul_mod, ← pow_succ]

variable [NeZero modulus]

/-- **Powers by doubling are powers.** -/
theorem val_power (base : Fin modulus) (exponent : Nat) :
    (power 1 base exponent).val = base.val ^ exponent % modulus := by
  have reached : (1 : Fin modulus).val = base.val ^ 0 % modulus := by
    rw [pow_zero, Fin.val_one']
  have digits := val_foldl_digits base (binary exponent) 0 1 reached
  change _ = base.val ^ ofBinary (binary exponent) % modulus at digits
  rwa [ofBinary_binary] at digits

theorem power_eq_one_iff (base : Fin modulus) (exponent : Nat) :
    power 1 base exponent = 1 ↔ (base.val : ZMod modulus) ^ exponent = 1 := by
  have one : (base.val : ZMod modulus) ^ exponent = 1 ↔
      base.val ^ exponent % modulus = 1 % modulus := by
    rw [← ZMod.natCast_eq_natCast_iff', Nat.cast_pow, Nat.cast_one]
  rw [one, Fin.ext_iff, val_power, Fin.val_one']

end Power

/-! ### Lucas's test -/

/-- An element of order `number - 1` modulo a number, by the factors of `number - 1`, each with its
exponent. -/
structure Generates {number : Nat} [NeZero number] (generator : Fin number)
    (factors : List (Nat × Nat)) : Prop where
  product : (factors.map fun factor => factor.1 ^ factor.2).prod = number - 1
  full : power 1 generator (number - 1) = 1
  proper : ∀ factor ∈ factors, power 1 generator ((number - 1) / factor.1) ≠ 1

instance {number : Nat} [NeZero number] (generator : Fin number) (factors : List (Nat × Nat)) :
    Decidable (Generates generator factors) :=
  decidable_of_iff
    ((factors.map fun factor => factor.1 ^ factor.2).prod = number - 1 ∧
      power 1 generator (number - 1) = 1 ∧
      ∀ factor ∈ factors, power 1 generator ((number - 1) / factor.1) ≠ 1)
    ⟨fun ⟨product, full, proper⟩ => ⟨product, full, proper⟩,
      fun ⟨product, full, proper⟩ => ⟨product, full, proper⟩⟩

/-- **Lucas's test:** a number with an element of this order is prime, if the factors are. -/
theorem Generates.prime {number : Nat} [NeZero number] {generator : Fin number}
    {factors : List (Nat × Nat)} (generates : Generates generator factors)
    (primes : ∀ factor ∈ factors, factor.1.Prime) : number.Prime := by
  refine lucas_primality number (generator.val : ZMod number) ?_ fun divisor prime divides => ?_
  · exact (power_eq_one_iff generator _).mp generates.full
  · rw [← generates.product] at divides
    obtain ⟨part, listed, divides⟩ := prime.prime.dvd_prod_iff.mp divides
    obtain ⟨factor, member, rfl⟩ := List.mem_map.mp listed
    have same : divisor = factor.1 :=
      (Nat.prime_dvd_prime_iff_eq prime (primes factor member)).mp (prime.dvd_of_dvd_pow divides)
    rw [same, Ne, ← power_eq_one_iff]
    exact generates.proper factor member

/-! ### The order -/

theorem prime_405928799 : Nat.Prime 405928799 :=
  (by decide +kernel :
    Generates (22 : Fin 405928799) [(2, 1), (11, 1), (3691, 1), (4999, 1)]).prime (by norm_num)

theorem prime_639533339 : Nat.Prime 639533339 :=
  (by decide +kernel :
    Generates (2 : Fin 639533339) [(2, 1), (229, 1), (853, 1), (1637, 1)]).prime (by norm_num)

theorem prime_12048837557 : Nat.Prime 12048837557 :=
  (by decide +kernel :
    Generates (2 : Fin 12048837557) [(2, 2), (7, 2), (661, 1), (93001, 1)]).prime (by norm_num)

theorem prime_5156902474397 : Nat.Prime 5156902474397 :=
  (by decide +kernel :
    Generates (2 : Fin 5156902474397) [(2, 2), (107, 1), (12048837557, 1)]).prime (by
      simp only [List.forall_mem_cons, prime_12048837557]
      norm_num)

theorem prime_1670836401704629 : Nat.Prime 1670836401704629 :=
  (by decide +kernel :
    Generates (2 : Fin 1670836401704629) [(2, 2), (3, 4), (5156902474397, 1)]).prime (by
      simp only [List.forall_mem_cons, prime_5156902474397]
      norm_num)

theorem prime_65865678001877903 : Nat.Prime 65865678001877903 :=
  (by decide +kernel :
    Generates (5 : Fin 65865678001877903)
      [(2, 1), (83, 1), (379, 1), (1637, 1), (639533339, 1)]).prime (by
      simp only [List.forall_mem_cons, prime_639533339]
      norm_num)

theorem prime_13818364434197438864469338081 : Nat.Prime 13818364434197438864469338081 :=
  (by decide +kernel :
    Generates (3 : Fin 13818364434197438864469338081)
      [(2, 5), (5, 1), (823, 1), (1593227, 1), (65865678001877903, 1)]).prime (by
      simp only [List.forall_mem_cons, prime_65865678001877903]
      norm_num)

/-- **The order of the scalar field is prime.** -/
theorem prime_scalarModulus : scalarModulus.Prime :=
  (by decide +kernel :
    Generates (5 : Scalar)
      [(2, 28), (3, 2), (13, 1), (29, 1), (983, 1), (11003, 1), (237073, 1), (405928799, 1),
        (1670836401704629, 1), (13818364434197438864469338081, 1)]).prime (by
      simp only [List.forall_mem_cons, prime_405928799, prime_1670836401704629,
        prime_13818364434197438864469338081]
      norm_num)

/-- **Fermat's little theorem:** an exponent that is one modulo the order less one changes no
element. -/
theorem pow_of_mod_eq_one (element : Scalar) {exponent : Nat}
    (one : exponent % (scalarModulus - 1) = 1) :
    element.val ^ exponent % scalarModulus = element.val := by
  obtain ⟨cycles, rfl⟩ : ∃ cycles, exponent = 1 + (scalarModulus - 1) * cycles :=
    ⟨exponent / (scalarModulus - 1), (Nat.mod_add_div exponent _).symm.trans (by rw [one])⟩
  rcases Nat.eq_zero_or_pos element.val with zero | positive
  · rw [zero, zero_pow (by omega), Nat.zero_mod]
  · have coprime : element.val.Coprime scalarModulus :=
      (Nat.coprime_of_lt_prime positive.ne' element.isLt prime_scalarModulus).symm
    have cycle : element.val ^ (scalarModulus - 1) ≡ 1 [MOD scalarModulus] := by
      rw [← Nat.totient_prime prime_scalarModulus]
      exact Nat.ModEq.pow_totient coprime
    have all : element.val ^ (1 + (scalarModulus - 1) * cycles) ≡ element.val [MOD scalarModulus] :=
      calc element.val ^ (1 + (scalarModulus - 1) * cycles)
          = element.val * (element.val ^ (scalarModulus - 1)) ^ cycles := by
            rw [pow_add, pow_one, pow_mul]
        _ ≡ element.val * 1 ^ cycles [MOD scalarModulus] := (cycle.pow cycles).mul_left _
        _ = element.val := by rw [one_pow, mul_one]
    rw [all, Nat.mod_eq_of_lt element.isLt]

end DeviceAuth
