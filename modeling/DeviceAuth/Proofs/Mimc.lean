import DeviceAuth.Mimc
import DeviceAuth.Proofs.Field.Primality

/-!
**The keyed permutation is a permutation.** For every key, each element of the field is the image of
exactly one message (`encrypt_bijective`).

Five does not divide the order of the field less one, so fifth powers have an inverse: some power
`fifthRoot` undoes the fifth power, and is undone by it. A round adds key and constant and takes the
fifth power, so it is undone by a root and two subtractions, and the rounds are undone from the last
to the first (`decrypt`). None of this depends on what the constants are.
-/

namespace DeviceAuth.Mimc

/-! ### Fifth powers and roots -/

/-- Five times this exponent is one modulo the order of the field less one. -/
def fifthRootExponent : Nat :=
  (4 * (scalarModulus - 1) + 1) / 5

/-- The fifth root. -/
def fifthRoot (element : Scalar) : Scalar :=
  power 1 element fifthRootExponent

theorem val_fifthPower (base : Scalar) :
    (fifthPower base).val = base.val ^ 5 % scalarModulus := by
  simp only [fifthPower, Fin.val_mul, Nat.mod_mul_mod, Nat.mul_mod_mod]
  congr 1
  ring

theorem mul_fifthRootExponent : 5 * fifthRootExponent % (scalarModulus - 1) = 1 := by
  decide +kernel

/-- **A fifth power has its base as its root.** -/
theorem fifthRoot_fifthPower (element : Scalar) : fifthRoot (fifthPower element) = element := by
  apply Fin.ext
  rw [fifthRoot, val_power, val_fifthPower, ← Nat.pow_mod, ← pow_mul]
  exact pow_of_mod_eq_one element mul_fifthRootExponent

/-- **Every element is a fifth power,** that of its root. -/
theorem fifthPower_fifthRoot (element : Scalar) : fifthPower (fifthRoot element) = element := by
  apply Fin.ext
  rw [val_fifthPower, fifthRoot, val_power, ← Nat.pow_mod, ← pow_mul, mul_comm]
  exact pow_of_mod_eq_one element mul_fifthRootExponent

/-! ### Rounds -/

/-- What the rounds with these constants take to an image. -/
def unpermute (key : Scalar) (constants : List Scalar) (image : Scalar) : Scalar :=
  constants.foldr (fun constant state => fifthRoot state - constant - key) image

/-- The message that the keyed permutation takes to an image. -/
def decrypt (key image : Scalar) : Scalar :=
  unpermute key roundConstants (image - key)

/-- The rounds are undone. -/
theorem unpermute_permute (key : Scalar) (constants : List Scalar) (message : Scalar) :
    unpermute key constants (permute key constants message) = message := by
  induction constants generalizing message with
  | nil => rfl
  | cons constant rest ih =>
    -- The first round is undone last.
    have later : unpermute key rest (permute key (constant :: rest) message) =
        fifthPower (message + key + constant) := ih _
    calc unpermute key (constant :: rest) (permute key (constant :: rest) message)
        = fifthRoot (unpermute key rest (permute key (constant :: rest) message))
            - constant - key := rfl
      _ = message + key + constant - constant - key := by rw [later, fifthRoot_fifthPower]
      _ = message := by grind

/-- The rounds reach every image. -/
theorem permute_unpermute (key : Scalar) (constants : List Scalar) (image : Scalar) :
    permute key constants (unpermute key constants image) = image := by
  induction constants with
  | nil => rfl
  | cons constant rest ih =>
    have first : unpermute key (constant :: rest) image + key + constant =
        fifthRoot (unpermute key rest image) := by
      change fifthRoot (unpermute key rest image) - constant - key + key + constant = _
      grind
    calc permute key (constant :: rest) (unpermute key (constant :: rest) image)
        = permute key rest (fifthPower (unpermute key (constant :: rest) image + key + constant)) :=
          rfl
      _ = permute key rest (unpermute key rest image) := by rw [first, fifthPower_fifthRoot]
      _ = image := ih

/-! ### The permutation -/

theorem decrypt_encrypt (key message : Scalar) : decrypt key (encrypt key message) = message := by
  have last : permute key roundConstants message + key - key =
      permute key roundConstants message := by grind
  rw [decrypt, encrypt, last, unpermute_permute]

theorem encrypt_decrypt (key image : Scalar) : encrypt key (decrypt key image) = image := by
  rw [encrypt, decrypt, permute_unpermute]
  grind

/-- **The keyed permutation is a permutation:** over a field of prime order, 110 rounds under any
key take different messages to different images and reach every element. -/
theorem encrypt_bijective :
    scalarModulus.Prime ∧ roundConstants.length = 110 ∧
      ∀ key, Function.Bijective (encrypt key) := by
  refine ⟨prime_scalarModulus, length_roundConstants, fun key => ?_⟩
  rw [Function.bijective_iff_has_inverse]
  exact ⟨decrypt key, decrypt_encrypt key, encrypt_decrypt key⟩

end DeviceAuth.Mimc
