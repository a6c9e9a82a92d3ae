import DeviceAuth.Field.Word256
import DeviceAuth.Hash.Blake3

/-!
**MiMC over the scalar field.** `encrypt` is a keyed permutation of 110 rounds with exponent five,
`hash` absorbs one block after the other: the state `h` becomes `encrypt h m + h + m`, starting from
zero. The round constants are drawn from a hash under a fixed context, 64 bytes for each so that
their reduction is nearly unbiased.
-/

namespace DeviceAuth.Mimc

/-- The count of rounds. -/
def roundCount : Nat := 110

/-- The constants added in the rounds, in order. -/
def roundConstants : List Scalar :=
  let stream := Blake3.deriveKey "edgeguard mimc-bn254 round constants v1"
    (Bytes.ofNatLE 8 roundCount) (64 * roundCount)
  (List.range roundCount).map fun round =>
    Scalar.ofNat (Bytes.toNatLE ((stream.drop (64 * round)).take 64))

/-- The fifth power. -/
def fifthPower (base : Scalar) : Scalar :=
  let square := base * base
  let fourth := square * square
  fourth * base

/-- The rounds with these constants. -/
def permute (key : Scalar) (constants : List Scalar) (message : Scalar) : Scalar :=
  constants.foldl (fun state constant => fifthPower (state + key + constant)) message

/-- The keyed permutation. -/
def encrypt (key message : Scalar) : Scalar :=
  permute key roundConstants message + key

/-- Takes one block into the state. -/
def absorb (state block : Scalar) : Scalar :=
  encrypt state block + state + block

/-- The hash of a list of blocks. -/
def hash (blocks : List Scalar) : Scalar :=
  blocks.foldl absorb 0

/-- The hash of two words, both of which must be canonical. -/
def hashWords (first second : Word256) : Except ZkpError Word256 := do
  let first ← first.toScalar
  let second ← second.toScalar
  return Word256.ofScalar (hash [first, second])

/-- There is one constant for each round. -/
theorem length_roundConstants : roundConstants.length = roundCount := by
  simp [roundConstants]

end DeviceAuth.Mimc
