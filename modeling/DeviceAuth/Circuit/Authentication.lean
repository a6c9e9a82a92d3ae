import DeviceAuth.Circuit.Basic
import DeviceAuth.Mimc

/-!
**The circuit of the authentication statement.** The public variables are the device id, the
challenge, the commitment and the response, in this order; the hidden input is the secret of the
device. The constraints say that the commitment is the hash of secret and device id, and that the
response is the hash of secret and challenge.

Keys are made from the constraints alone. For a proof the variables need values, and they have some
only if every input is known (`Inputs.values`).
-/

namespace DeviceAuth.Circuit

/-- One round of the permutation. -/
def permutationRound (key : Combination) (state : Combination × Draft) (constant : Scalar) :
    Combination × Draft :=
  let base := (state.1.add key).add (Combination.ofScalar constant)
  let (square, draft) := state.2.multiply base base
  let (fourth, draft) := draft.multiply square square
  draft.multiply fourth base

/-- The keyed permutation: three products for each round. -/
def permutation (key message : Combination) (draft : Draft) : Combination × Draft :=
  let (last, draft) := Mimc.roundConstants.foldl (permutationRound key) (message, draft)
  (last.add key, draft)

/-- Takes one block into the state. -/
def absorb (state : Combination × Draft) (block : Combination) : Combination × Draft :=
  let (permuted, draft) := permutation state.1 block state.2
  ((permuted.add state.1).add block, draft)

/-- The hash of a list of blocks. -/
def hashOf (blocks : List Combination) (draft : Draft) : Combination × Draft :=
  blocks.foldl absorb ([], draft)

/-- The public variables of the authentication statement. -/
structure Statement where
  deviceId : Scalar
  challenge : Scalar
  commitment : Scalar
  response : Scalar
  deriving DecidableEq, Repr

/-- The values of the public variables, in order. -/
def Statement.toList (statement : Statement) : List Scalar :=
  [statement.deviceId, statement.challenge, statement.commitment, statement.response]

/-- The count of public variables. -/
def publicCount : Nat := 4

/-- The circuit of the authentication statement. -/
def authentication : Draft :=
  let deviceId := Combination.ofWire (.shared 0)
  let challenge := Combination.ofWire (.shared 1)
  let commitment := Combination.ofWire (.shared 2)
  let response := Combination.ofWire (.shared 3)
  let secret := Combination.ofWire (.hidden 0)
  let draft := Draft.start publicCount 1
  let (computedCommitment, draft) := hashOf [secret, deviceId] draft
  let draft := draft.equate computedCommitment commitment
  let (computedResponse, draft) := hashOf [secret, challenge] draft
  draft.equate computedResponse response

/-- The values of all variables, from the secret and the public ones. -/
def authenticationValues (secret : Scalar) (statement : Statement) : Values :=
  (Values.mk statement.toList.toArray #[secret]).complete authentication

/-! ### Inputs that may be missing -/

/-- Why the variables have no values. -/
inductive SynthesisError where
  /-- An input is not known. -/
  | assignmentMissing
  deriving DecidableEq, Repr

/-- The wording of an error. -/
def SynthesisError.message : SynthesisError → String
  | assignmentMissing => "an assignment for a variable could not be computed"

/-- The inputs of the circuit, as far as they are known. -/
structure Inputs where
  deviceId : Option Scalar
  challenge : Option Scalar
  commitment : Option Scalar
  response : Option Scalar
  secret : Option Scalar
  deriving DecidableEq, Repr

namespace Inputs

/-- The inputs of a proof, which are all known. -/
def assigned (secret : Scalar) (statement : Statement) : Inputs where
  deviceId := statement.deviceId
  challenge := statement.challenge
  commitment := statement.commitment
  response := statement.response
  secret := secret

/-- The value of an input. -/
def known : Option Scalar → Except SynthesisError Scalar
  | some value => .ok value
  | none => .error .assignmentMissing

/-- The values of all variables, from inputs that are all known. -/
def values (inputs : Inputs) : Except SynthesisError Values := do
  let deviceId ← known inputs.deviceId
  let challenge ← known inputs.challenge
  let commitment ← known inputs.commitment
  let response ← known inputs.response
  let secret ← known inputs.secret
  return authenticationValues secret { deviceId, challenge, commitment, response }

/-- The inputs of a proof have the values of its secret and its statement. -/
@[simp] theorem values_assigned (secret : Scalar) (statement : Statement) :
    (assigned secret statement).values = .ok (authenticationValues secret statement) := rfl

end Inputs

end DeviceAuth.Circuit
