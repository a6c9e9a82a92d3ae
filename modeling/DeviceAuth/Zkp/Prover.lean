import DeviceAuth.Groth16.Prove
import DeviceAuth.Zkp.KeyFile
import DeviceAuth.Zkp.StatedProof

/-!
**Proving on the device.** Before a proof is made, the inputs are checked: a proof for a commitment
that the secret does not open would be worthless. What the checks accept is an assignment that
satisfies the circuit.
-/

namespace DeviceAuth

/-- What a proof is made from, once the inputs have been checked. -/
structure ProofTask where
  secret : Scalar
  statement : Circuit.Statement
  publicValues : PublicValues

/-- Checks inputs and computes the response. -/
def ProvingInputs.toTask (inputs : ProvingInputs) : Except ZkpError ProofTask := do
  let deviceId ← DeviceId.encode inputs.deviceId
  let secret ← inputs.secret.toScalar
  let device ← deviceId.toScalar
  let challenge ← inputs.challenge.toScalar
  let commitment ← inputs.commitment.toScalar
  if Mimc.hash [secret, device] ≠ commitment then
    .error (.commitmentMismatch "secret does not open the enrollment commitment")
  else
    let response := Mimc.hash [secret, challenge]
    return {
      secret
      statement := { deviceId := device, challenge, commitment, response }
      publicValues := {
        deviceId
        challenge := inputs.challenge
        commitment := inputs.commitment
        response := Word256.ofScalar response } }

/-- The prover of a device, with or without its key. -/
structure Prover where
  /-- The key, once there is one. -/
  key : Option Groth16.ProvingKey

namespace Prover

/-- The prover that has no key yet. -/
def keyless : Prover := ⟨none⟩

/-- Whether there is a key. -/
def hasKey (prover : Prover) : Bool :=
  prover.key.isSome

/-- Takes the key in a file. -/
def load {δ : Type} (files : Files.Tree δ) (path : String) : Except ZkpError Prover := do
  return ⟨some (← provingKeyAt files path)⟩

/-- Makes a proof, blinded by random values. -/
def prove (prover : Prover) (inputs : ProvingInputs) (blinding : Groth16.Blinding) :
    Except ZkpError StatedProof :=
  match prover.key with
  | none => .error .notInitialized
  | some key => do
    let task ← inputs.toTask
    let values ← (Circuit.Inputs.assigned task.secret task.statement).values.mapError
      fun error => .proofGenerationFailed error.message
    let proof := Groth16.prove key Circuit.authentication values blinding
    return ⟨proof.encode, task.publicValues⟩

end Prover

end DeviceAuth
