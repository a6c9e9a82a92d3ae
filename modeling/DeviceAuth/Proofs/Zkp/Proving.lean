import DeviceAuth.Proofs.DeviceId
import DeviceAuth.Proofs.Field.WordText
import DeviceAuth.Proofs.Sequence
import DeviceAuth.Zkp.Prover

/-!
**What an honest device proves.** A canonical secret and an id of 1 to 31 bytes have a commitment
(`exists_commitmentOf`). With the secret that opens its commitment a device can prove for every
canonical challenge, and it proves the values that the challenge, the id and the commitment give
(`ProvingInputs.proves_of_opens`).
-/

namespace DeviceAuth

open Word256

variable {secret commitment : Word256} {deviceId : String}

/-- **Every canonical secret has a commitment** for every id that can be encoded. -/
theorem exists_commitmentOf (canonical : secret.IsCanonical)
    (filled : 0 < (Bytes.ofText deviceId).length)
    (short : (Bytes.ofText deviceId).length ≤ DeviceId.maximumLength) :
    ∃ commitment, commitmentOf secret deviceId = .ok commitment := by
  obtain ⟨opening, rfl⟩ := exists_ofScalar canonical
  obtain ⟨word, encoded⟩ := DeviceId.exists_encode_iff.2 ⟨filled, short⟩
  obtain ⟨device, rfl⟩ := exists_ofScalar (DeviceId.canonical_of_encode encoded)
  refine ⟨ofScalar (Mimc.hash [opening, device]), ?_⟩
  rw [commitmentOf, encoded]
  simp only [bind, Except.bind, Mimc.hashWords, toScalar_ofScalar]
  rfl

/-- What a commitment says of the secret and the id that it is for. -/
theorem of_commitmentOf (opens : commitmentOf secret deviceId = .ok commitment) :
    ∃ opening device, secret = ofScalar opening ∧ DeviceId.encode deviceId = .ok (ofScalar device) ∧
      commitment = ofScalar (Mimc.hash [opening, device]) := by
  obtain ⟨word, encoded, opens⟩ := Except.of_bind_eq_ok opens
  obtain ⟨device, rfl⟩ := exists_ofScalar (DeviceId.canonical_of_encode encoded)
  obtain ⟨opening, openingRead, opens⟩ := Except.of_bind_eq_ok opens
  rw [toScalar_ofScalar] at opens
  cases opens
  exact ⟨opening, device, of_toScalar openingRead, encoded, rfl⟩

/-- The commitment that a secret opens is canonical. -/
theorem isCanonical_of_commitmentOf (opens : commitmentOf secret deviceId = .ok commitment) :
    commitment.IsCanonical := by
  obtain ⟨opening, device, _, _, rfl⟩ := of_commitmentOf opens
  exact isCanonical_ofScalar _

/-- A response is canonical. -/
theorem isCanonical_of_responseTo {challenge response : Word256}
    (answers : responseTo secret challenge = .ok response) : response.IsCanonical := by
  obtain ⟨_, _, answers⟩ := Except.of_bind_eq_ok answers
  obtain ⟨_, _, answers⟩ := Except.of_bind_eq_ok answers
  cases answers
  exact isCanonical_ofScalar _

/-- The task of a device that opens its commitment. -/
theorem ProvingInputs.toTask_eq {opening device nonce digest : Scalar}
    (encoded : DeviceId.encode deviceId = .ok (ofScalar device))
    (opens : Mimc.hash [opening, device] = digest) :
    toTask ⟨ofScalar opening, deviceId, ofScalar nonce, ofScalar digest⟩ =
      .ok ⟨opening, ⟨device, nonce, digest, Mimc.hash [opening, nonce]⟩,
        ⟨ofScalar device, ofScalar nonce, ofScalar digest,
          ofScalar (Mimc.hash [opening, nonce])⟩⟩ := by
  simp only [toTask, encoded, bind, Except.bind, toScalar_ofScalar, opens, ne_eq, not_true,
    if_false, pure, Except.pure]

/-- What a prover with a key hands out for inputs that are accepted. -/
theorem Prover.prove_eq {key : Groth16.ProvingKey} {inputs : ProvingInputs} {task : ProofTask}
    {blinding : Groth16.Blinding} (accepted : inputs.toTask = .ok task) :
    (Prover.mk (some key)).prove inputs blinding =
      .ok ⟨(Groth16.prove key Circuit.authentication
        (Circuit.authenticationValues task.secret task.statement) blinding).encode,
        task.publicValues⟩ := by
  simp only [Prover.prove, accepted, Circuit.Inputs.values_assigned, Except.mapError, bind,
    Except.bind, pure, Except.pure]

/-- Every prover with a key makes a proof for these inputs, and for these public values. -/
def ProvingInputs.Proves (inputs : ProvingInputs) (values : PublicValues) : Prop :=
  ∀ key blinding, ∃ proof, (Prover.mk (some key)).prove inputs blinding = .ok ⟨proof, values⟩

theorem ProvingInputs.proves_of_toTask {inputs : ProvingInputs} {task : ProofTask}
    (accepted : inputs.toTask = .ok task) : inputs.Proves task.publicValues :=
  fun _ _ => ⟨_, Prover.prove_eq accepted⟩

/-- **A device that opens its commitment proves for every challenge.** -/
theorem ProvingInputs.proves_of_opens {inputs : ProvingInputs}
    (opens : commitmentOf inputs.secret inputs.deviceId = .ok inputs.commitment)
    (canonical : inputs.challenge.IsCanonical) :
    ∃ word response, DeviceId.encode inputs.deviceId = .ok word ∧
      responseTo inputs.secret inputs.challenge = .ok response ∧
      inputs.Proves ⟨word, inputs.challenge, inputs.commitment, response⟩ := by
  obtain ⟨secret, deviceId, challenge, commitment⟩ := inputs
  obtain ⟨opening, device, rfl, encoded, rfl⟩ := of_commitmentOf opens
  obtain ⟨nonce, rfl⟩ := exists_ofScalar canonical
  refine ⟨ofScalar device, ofScalar (Mimc.hash [opening, nonce]), encoded, ?_,
    proves_of_toTask (toTask_eq encoded rfl)⟩
  simp only [responseTo, Mimc.hashWords, toScalar_ofScalar]
  rfl

end DeviceAuth
