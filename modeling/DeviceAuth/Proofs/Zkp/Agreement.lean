import DeviceAuth.Proofs.Circuit.Growth
import DeviceAuth.Proofs.Circuit.Statement
import DeviceAuth.Proofs.Zkp.Proving
import DeviceAuth.Zkp.Checker

/-!
**Prover, circuit and checker agree on the statement.** The four public values are listed three
times: in the order in which the circuit allots its public variables, in the public values that
travel with a proof, and in the inputs that a checker verifies against.

* `ProvingInputs.Provable`: the inputs that a proof can be made for. Exactly these become a task
  (`ProvingInputs.exists_toTask_iff`).
* `ProofTask.Agrees`: the values of the circuit satisfy it, and the public values that travel are
  read as its public variables, by every checker.
* `prover_agrees`: a prover with a key proves exactly for these inputs, with public values that
  agree, and hands out an error and no proof for all others.
-/

namespace DeviceAuth

open Word256

/-! ### The inputs that a proof can be made for -/

/-- Inputs that a proof can be made for. -/
structure ProvingInputs.Provable (inputs : ProvingInputs) : Prop where
  filled : 1 ≤ (Bytes.ofText inputs.deviceId).length
  short : (Bytes.ofText inputs.deviceId).length ≤ 31
  secret : inputs.secret.IsCanonical
  challenge : inputs.challenge.IsCanonical
  commitment : inputs.commitment.IsCanonical
  opens : commitmentOf inputs.secret inputs.deviceId = .ok inputs.commitment

namespace ProvingInputs

variable {inputs : ProvingInputs} {task : ProofTask}

/-- **What a task says of the inputs** that it was made from. -/
theorem of_toTask (accepted : inputs.toTask = .ok task) :
    ∃ opening device nonce, DeviceId.encode inputs.deviceId = .ok (ofScalar device) ∧
      inputs = ⟨ofScalar opening, inputs.deviceId, ofScalar nonce,
        ofScalar (Mimc.hash [opening, device])⟩ ∧
      task = ⟨opening,
        ⟨device, nonce, Mimc.hash [opening, device], Mimc.hash [opening, nonce]⟩,
        ⟨ofScalar device, ofScalar nonce, ofScalar (Mimc.hash [opening, device]),
          ofScalar (Mimc.hash [opening, nonce])⟩⟩ := by
  obtain ⟨secret, deviceId, challenge, commitment⟩ := inputs
  obtain ⟨word, encoded, accepted⟩ := Except.of_bind_eq_ok accepted
  obtain ⟨opening, openingRead, accepted⟩ := Except.of_bind_eq_ok accepted
  obtain ⟨device, deviceRead, accepted⟩ := Except.of_bind_eq_ok accepted
  obtain ⟨nonce, nonceRead, accepted⟩ := Except.of_bind_eq_ok accepted
  obtain ⟨digest, digestRead, accepted⟩ := Except.of_bind_eq_ok accepted
  split at accepted
  · cases accepted
  next opens =>
  cases accepted
  cases Classical.not_not.mp opens
  cases of_toScalar openingRead
  cases of_toScalar deviceRead
  cases of_toScalar nonceRead
  cases of_toScalar digestRead
  exact ⟨opening, device, nonce, encoded, rfl, rfl⟩

/-- **The checks of a prover** accept exactly the inputs that a proof can be made for. -/
theorem exists_toTask_iff : (∃ task, inputs.toTask = .ok task) ↔ inputs.Provable := by
  constructor
  · rintro ⟨task, accepted⟩
    obtain ⟨opening, device, nonce, encoded, same, -⟩ := of_toTask accepted
    obtain ⟨⟨filled, short⟩, -⟩ := DeviceId.encode_eq_ok_iff.1 encoded
    have opens : commitmentOf (ofScalar opening) inputs.deviceId =
        .ok (ofScalar (Mimc.hash [opening, device])) := by
      simp only [commitmentOf, encoded, bind, Except.bind, Mimc.hashWords, toScalar_ofScalar]
      rfl
    refine ⟨filled, short, ?_, ?_, ?_, ?_⟩ <;> rw [same]
    · exact isCanonical_ofScalar _
    · exact isCanonical_ofScalar _
    · exact isCanonical_ofScalar _
    · exact opens
  · intro provable
    obtain ⟨opening, device, secret, encoded, commitment⟩ := of_commitmentOf provable.opens
    obtain ⟨nonce, challenge⟩ := exists_ofScalar provable.challenge
    obtain ⟨_, deviceId, _, _⟩ := inputs
    cases secret
    cases commitment
    cases challenge
    exact ⟨_, toTask_eq encoded rfl⟩

/-- Inputs that no proof can be made for are refused with an error. -/
theorem toTask_eq_error (unprovable : ¬ inputs.Provable) :
    ∃ error, inputs.toTask = .error error := by
  rcases made : inputs.toTask with error | task
  · exact ⟨error, rfl⟩
  · exact absurd (exists_toTask_iff.mp ⟨task, made⟩) unprovable

end ProvingInputs

/-! ### The public variables of the circuit -/

namespace Circuit

/-- A hash adds no public variable. -/
theorem sharedCount_hashOf (blocks : List Combination) (draft : Draft) :
    (hashOf blocks draft).2.sharedCount = draft.sharedCount :=
  (grown_hashOf blocks draft).shared

/-- The values of the public variables, in order. -/
def Values.publicInputs (values : Values) : List Scalar :=
  values.shared.toList

/-- The computed values keep the public inputs. -/
theorem publicInputs_complete (secret : Scalar) (statement : Statement) (draft : Draft) :
    ((inputValues secret statement).complete draft).publicInputs = statement.toList := by
  rw [Values.publicInputs, shared_complete]
  rfl

/-- The circuit has as many public variables as a statement has values. -/
theorem sharedCount_authentication : authentication.sharedCount = publicCount := by
  simp only [authentication, Draft.equate, sharedCount_hashOf, Draft.start]

end Circuit

/-! ### One statement for all three -/

namespace ProofTask

/-- The values that the variables of the circuit are given. -/
def values (task : ProofTask) : Circuit.Values :=
  Circuit.authenticationValues task.secret task.statement

/-- The public inputs of the circuit with its values, in the order of the circuit. -/
def publicInputs (task : ProofTask) : List Scalar :=
  task.values.publicInputs

/-- A task in which the three lists of the public values are one, and for which the circuit is
satisfied. -/
structure Agrees (task : ProofTask) (inputs : ProvingInputs) : Prop where
  /-- The constraints hold. -/
  satisfied : Circuit.authentication.Satisfied task.values.assignment
  /-- There is a value for each public variable. -/
  complete : task.publicInputs.length = Circuit.authentication.sharedCount
  /-- Each public value and the secret are where the constraints look for them. -/
  assigned : task.statement.Assigned task.secret task.values.assignment
  /-- The public values that travel are read as the public inputs. -/
  read : task.publicValues.toStatement.map Circuit.Statement.toList = .ok task.publicInputs
  /-- A checker verifies against the public inputs. -/
  checked : ∀ key bytes proof, readProof bytes = .ok proof →
    (Groth16Checker.mk (some key)).check bytes task.publicValues =
      match Groth16.verify key task.publicInputs proof with
      | some valid => .ok valid
      | none => .error (.verificationFailed "malformed verifying key")
  deviceId : DeviceId.encode inputs.deviceId = .ok task.publicValues.deviceId
  challenge : task.publicValues.challenge = inputs.challenge
  commitment : task.publicValues.commitment = inputs.commitment
  response : responseTo inputs.secret inputs.challenge = .ok task.publicValues.response

/-- The public inputs are the values of the statement, in order. -/
theorem publicInputs_eq (task : ProofTask) : task.publicInputs = task.statement.toList := by
  exact Circuit.publicInputs_complete task.secret task.statement Circuit.authentication

/-- The circuit is given the values of the statement and the secret. -/
theorem assigned (task : ProofTask) :
    task.statement.Assigned task.secret task.values.assignment :=
  Circuit.assigned_complete task.secret task.statement Circuit.authentication

/-- The values of a true statement satisfy the circuit. -/
theorem satisfied_of_claims {task : ProofTask} (claims : task.statement.Claims task.secret) :
    Circuit.authentication.Satisfied task.values.assignment :=
  (Circuit.solved_authentication task.secret task.statement claims).satisfied

/-- A checker verifies against the statement that it reads. -/
theorem checked_of_read {values : PublicValues} {statement : Circuit.Statement}
    (read : values.toStatement = .ok statement) (key : Groth16.VerifyingKey) {bytes : Bytes}
    {proof : Groth16.Proof} (decoded : readProof bytes = .ok proof) :
    (Groth16Checker.mk (some key)).check bytes values =
      match Groth16.verify key statement.toList proof with
      | some valid => .ok valid
      | none => .error (.verificationFailed "malformed verifying key") := by
  unfold Groth16Checker.check
  rw [decoded, read]
  rfl

/-- **A task that was made from inputs agrees with them.** -/
theorem agrees {inputs : ProvingInputs} {task : ProofTask} (accepted : inputs.toTask = .ok task) :
    task.Agrees inputs := by
  obtain ⟨opening, device, nonce, encoded, same, made⟩ := ProvingInputs.of_toTask accepted
  have claims : task.statement.Claims task.secret := by
    simp only [made, Circuit.Statement.Claims, and_self]
  have statement : task.publicValues.toStatement = .ok task.statement := by
    simp only [made, PublicValues.toStatement, toScalar_ofScalar, bind, Except.bind, pure,
      Except.pure]
  constructor
  case satisfied => exact satisfied_of_claims claims
  case complete =>
    rw [publicInputs_eq, Circuit.sharedCount_authentication]
    rfl
  case assigned => exact assigned task
  case read => rw [publicInputs_eq, statement, Except.map]
  case checked =>
    intro key bytes proof decoded
    rw [publicInputs_eq]
    exact checked_of_read statement key decoded
  case deviceId => rw [made, encoded]
  case challenge => rw [made, same]
  case commitment => rw [made, same]
  case response =>
    rw [made, same]
    simp only [responseTo, Mimc.hashWords, toScalar_ofScalar, bind, Except.bind, pure, Except.pure]

/-- What a prover with this key hands out for a task. -/
def stated (task : ProofTask) (key : Groth16.ProvingKey) (blinding : Groth16.Blinding) :
    StatedProof :=
  ⟨(Groth16.prove key Circuit.authentication task.values blinding).encode, task.publicValues⟩

end ProofTask

/-- **Prover, circuit and checker agree on the statement.** With a key, whatever it is, proof
generation is reached exactly for the inputs that a proof can be made for. The circuit is then
satisfied, and the public values that travel are its public inputs. For all other inputs there is
an error and no proof. -/
theorem prover_agrees (key : Groth16.ProvingKey) (inputs : ProvingInputs)
    (blinding : Groth16.Blinding) :
    ((∃ task, inputs.toTask = .ok task) ↔ inputs.Provable) ∧
      (∀ task, inputs.toTask = .ok task → task.Agrees inputs ∧
        (Prover.mk (some key)).prove inputs blinding = .ok (task.stated key blinding)) ∧
      (¬ inputs.Provable → ∃ error, inputs.toTask = .error error ∧
        (Prover.mk (some key)).prove inputs blinding = .error error) := by
  refine ⟨ProvingInputs.exists_toTask_iff,
    fun task accepted => ⟨task.agrees accepted, Prover.prove_eq accepted⟩, fun unprovable => ?_⟩
  obtain ⟨error, refused⟩ := ProvingInputs.toTask_eq_error unprovable
  exact ⟨error, refused, by simp only [Prover.prove, refused, bind, Except.bind]⟩

end DeviceAuth
