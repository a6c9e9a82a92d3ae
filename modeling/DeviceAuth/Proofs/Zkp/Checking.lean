import DeviceAuth.Proofs.Sequence
import DeviceAuth.Zkp.Checker

/-!
**What a check can fail with.** Once a checker has a key that fits the circuit, all that can go
wrong with a check is its input: a proof that cannot be decoded, or public values that are not
canonical.

* `VerifyingKey.Fits`: the keys that fit the circuit, which are those that a checker takes
  (`Groth16Checker.checkKey_eq_ok_iff`).
* `Groth16.exists_verify`: such a key can be applied to any statement.
* `Groth16Checker.malformed_of_check`: the errors of a checker with such a key.
-/

namespace DeviceAuth

/-! ### Keys that fit the circuit -/

/-- A key with a point for each public input of the circuit, and one to start with. -/
def Groth16.VerifyingKey.Fits (key : Groth16.VerifyingKey) : Prop :=
  key.inputs.length = Circuit.publicCount + 1

instance (key : Groth16.VerifyingKey) : Decidable key.Fits :=
  inferInstanceAs (Decidable (key.inputs.length = Circuit.publicCount + 1))

namespace Groth16Checker

variable {key taken : Groth16.VerifyingKey}

theorem checkKey_of_fits (fits : key.Fits) : checkKey key = .ok key :=
  if_pos fits

/-- A key that does not fit is a key that cannot be used. -/
theorem checkKey_of_not_fits (misfit : ¬ key.Fits) :
    ∃ detail, checkKey key = .error (.keySerialization detail) :=
  ⟨_, if_neg misfit⟩

theorem checkKey_eq_ok_iff : checkKey key = .ok taken ↔ key.Fits ∧ taken = key := by
  constructor
  · intro accepted
    by_cases fits : key.Fits
    · rw [checkKey_of_fits fits] at accepted
      cases accepted
      exact ⟨fits, rfl⟩
    · obtain ⟨detail, refused⟩ := checkKey_of_not_fits fits
      rw [refused] at accepted
      cases accepted
  · rintro ⟨fits, rfl⟩
    exact checkKey_of_fits fits

end Groth16Checker

/-- A key that fits can be applied to any statement. -/
theorem Groth16.exists_verify {key : VerifyingKey} (fits : key.Fits)
    (statement : Circuit.Statement) (proof : Proof) :
    ∃ valid, verify key statement.toList proof = some valid := by
  unfold VerifyingKey.Fits at fits
  rcases points : key.inputs with _ | ⟨start, rest⟩
  · rw [points] at fits
    cases fits
  · rw [points] at fits
    have length : rest.length = statement.toList.length := Nat.succ.inj fits
    simp only [verify, points, length, if_true]
    exact ⟨_, rfl⟩

/-! ### Errors -/

/-- The input of a check is at fault: a proof or a public value that cannot be decoded. -/
inductive ZkpError.IsMalformed : ZkpError → Prop
  | proof (detail : String) : IsMalformed (.malformedProof detail)
  | value (detail : String) : IsMalformed (.invalidEncoding detail)

theorem Word256.malformed_of_toScalar {word : Word256} {error : ZkpError}
    (failed : word.toScalar = .error error) : error.IsMalformed := by
  unfold toScalar at failed
  split at failed <;> cases failed
  exact .value _

theorem PublicValues.malformed_of_toStatement {values : PublicValues} {error : ZkpError}
    (failed : values.toStatement = .error error) : error.IsMalformed := by
  obtain failed | ⟨_, -, failed⟩ := Except.of_bind_eq_error failed
  · exact Word256.malformed_of_toScalar failed
  obtain failed | ⟨_, -, failed⟩ := Except.of_bind_eq_error failed
  · exact Word256.malformed_of_toScalar failed
  obtain failed | ⟨_, -, failed⟩ := Except.of_bind_eq_error failed
  · exact Word256.malformed_of_toScalar failed
  obtain failed | ⟨_, -, failed⟩ := Except.of_bind_eq_error failed
  · exact Word256.malformed_of_toScalar failed
  cases failed

theorem malformed_of_readProof {bytes : Bytes} {error : ZkpError}
    (failed : readProof bytes = .error error) : error.IsMalformed := by
  unfold readProof at failed
  split at failed
  · cases failed
    exact .proof _
  split at failed
  · cases failed
    exact .proof _
  split at failed <;> cases failed
  exact .proof _

/-- **A checker with a key that fits fails on malformed input only.** -/
theorem Groth16Checker.malformed_of_check {key : Groth16.VerifyingKey} (fits : key.Fits)
    {proof : Bytes} {values : PublicValues} {error : ZkpError}
    (failed : (Groth16Checker.mk (some key)).check proof values = .error error) :
    error.IsMalformed := by
  obtain failed | ⟨points, -, failed⟩ := Except.of_bind_eq_error failed
  · exact malformed_of_readProof failed
  obtain failed | ⟨statement, -, failed⟩ := Except.of_bind_eq_error failed
  · exact PublicValues.malformed_of_toStatement failed
  obtain ⟨valid, answer⟩ := Groth16.exists_verify fits statement points
  rw [answer] at failed
  cases failed

theorem malformed_of_acceptNonempty {proof : Bytes} {values : PublicValues} {error : ZkpError}
    (failed : acceptNonempty proof values = .error error) : error.IsMalformed := by
  unfold acceptNonempty at failed
  split at failed
  · cases failed
    exact .proof _
  obtain failed | ⟨_, -, failed⟩ := Except.of_bind_eq_error failed
  · exact PublicValues.malformed_of_toStatement failed
  cases failed

end DeviceAuth
