import DeviceAuth.Auth.Service
import DeviceAuth.Proofs.Auth.Refusals
import DeviceAuth.Proofs.Sequence

/-!
**Why a verification fails.** If the clock is not at its end, a verification fails for a cause that
counts against the device, for what its checker refuses, or because a store fails.

* `Service.countsAgainstDevice_of_checkValues`: values that are not those of the challenge and the
  device are held against the device.
* `Service.failsOnly_submitProof`, `Service.failsOnly_submit`: any set of failures that has these
  causes is all that a verification can end with.
-/

namespace DeviceAuth

open Operation

/-! ### Causes that count -/

theorem AuthError.liftZkp_eq_error {α : Type} {result : Except ZkpError α} {error : AuthError}
    (failed : liftZkp result = .error error) : ∃ cause, result = .error cause ∧
      error = .ofZkp cause := by
  rcases result with cause | value <;> cases failed
  exact ⟨cause, rfl, rfl⟩

theorem DeviceId.countsAgainstDevice_of_encode {id : String} {error : ZkpError}
    (failed : encode id = .error error) : (AuthError.ofZkp error).countsAgainstDevice = true := by
  simp only [encode] at failed
  split at failed
  · cases failed
    rfl
  split at failed <;> cases failed
  rfl

theorem ProofDocument.countsAgainstDevice_of_decodedProof {document : ProofDocument}
    {error : ZkpError} (failed : document.decodedProof = .error error) :
    (AuthError.ofZkp error).countsAgainstDevice = true := by
  unfold decodedProof at failed
  split at failed <;> cases failed
  rfl

namespace Service

theorem countsAgainstDevice_of_checkValues {challenge : Challenge} {device : Credential}
    {values : PublicValues} {error : AuthError}
    (failed : checkValues challenge device values = .error error) :
    error.countsAgainstDevice = true := by
  unfold checkValues at failed
  split at failed
  · cases failed
    rfl
  obtain failed | ⟨_, -, failed⟩ := Except.of_bind_eq_error failed
  · obtain ⟨cause, refused, rfl⟩ := AuthError.liftZkp_eq_error failed
    exact DeviceId.countsAgainstDevice_of_encode refused
  split at failed
  · cases failed
    rfl
  split at failed
  · cases failed
    rfl
  split at failed <;> cases failed
  rfl

/-! ### Failures of a verification -/

section FailsOnly

variable {service : Service} {moment end_ : Instant} {sessionId deviceId challengeId : String}
  {proof : Bytes} {values : PublicValues} {allowed : Failure → Prop}
  {presumed : (request : Request) → request.Answer → Prop}
  (tolerates : Tolerates presumed allowed)
  (shows : ∀ answer, presumed .now answer → answer = moment)
  (counted : ∀ error : AuthError, error.countsAgainstDevice = true → allowed (.refused error))

include tolerates counted in
theorem failsOnly_credentialOf (deviceId : String) :
    FailsOnly presumed allowed (credentialOf deviceId) := by
  refine .bind (.device tolerates deviceId) fun found => ?_
  rcases found with _ | credential
  · exact .refuse (counted _ rfl)
  · exact .ite (fun _ => .pure _) fun _ => .refuse (counted _ rfl)

include tolerates counted in
theorem failsOnly_openChallenge (now : Instant) :
    FailsOnly presumed allowed (openChallenge challengeId now) := by
  refine .bind (.challenge tolerates challengeId) fun found => ?_
  rcases found with _ | challenge
  · exact .refuse (counted _ rfl)
  · refine .ite (fun _ => .refuse (counted _ rfl)) fun _ => ?_
    exact .ite (fun _ => .refuse (counted _ rfl)) fun _ => .pure _

include tolerates shows in
theorem failsOnly_create {policy : SessionPolicy}
    (inRange : moment.add? policy.lifetime = some end_) :
    FailsOnly presumed allowed (policy.create sessionId deviceId) := by
  refine .now_bind shows (.bind (.later inRange) fun _ => ?_)
  exact .bind (.addSession tolerates _) fun _ => .pure _

include tolerates shows counted in
theorem failsOnly_attempt
    (checked : ∀ error, service.checker.check proof values = .error error →
      allowed (.refused (.ofZkp error)))
    (inRange : moment.add? service.sessions.lifetime = some end_) :
    FailsOnly presumed allowed
      (service.attempt sessionId deviceId challengeId proof values) := by
  refine .now_bind shows ?_
  refine .bind (failsOnly_openChallenge tolerates counted moment) fun challenge => ?_
  refine .bind (failsOnly_credentialOf tolerates counted deviceId) fun device => ?_
  refine .bind (.ofResult fun error failed =>
    counted error (countsAgainstDevice_of_checkValues failed)) fun _ => ?_
  refine .bind (.ofResult fun error failed => ?_) fun valid => ?_
  · obtain ⟨cause, refused, rfl⟩ := AuthError.liftZkp_eq_error failed
    exact checked cause refused
  refine .ite (fun _ => ?_) fun _ => .refuse (counted _ rfl)
  refine .bind (.spendChallenge tolerates challengeId) fun spent => ?_
  refine .ite (fun _ => ?_) fun _ => .refuse (counted _ rfl)
  exact .bind (.forgetFailures deviceId) fun _ => failsOnly_create tolerates shows inRange

theorem failsOnly_holdAgainst {error : AuthError} (fits : allowed (.refused error)) :
    FailsOnly presumed allowed (holdAgainst deviceId error) := by
  refine .ite (fun _ => ?_) fun _ => .refuse fits
  refine .bind (.knows deviceId) fun known => ?_
  refine .ite (fun _ => ?_) fun _ => .refuse fits
  refine .ite (fun _ => ?_) fun _ => .refuse fits
  exact .bind (.countFailure deviceId) fun _ => .refuse fits

include tolerates shows counted in
/-- **A verification fails for what counts against the device, or for what its checker refuses.** -/
theorem failsOnly_submitProof
    (checked : ∀ error, service.checker.check proof values = .error error →
      allowed (.refused (.ofZkp error)))
    (inRange : moment.add? service.sessions.lifetime = some end_) :
    FailsOnly presumed allowed
      (service.submitProof sessionId deviceId challengeId proof values) :=
  (failsOnly_attempt tolerates shows counted checked inRange).onRefusal
    fun _ => failsOnly_holdAgainst

include tolerates shows counted in
theorem failsOnly_submit {request : ProofSubmission}
    (checked : ∀ proof error,
      service.checker.check proof request.proof.publicValues = .error error →
        allowed (.refused (.ofZkp error)))
    (inRange : moment.add? service.sessions.lifetime = some end_) :
    FailsOnly presumed allowed (service.submit sessionId request) := by
  unfold submit
  split
  · exact failsOnly_submitProof tolerates shows counted (checked _) inRange
  · next failed =>
    exact failsOnly_holdAgainst
      (counted _ (ProofDocument.countsAgainstDevice_of_decodedProof failed))

end FailsOnly

end Service

end DeviceAuth
