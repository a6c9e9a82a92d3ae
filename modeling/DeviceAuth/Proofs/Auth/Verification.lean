import DeviceAuth.Proofs.Auth.Footprint
import DeviceAuth.Proofs.Auth.Ledger

/-!
**How a challenge is issued and how a proof is verified,** as one statement for each: what a run
answers and what it changes.

* `issueChallenge_run`: a challenge that is issued has been added to the store; otherwise nothing
  has changed.
* `examine_run`: the checks of an attempt before it looks at the proof only read.
* `attempt_run`: an attempt stops before it changes anything, or all checks pass and it goes on to
  `redeem` the challenge.
* `submitProof_run`, `submit_run`: a verification is `Verified`: refused, or it opens a session, or
  it uses the challenge up and no session can be opened. The failures of the device are forgotten
  exactly when the challenge is used up.
-/

namespace DeviceAuth

open Operation

variable {σ : Type} [RecordStore σ]

namespace Service

variable (service : Service)

/-! ### Issuing -/

/-- What issuing a challenge comes to. -/
inductive Issued (service : Service) (challengeId : String) (nonce : Word256) (deviceId : String)
    (state : State σ) : Except Failure Challenge × State σ → Prop
  | refused (failure : Failure) :
      Issued service challengeId nonce deviceId state (.error failure, state)
  | issued (device : Credential) (expiresAt : Instant) (store : σ) :
      RecordStore.device deviceId state.store = .ok (some device) → device.isActive = true →
      ¬ service.failureLimit ≤ state.counters.count deviceId →
      RecordStore.addChallenge
        ⟨challengeId, deviceId, nonce, state.now, expiresAt, false⟩ state.store = .ok store →
      Issued service challengeId nonce deviceId state
        (.ok ⟨challengeId, deviceId, nonce, state.now, expiresAt, false⟩, { state with store })

theorem credentialOf_run (deviceId : String) (state : State σ) :
    (∃ failure, (credentialOf deviceId).run state = (.error failure, state) ∧
        ∀ device, RecordStore.device deviceId state.store = .ok (some device) →
          device.isActive ≠ true) ∨
      ∃ device, RecordStore.device deviceId state.store = .ok (some device) ∧
        device.isActive = true ∧ (credentialOf deviceId).run state = (.ok device, state) := by
  unfold credentialOf
  rcases found : RecordStore.device deviceId state.store with error | (_ | device)
  · exact .inl ⟨.refused error, by simp [found], by simp⟩
  · exact .inl ⟨.refused (.deviceNotFound deviceId), by simp [found], by simp⟩
  · cases active : device.isActive
    · exact .inl ⟨.refused (.deviceNotFound deviceId), by simp [found, active], by simp [active]⟩
    · exact .inr ⟨device, rfl, active, by simp [found, active]⟩

theorem reads_checkLicense (deviceId : String) : Only Request.IsRead (checkLicense deviceId) :=
  only_checkLicense (fun _ => id) deviceId

theorem issueChallenge_run (challengeId : String) (nonce : Word256) (deviceId : String)
    (state : State σ) :
    Issued service challengeId nonce deviceId state
      ((service.issueChallenge challengeId nonce deviceId).run state) := by
  unfold issueChallenge
  rcases credentialOf_run deviceId state with
    ⟨failure, stops, _⟩ | ⟨device, found, active, goes⟩
  · simp only [run_bind, stops]
    exact .refused failure
  simp only [run_bind, goes, run_failures]
  by_cases locked : service.failureLimit ≤ state.counters.count deviceId
  · simp only [locked, if_true, run_refuse]
    exact .refused _
  obtain ⟨result, checked⟩ := (reads_checkLicense deviceId).run_of_reads state
  simp only [locked, if_false, run_bind, checked]
  rcases result with failure | _
  · exact .refused failure
  simp only [run_now, run_later]
  rcases Failure.later state.now service.challengeLifetime with failure | expiresAt
  · exact .refused failure
  simp only [run_addChallenge]
  rcases added : RecordStore.addChallenge
    ⟨challengeId, deviceId, nonce, state.now, expiresAt, false⟩ state.store with error | store
  · exact .refused _
  · exact .issued device expiresAt store found active locked added

/-- A challenge is issued to last for the lifetime of challenges. -/
theorem issueChallenge_expiry {service : Service} {challengeId deviceId : String} {nonce : Word256}
    {challenge : Challenge} {state offered : State σ}
    (issued : (service.issueChallenge challengeId nonce deviceId).run state =
      (.ok challenge, offered)) :
    state.now.add? service.challengeLifetime = some challenge.expiresAt := by
  unfold issueChallenge at issued
  rcases credentialOf_run deviceId state with ⟨failure, stops, _⟩ | ⟨device, _, _, goes⟩
  · simp only [run_bind, stops] at issued
    cases issued
  simp only [run_bind, goes, run_failures] at issued
  by_cases locked : service.failureLimit ≤ state.counters.count deviceId
  · simp only [locked, if_true, run_refuse] at issued
    cases issued
  obtain ⟨result, checked⟩ := (reads_checkLicense deviceId).run_of_reads state
  simp only [locked, if_false, run_bind, checked] at issued
  rcases result with failure | _
  · cases issued
  simp only [run_now, run_later] at issued
  rcases ends : Failure.later state.now service.challengeLifetime with failure | expiresAt <;>
    simp only [ends] at issued
  · cases issued
  simp only [run_addChallenge] at issued
  rcases added : RecordStore.addChallenge
    ⟨challengeId, deviceId, nonce, state.now, expiresAt, false⟩ state.store with error | store <;>
    rw [added] at issued <;> cases issued
  exact Failure.later_eq_ok ends

/-! ### Attempts -/

/-- **All checks before the challenge is used up**, as the store and the clock answer. -/
structure Passes (service : Service) (deviceId challengeId : String) (proof : Bytes)
    (values : PublicValues) (state : State σ) (challenge : Challenge) (device : Credential) :
    Prop where
  found : RecordStore.challenge challengeId state.store = .ok (some challenge)
  live : challenge.hasExpired state.now = false
  unused : challenge.used = false
  known : RecordStore.device deviceId state.store = .ok (some device)
  active : device.isActive = true
  matching : checkValues challenge device values = .ok ()
  valid : service.checker.check proof values = .ok true

/-- A challenge passes only for the device that it was issued to. -/
theorem Passes.issuedTo {service : Service} {deviceId challengeId : String} {proof : Bytes}
    {values : PublicValues} {state : State σ} {challenge : Challenge} {device : Credential}
    (passes : Passes service deviceId challengeId proof values state challenge device) :
    challenge.deviceId = device.deviceId := by
  have matching := passes.matching
  unfold checkValues at matching
  split at matching
  · cases matching
  · next same => exact Decidable.not_not.mp same

/-- What passes is held in the ledger, unused, for a device that is found under its own id. -/
theorem Passes.held [LedgerStore σ] {service : Service} {deviceId challengeId : String}
    {proof : Bytes} {values : PublicValues} {state : State σ} {challenge : Challenge}
    {device : Credential} (filed : (LedgerStore.ledger state.store).filed)
    (passes : Passes service deviceId challengeId proof values state challenge device) :
    device.deviceId = deviceId ∧
      (LedgerStore.ledger state.store).challenges challengeId deviceId false := by
  have own := LedgerStore.device_found filed passes.known
  have held := LedgerStore.challenge_found passes.found
  rw [passes.issuedTo, passes.unused, own] at held
  exact ⟨own, held⟩

/-- What is left of an attempt when all checks have passed: the challenge is used up, the failures
are forgotten and a session is opened. -/
def redeem (service : Service) (sessionId deviceId challengeId holder : String) :
    Operation Session := do
  if ← spendChallenge challengeId then
    forgetFailures deviceId
    service.sessions.create sessionId holder
  else refuse (.challengeAlreadyUsed challengeId)

theorem openChallenge_run (challengeId : String) (moment : Instant) (state : State σ) :
    (∃ failure, (openChallenge challengeId moment).run state = (.error failure, state) ∧
        ∀ challenge, RecordStore.challenge challengeId state.store = .ok (some challenge) →
          challenge.hasExpired moment = false → challenge.used = true) ∨
      ∃ challenge, RecordStore.challenge challengeId state.store = .ok (some challenge) ∧
        challenge.hasExpired moment = false ∧ challenge.used = false ∧
        (openChallenge challengeId moment).run state = (.ok challenge, state) := by
  unfold openChallenge
  rcases found : RecordStore.challenge challengeId state.store with error | (_ | challenge)
  · exact .inl ⟨.refused error, by simp [found], by simp⟩
  · exact .inl ⟨.refused (.challengeNotFound challengeId), by simp [found], by simp⟩
  cases expired : challenge.hasExpired moment
  · cases used : challenge.used
    · exact .inr ⟨challenge, rfl, expired, used, by simp [found, expired, used]⟩
    · refine .inl ⟨.refused (.challengeAlreadyUsed challengeId), by simp [found, expired, used], ?_⟩
      rintro _ ⟨⟩ _
      exact used
  · refine .inl ⟨.refused (.challengeExpired challengeId), by simp [found, expired], ?_⟩
    rintro _ ⟨⟩ live
    rw [expired] at live
    cases live

/-- **All checks before the proof is looked at**, as the store and the clock answer. -/
structure Examined (deviceId challengeId : String) (values : PublicValues) (state : State σ)
    (challenge : Challenge) (device : Credential) : Prop where
  found : RecordStore.challenge challengeId state.store = .ok (some challenge)
  live : challenge.hasExpired state.now = false
  unused : challenge.used = false
  known : RecordStore.device deviceId state.store = .ok (some device)
  active : device.isActive = true
  matching : checkValues challenge device values = .ok ()

/-- All checks pass if those before pass and the proof is valid. -/
theorem Examined.passes {service : Service} {deviceId challengeId : String} {proof : Bytes}
    {values : PublicValues} {state : State σ} {challenge : Challenge} {device : Credential}
    (examined : Examined deviceId challengeId values state challenge device)
    (valid : service.checker.check proof values = .ok true) :
    Passes service deviceId challengeId proof values state challenge device :=
  { examined with valid }

theorem Passes.examined {service : Service} {deviceId challengeId : String} {proof : Bytes}
    {values : PublicValues} {state : State σ} {challenge : Challenge} {device : Credential}
    (passes : Passes service deviceId challengeId proof values state challenge device) :
    Examined deviceId challengeId values state challenge device :=
  { passes with }

/-- The checks of an attempt before it looks at the proof; they end with the device. -/
def examine (deviceId challengeId : String) (values : PublicValues) : Operation Credential := do
  let now ← Operation.now
  let challenge ← openChallenge challengeId now
  let device ← credentialOf deviceId
  ofResult (checkValues challenge device values)
  return device

/-- What is left of an attempt when it comes to the proof. -/
def conclude (service : Service) (sessionId deviceId challengeId : String) (proof : Bytes)
    (values : PublicValues) (device : Credential) : Operation Session := do
  if ← ofResult (AuthError.liftZkp (service.checker.check proof values)) then
    service.redeem sessionId deviceId challengeId device.deviceId
  else refuse .invalidProof

/-- An attempt examines what it is given, and then concludes. -/
theorem attempt_run_eq (sessionId deviceId challengeId : String) (proof : Bytes)
    (values : PublicValues) (state : State σ) :
    (service.attempt sessionId deviceId challengeId proof values).run state =
      (examine deviceId challengeId values >>=
        service.conclude sessionId deviceId challengeId proof values).run state := by
  unfold attempt examine conclude redeem
  simp only [run_bind, run_now]
  rcases (openChallenge challengeId state.now).run state with ⟨_ | challenge, found⟩
  · rfl
  simp only
  rcases (credentialOf deviceId).run found with ⟨_ | device, known⟩
  · rfl
  simp only [run_ofResult, run_pure]
  rcases checkValues challenge device values with _ | _ <;> rfl

/-- What is examined is read, and a device comes out of it exactly when all is in order. -/
theorem examine_run (deviceId challengeId : String) (values : PublicValues) (state : State σ) :
    (∃ failure, (examine deviceId challengeId values).run state = (.error failure, state) ∧
        ∀ challenge device, ¬ Examined deviceId challengeId values state challenge device) ∨
      ∃ challenge device, Examined deviceId challengeId values state challenge device ∧
        (examine deviceId challengeId values).run state = (.ok device, state) := by
  unfold examine
  simp only [run_bind, run_now]
  rcases openChallenge_run challengeId state.now state with
    ⟨failure, stops, why⟩ | ⟨challenge, found, live, unused, goes⟩
  · refine .inl ⟨failure, by simp only [stops], fun challenge device examined => ?_⟩
    have used := why challenge examined.found examined.live
    rw [examined.unused] at used
    cases used
  simp only [goes]
  rcases credentialOf_run deviceId state with ⟨failure, stops, why⟩ | ⟨device, known, active, goes⟩
  · refine .inl ⟨failure, by simp only [stops], fun challenge device examined => ?_⟩
    exact why device examined.known examined.active
  simp only [goes, run_ofResult, run_pure]
  rcases matching : checkValues challenge device values with error | _
  · refine .inl ⟨.refused error, by simp only [Failure.lift_error], fun _ _ examined => ?_⟩
    obtain ⟨rfl⟩ := Option.some.inj (Except.ok.inj (found.symm.trans examined.found))
    obtain ⟨rfl⟩ := Option.some.inj (Except.ok.inj (known.symm.trans examined.known))
    rw [examined.matching] at matching
    cases matching
  · exact .inr ⟨challenge, device, ⟨found, live, unused, known, active, matching⟩, rfl⟩

/-- **An attempt stops before it changes anything, or redeems the challenge**; it does the latter
exactly when all checks pass. -/
theorem attempt_run (sessionId deviceId challengeId : String) (proof : Bytes)
    (values : PublicValues) (state : State σ) :
    (∃ failure,
        (service.attempt sessionId deviceId challengeId proof values).run state =
          (.error failure, state) ∧
        ∀ challenge device,
          ¬ Passes service deviceId challengeId proof values state challenge device) ∨
      ∃ challenge device, Passes service deviceId challengeId proof values state challenge device ∧
        (service.attempt sessionId deviceId challengeId proof values).run state =
          (service.redeem sessionId deviceId challengeId device.deviceId).run state := by
  simp only [attempt_run_eq, run_bind]
  rcases examine_run deviceId challengeId values state with
    ⟨failure, stops, why⟩ | ⟨challenge, device, examined, goes⟩
  · exact .inl ⟨failure, by rw [stops], fun challenge device passes =>
      why challenge device passes.examined⟩
  simp only [goes, conclude, run_bind, run_ofResult]
  rcases valid : service.checker.check proof values with error | _ | _
  · refine .inl ⟨.refused (.ofZkp error), rfl, fun _ _ passes => ?_⟩
    rw [passes.valid] at valid
    cases valid
  · refine .inl ⟨.refused .invalidProof, rfl, fun _ _ passes => ?_⟩
    rw [passes.valid] at valid
    cases valid
  · exact .inr ⟨challenge, device, examined.passes valid, by
      simp only [AuthError.liftZkp_ok, Failure.lift_ok, if_true]⟩

/-! ### Verifying -/

/-- **A challenge can be redeemed**: all checks pass, and it can be used up. -/
def Redeemable (service : Service) (deviceId challengeId : String) (proof : Bytes)
    (values : PublicValues) (state : State σ) : Prop :=
  ∃ challenge device store,
    Passes service deviceId challengeId proof values state challenge device ∧
      RecordStore.spendChallenge challengeId state.store = .ok (true, store)

/-- **What verifying a proof comes to.** -/
inductive Verified (service : Service) (sessionId deviceId challengeId : String) (proof : Bytes)
    (values : PublicValues) (state : State σ) : Except Failure Session × State σ → Prop
  /-- A check fails, or somebody else has used the challenge up. -/
  | refused (failure : Failure) (store : σ) (counters : FailureCounters) :
      store = state.store ∨
        RecordStore.spendChallenge challengeId state.store = .ok (false, store) →
      ¬ Redeemable service deviceId challengeId proof values state →
      counters = state.counters ∨ counters = (state.counters.countFailure deviceId).2 →
      Verified service sessionId deviceId challengeId proof values state
        (.error failure, { state with store, counters })
  /-- The challenge is used up, but no session can be opened. -/
  | lost (challenge : Challenge) (device : Credential) (failure : Failure) (store : σ) :
      Passes service deviceId challengeId proof values state challenge device →
      RecordStore.spendChallenge challengeId state.store = .ok (true, store) →
      Verified service sessionId deviceId challengeId proof values state
        (.error failure, { state with store, counters := state.counters.forget deviceId })
  /-- The challenge is used up and a session is opened. -/
  | opened (challenge : Challenge) (device : Credential) (session : Session) (spent store : σ) :
      Passes service deviceId challengeId proof values state challenge device →
      RecordStore.spendChallenge challengeId state.store = .ok (true, spent) →
      RecordStore.addSession session spent = .ok store →
      session.sessionId = sessionId → session.deviceId = device.deviceId →
      Verified service sessionId deviceId challengeId proof values state
        (.ok session, { state with store, counters := state.counters.forget deviceId })

theorem holdAgainst_run (deviceId : String) (error : AuthError) (state : State σ) :
    ∃ counters, (counters = state.counters ∨ error.countsAgainstDevice = true ∧
          counters = (state.counters.countFailure deviceId).2) ∧
      (holdAgainst deviceId error).run state =
        (.error (.refused error), { state with counters }) := by
  unfold holdAgainst
  cases DeviceId.encodable deviceId
  · exact ⟨state.counters, .inl rfl, rfl⟩
  simp only [if_true, run_bind, run_knows]
  rcases RecordStore.device deviceId state.store with _ | (_ | _)
  · exact ⟨state.counters, .inl rfl, rfl⟩
  · exact ⟨state.counters, .inl rfl, rfl⟩
  cases counts : error.countsAgainstDevice
  · exact ⟨state.counters, .inl rfl, rfl⟩
  · exact ⟨_, .inr ⟨rfl, rfl⟩, rfl⟩

/-- Opening a session adds it, or changes nothing and is no fault of the device. -/
theorem create_run [LedgerStore σ] (policy : SessionPolicy) (sessionId holder : String)
    (state : State σ) :
    (∃ session store, RecordStore.addSession session state.store = .ok store ∧
        session.sessionId = sessionId ∧ session.deviceId = holder ∧
        (policy.create sessionId holder).run state = (.ok session, { state with store })) ∨
      (policy.create sessionId holder).run state = (.error .overflow, state) ∨
      ∃ error : AuthError, error.countsAgainstDevice = false ∧
        (policy.create sessionId holder).run state = (.error (.refused error), state) := by
  unfold SessionPolicy.create
  simp only [run_bind, run_now, run_later]
  rcases overflows : Failure.later state.now policy.lifetime with failure | expiresAt
  · unfold Failure.later at overflows
    split at overflows <;> cases overflows
    exact .inr (.inl rfl)
  simp only [run_addSession, run_pure]
  rcases added : RecordStore.addSession
    ⟨sessionId, holder, policy.tokenFor holder sessionId state.now expiresAt, state.now, expiresAt,
      state.now⟩ state.store with error | store
  · exact .inr (.inr ⟨error, LedgerStore.addSession_fault added, rfl⟩)
  · exact .inl ⟨_, store, added, rfl, rfl, rfl⟩

/-- An attempt that fails keeps its failure, and at most one more failure is counted. -/
theorem onRefusal_run {operation : Operation Session} {state after : State σ} {failure : Failure}
    (deviceId : String) (failed : operation.run state = (.error failure, after)) :
    ∃ counters, (counters = after.counters ∨ counters = (after.counters.countFailure deviceId).2) ∧
      (operation.onRefusal (holdAgainst deviceId)).run state =
        (.error failure, { after with counters }) := by
  rw [run_onRefusal, failed]
  rcases failure with error | _
  · obtain ⟨counters, counted, ran⟩ := holdAgainst_run deviceId error after
    exact ⟨counters, counted.imp_right And.right, ran⟩
  · exact ⟨after.counters, .inl rfl, rfl⟩

theorem submitProof_run [LedgerStore σ] (sessionId deviceId challengeId : String) (proof : Bytes)
    (values : PublicValues) (state : State σ) :
    Verified service sessionId deviceId challengeId proof values state
      ((service.submitProof sessionId deviceId challengeId proof values).run state) := by
  unfold submitProof
  rcases attempt_run service sessionId deviceId challengeId proof values state with
    ⟨failure, stops, fails⟩ | ⟨challenge, device, passes, goes⟩
  · obtain ⟨counters, counted, ran⟩ := onRefusal_run deviceId stops
    rw [ran]
    exact .refused failure state.store counters (.inl rfl)
      (fun ⟨challenge, device, _, passes, _⟩ => fails challenge device passes) counted
  unfold redeem at goes
  simp only [run_bind, run_spendChallenge] at goes
  rcases spent : RecordStore.spendChallenge challengeId state.store with error | ⟨_ | _, store⟩
  · simp only [spent] at goes
    obtain ⟨counters, counted, ran⟩ := onRefusal_run deviceId goes
    rw [ran]
    refine .refused _ state.store counters (.inl rfl) (fun ⟨_, _, _, _, same⟩ => ?_) counted
    rw [spent] at same
    cases same
  · simp only [spent, Bool.false_eq_true, if_false, run_refuse] at goes
    obtain ⟨counters, counted, ran⟩ := onRefusal_run deviceId goes
    rw [ran]
    refine .refused _ store counters (.inr spent) (fun ⟨_, _, _, _, same⟩ => ?_) counted
    rw [spent] at same
    cases same
  simp only [spent, if_true, run_bind, run_forgetFailures] at goes
  rw [run_onRefusal, goes]
  rcases create_run service.sessions sessionId device.deviceId
      { state with store, counters := state.counters.forget deviceId } with
    ⟨session, kept, added, named, owned, ran⟩ | ran | ⟨error, innocent, ran⟩
  · simp only [ran]
    exact .opened challenge device session store kept passes spent added named owned
  · simp only [ran]
    exact .lost challenge device _ store passes spent
  · simp only [ran]
    obtain ⟨counters, counted, held⟩ := holdAgainst_run deviceId error
      { state with store, counters := state.counters.forget deviceId }
    rcases counted with rfl | ⟨guilty, _⟩
    · rw [held]
      exact .lost challenge device _ store passes spent
    · rw [innocent] at guilty
      cases guilty

/-- A request is verified as the proof that it carries; if it carries none, it is refused. -/
theorem submit_run [LedgerStore σ] (sessionId : String) (request : ProofSubmission)
    (state : State σ) :
    (∃ failure counters,
        (counters = state.counters ∨
          counters = (state.counters.countFailure request.deviceId).2) ∧
        request.proof.decodedProof.isOk = false ∧
        (service.submit sessionId request).run state = (.error failure, { state with counters })) ∨
      ∃ proof, request.proof.decodedProof = .ok proof ∧
        Verified service sessionId request.deviceId request.challengeId proof
          request.proof.publicValues state ((service.submit sessionId request).run state) := by
  unfold submit
  rcases request.proof.decodedProof with error | proof
  · obtain ⟨counters, counted, ran⟩ := holdAgainst_run request.deviceId (.ofZkp error) state
    exact .inl ⟨_, counters, counted.imp_right And.right, rfl, ran⟩
  · exact .inr ⟨proof, rfl, service.submitProof_run sessionId _ _ proof _ state⟩

end Service

end DeviceAuth
