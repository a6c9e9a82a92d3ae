import DeviceAuth.Proofs.Auth.SingleUse
import DeviceAuth.Proofs.Auth.TokenLifetime
import DeviceAuth.Proofs.Auth.Waiting
import DeviceAuth.Proofs.Zkp.Documents
import DeviceAuth.Proofs.Zkp.Proving

/-!
**An honest device gets in, exactly once.** A device that knows the secret of its commitment, and
has been offered a challenge, is let in with its proof as long as the challenge lasts, whatever
happens in between: failed attempts with its challenge do not use it up.

* `Offered`: what issuing a challenge leaves.
* `Service.submitProof_opens`: the proof that an honest device makes passes all checks.
* `UsedUp`: from then on no verification of the challenge succeeds.
* `honest_device_admitted`: all of it, with the documents that the challenge and the proof travel as.
-/

namespace DeviceAuth

open Operation LedgerStore

section Admission

variable {resolution : Resolution} {records : MemoryStore} {state offered : State Storage}
  {service : Service} {challenge : Challenge} {device credential : Credential}
  {sessionId deviceId challengeId : String} {nonce : Word256} {proof : Bytes}
  {values : PublicValues}

/-! ### What issuing a challenge leaves -/

/-- **A challenge has been offered to a device:** both are kept, and nothing has been used up. -/
structure Offered (resolution : Resolution) (challenge : Challenge) (device credential : Credential)
    (deviceId : String) (offered : State Storage) : Prop where
  awaits : offered.Awaits resolution challenge device
  plain : challenge.IsPlain
  unused : challenge.used = false
  issuedTo : challenge.deviceId = deviceId
  named : device.deviceId = deviceId
  /-- The device as it is read. -/
  read : resolution.readDevice device = .ok credential
  active : credential.isActive = true
  plainNow : offered.now.isLeap = false

/-- **What issuing a challenge leaves.** -/
theorem Service.issueChallenge_offered (keeps : state.store.Keeps resolution records)
    (plain : state.now.isLeap = false) (canonical : nonce.IsCanonical)
    (known : RecordStore.device deviceId state.store = .ok (some credential))
    (issued : (service.issueChallenge challengeId nonce deviceId).run state =
      (.ok challenge, offered)) :
    challenge.nonce = nonce ∧
      ∃ device, Offered resolution challenge device credential deviceId offered := by
  have expiry := issueChallenge_expiry issued
  have outcome := service.issueChallenge_run challengeId nonce deviceId state
  rw [issued] at outcome
  cases outcome with
  | issued holder expiresAt store found active _ added =>
    rw [known] at found
    cases found
    obtain ⟨device, inside, read⟩ :=
      Dictionary.exists_of_read ((keeps.device deviceId).symm.trans known)
    have named : device.deviceId = deviceId :=
      keeps.tidy.devices.keyed _ _ (Dictionary.mem_of_get? inside)
    have keepsAfter := (keeps.of_addChallenge added).2
    refine ⟨rfl, device, ⟨_, keepsAfter, ?_, ?_⟩,
      ⟨canonical, plain, Instant.plain_add? plain expiry⟩, rfl, rfl, named, read, active, plain⟩
    · exact (Dictionary.get?_put ..).trans (if_pos rfl)
    · rw [named]
      exact inside

/-! ### The proof of an honest device -/

/-- The public values of an honest device are those of its challenge. -/
theorem checkValues_honest {word response : Word256} (issuedTo : challenge.deviceId = deviceId)
    (own : credential.deviceId = deviceId) (encoded : DeviceId.encode deviceId = .ok word) :
    Service.checkValues challenge credential
      ⟨word, challenge.nonce, credential.commitment, response⟩ = .ok () := by
  simp only [Service.checkValues, issuedTo, own, encoded, AuthError.liftZkp_ok, bind, Except.bind,
    ne_eq, not_true, if_false]

/-- All checks pass, as long as the challenge lasts. -/
theorem Offered.passes {word response : Word256}
    (given : Offered resolution challenge device credential deviceId state)
    (encoded : DeviceId.encode deviceId = .ok word)
    (inTime : state.now ≤ resolution.floor challenge.expiresAt)
    (valid : service.checker.check proof
      ⟨word, challenge.nonce, credential.commitment, response⟩ = .ok true) :
    Service.Passes service deviceId challenge.challengeId proof
      ⟨word, challenge.nonce, credential.commitment, response⟩ state
      (challenge.floor resolution) credential := by
  obtain ⟨records, keeps, _⟩ := given.awaits
  have known : RecordStore.device deviceId state.store = .ok (some credential) :=
    given.named ▸ given.awaits.device_eq given.read
  have own := device_found keeps.filed known
  refine ⟨given.awaits.challenge_eq given.plain, ?_, given.unused, known, given.active, ?_, valid⟩
  · exact decide_eq_false (Instant.not_lt.mpr inTime)
  · exact checkValues_honest given.issuedTo own encoded

/-- The session that is opened under an id for a device, from an instant to its expiry. -/
def SessionPolicy.opening (policy : SessionPolicy) (sessionId holder : String)
    (moment expiresAt : Instant) : Session where
  sessionId := sessionId
  deviceId := holder
  token := policy.tokenFor holder sessionId moment expiresAt
  createdAt := moment
  expiresAt := expiresAt
  lastUsedAt := moment

/-- A session with a new id is opened, if its expiry is an instant. -/
theorem SessionPolicy.create_opens {policy : SessionPolicy} {holder : String} {expiresAt : Instant}
    (keeps : state.store.Keeps resolution records) (fresh : records.sessions.get? sessionId = none)
    (lasts : state.now.add? policy.lifetime = some expiresAt) :
    ∃ store : Storage, store.Keeps resolution
        { records with
          sessions := records.sessions.put sessionId
            (policy.opening sessionId holder state.now expiresAt) } ∧
      (policy.create sessionId holder).run state =
        (.ok (policy.opening sessionId holder state.now expiresAt), { state with store }) := by
  have ends : Failure.later state.now policy.lifetime = .ok expiresAt := by
    rw [Failure.later, lasts]
  have unheld : resolution = .milliseconds → records.sessions.get?
      (policy.opening sessionId holder state.now expiresAt).sessionId = none := fun _ => fresh
  obtain ⟨store, added, keepsNow⟩ := keeps.addSession unheld
  refine ⟨store, keepsNow, ?_⟩
  unfold opening at added
  unfold create
  simp only [run_bind, run_now, run_later, ends, run_addSession, added, run_pure]
  rfl

/-- **Where all checks pass, a session with a new id is opened.** -/
theorem Service.submitProof_opens {spent : Storage} {expiresAt : Instant}
    (passes : Passes service deviceId challengeId proof values state challenge credential)
    (spends : RecordStore.spendChallenge challengeId state.store = .ok (true, spent))
    (keeps : spent.Keeps resolution records) (fresh : records.sessions.get? sessionId = none)
    (lasts : state.now.add? service.sessions.lifetime = some expiresAt) :
    ∃ store : Storage, store.Keeps resolution
        { records with
          sessions := records.sessions.put sessionId
            (service.sessions.opening sessionId credential.deviceId state.now expiresAt) } ∧
      (service.submitProof sessionId deviceId challengeId proof values).run state =
        (.ok (service.sessions.opening sessionId credential.deviceId state.now expiresAt),
          { state with store, counters := state.counters.forget deviceId }) := by
  unfold submitProof
  rw [run_onRefusal]
  rcases attempt_run service sessionId deviceId challengeId proof values state with
    ⟨_, _, never⟩ | ⟨_, other, passesToo, goes⟩
  · exact absurd passes (never challenge credential)
  -- The device that is read is the one that passes.
  have known := passesToo.known
  rw [passes.known] at known
  cases known
  have keepsNow : State.store { state with
      store := spent, counters := state.counters.forget deviceId } |>.Keeps resolution records :=
    keeps
  obtain ⟨store, kept, created⟩ := SessionPolicy.create_opens keepsNow fresh lasts
  have redeemed : (service.redeem sessionId deviceId challengeId credential.deviceId).run state =
      (.ok (service.sessions.opening sessionId credential.deviceId state.now expiresAt),
        { state with store, counters := state.counters.forget deviceId }) := by
    simp only [redeem, run_bind, run_spendChallenge, spends, if_true, run_forgetFailures]
    exact created
  rw [goes, redeemed]
  exact ⟨store, kept, rfl⟩

/-- Along a run in which nothing happens to them, a challenge and its device stay as offered. -/
theorem Offered.after {calls : List Call}
    (given : Offered resolution challenge device credential deviceId state)
    (uneventful : Uneventful service challenge deviceId state calls)
    (inTime : (service.after calls state).now ≤ resolution.floor challenge.expiresAt) :
    Offered resolution challenge device credential deviceId (service.after calls state) := by
  have uneventfulToo : Uneventful service challenge device.deviceId state calls :=
    given.named.symm ▸ uneventful
  have before := Instant.le_trans inTime (Resolution.floor_le given.plain.expiresAt)
  exact { given with
    awaits := Service.after_awaits given.awaits given.unused given.plain.expiresAt given.plainNow
      uneventfulToo before
    plainNow := (service.inOrder_sessionEvents given.plainNow uneventful.timely).2 }

/-! ### Afterwards -/

/-- The challenge that a call is to redeem. -/
def Call.redeems? : Call → Option String
  | submitProof _ _ challengeId _ _ => some challengeId
  | submit _ request => some request.challengeId
  | _ => none

/-- **No verification of a challenge succeeds any more,** whatever else is called, as long as no
other challenge is offered with its id. -/
def UsedUp (service : Service) (challengeId : String) (state : State Storage) : Prop :=
  ∀ calls, (∀ offer ∈ Event.offers (service.events calls state),
      offer.challengeId ≠ challengeId) →
    ∀ call, call.redeems? = some challengeId →
      ∃ failure, (service.perform call (service.after calls state)).1 = .error failure

/-- Where a challenge is closed, no call opens a session for it, and it stays closed unless another
one is offered with its id. -/
theorem Event.Effect.closed {event : Event} {before after : Ledger}
    (effect : event.Effect before after) (closed : before.Closed challengeId) :
    (∀ opening, event.opening? = some opening → opening.challengeId ≠ challengeId) ∧
      ((∀ offer, event.offer? = some offer → offer.challengeId ≠ challengeId) →
        after.Closed challengeId) := by
  cases effect with
  | upkeep _ noOpening shrinks =>
    rw [noOpening]
    refine ⟨fun _ shows => ?_, fun _ holder held => closed holder (shrinks.unused held)⟩
    cases shows
  | offers challenge offer noOpening offers =>
    rw [noOpening]
    refine ⟨fun _ shows => ?_, fun others holder held => ?_⟩
    · cases shows
    rcases offers.challenges _ _ _ held with same | ⟨own, _⟩
    · exact closed holder same
    · exact others _ offer own.symm
  | opens opening spent _ opens unused shrinks _ _ added =>
    refine ⟨fun other shows => ?_, fun _ holder held => ?_⟩
    · rw [opens] at shows
      cases shows
      rintro rfl
      exact closed _ unused
    · exact closed holder (shrinks.unused (added.challenges _ _ _ held))

/-- A closed challenge is used up. -/
theorem Service.usedUp_of_closed (closed : (ledger state.store).Closed challengeId)
    (filed : (ledger state.store).filed) : UsedUp service challengeId state := by
  intro calls
  induction calls generalizing state with
  | nil =>
    intro _ call redeems
    have unopened := ((service.perform_effect call filed).closed closed).1
    rcases result : (service.perform call state).1 with failure | value
    · exact ⟨failure, result⟩
    rw [result] at unopened
    cases call with
    | submitProof _ _ _ _ _ | submit _ _ =>
      cases redeems
      exact absurd rfl (unopened _ rfl)
    | _ => cases redeems
  | cons call rest ih =>
    intro unoffered
    have effect := service.perform_effect call filed
    have stays := (effect.closed closed).2 fun offer shows =>
      unoffered offer (List.mem_filterMap.mpr ⟨_, List.mem_cons_self, shows⟩)
    refine ih stays (effect.filed filed) fun offer member => unoffered offer ?_
    obtain ⟨event, inside, shows⟩ := List.mem_filterMap.mp member
    exact List.mem_filterMap.mpr ⟨event, List.mem_cons_of_mem _ inside, shows⟩

/-- **A verification that succeeds uses its challenge up.** -/
theorem Service.submitProof_usedUp {session : Session} {opened : State Storage}
    (filed : (ledger state.store).filed)
    (succeeds : (service.submitProof sessionId deviceId challengeId proof values).run state =
      (.ok session, opened)) : UsedUp service challengeId opened := by
  have submitted := service.submitProof_run sessionId deviceId challengeId proof values state
  rw [succeeds] at submitted
  cases submitted with
  | opened held holder _ spent store passes spends added _ _ =>
    have opens := addSession_opens added
    have shrinks := spend_shrinks spends
    refine usedUp_of_closed (fun holder unused => ?_) (opens.filed (shrinks.filed filed))
    exact (spend_closes spends).2 holder (opens.challenges _ _ _ unused)

/-! ### Honest devices -/

/-- **A device gets in with a proof, and never again with its challenge.** -/
def Admits (service : Service) (sessionId deviceId challengeId : String) (proof : Bytes)
    (values : PublicValues) (state : State Storage) : Prop :=
  ∃ session admitted,
    (service.submitProof sessionId deviceId challengeId proof values).run state =
      (.ok session, admitted) ∧
    session.sessionId = sessionId ∧ session.deviceId = deviceId ∧
      UsedUp service challengeId admitted

/-- A device that has been offered a challenge is admitted until the challenge expires. -/
theorem Offered.admits {word response : Word256}
    (given : Offered resolution challenge device credential deviceId state)
    (encoded : DeviceId.encode deviceId = .ok word)
    (inTime : state.now ≤ resolution.floor challenge.expiresAt)
    (valid : service.checker.check proof
      ⟨word, challenge.nonce, credential.commitment, response⟩ = .ok true)
    (fresh : RecordStore.session sessionId state.store = .ok none)
    (lasts : (state.now.add? service.sessions.lifetime).isSome) :
    Admits service sessionId deviceId challenge.challengeId proof
      ⟨word, challenge.nonce, credential.commitment, response⟩ state := by
  obtain ⟨records, keeps, _⟩ := given.awaits
  have passes := given.passes encoded inTime valid
  obtain ⟨spent, spends⟩ := given.awaits.spends given.unused
  obtain ⟨expiresAt, ends⟩ := Option.isSome_iff_exists.mp lasts
  have freshThen : (records.spendChallenge challenge.challengeId).2.sessions.get? sessionId =
      none := by
    rw [records.sessions_spendChallenge]
    exact keeps.get?_of_session fresh
  obtain ⟨admitted, _, opens⟩ :=
    Service.submitProof_opens passes spends (keeps.of_spendChallenge spends) freshThen ends
  have own := device_found keeps.filed passes.known
  exact ⟨_, _, opens, rfl, own, Service.submitProof_usedUp keeps.filed opens⟩

end Admission

/-- **What a device can rely on** that has been offered a challenge: it proves these values, and
gets in with them. -/
structure Welcome (service : Service) (inputs : ProvingInputs) (challenge stored : Challenge)
    (values : PublicValues) (offered : State Storage) : Prop where
  /-- The challenge as it is stored. -/
  isStored : RecordStore.challenge challenge.challengeId offered.store = .ok (some stored)
  /-- Whatever the key and the random values are. -/
  proves : inputs.Proves values
  nonceTravels : Json.readBack? Word256.ofJson? challenge.nonce.toJson = some challenge.nonce
  valuesTravel : Json.readBack? PublicValues.ofJson? values.toJson = some values
  /-- A submission that has travelled as a document is verified as the proof that was put in it. -/
  submissionTravels : ∀ proof, ∃ submission,
    Json.readBack? ProofSubmission.ofJson? (ProofSubmission.mk inputs.deviceId
      challenge.challengeId (.ofStated ⟨proof, values⟩)).toJson = some submission ∧
    ∀ sessionId, service.submit sessionId submission =
      service.submitProof sessionId inputs.deviceId challenge.challengeId proof values
  /-- The device gets in until the challenge expires. -/
  admits : ∀ calls, Uneventful service challenge inputs.deviceId offered calls →
    (service.after calls offered).now ≤ stored.expiresAt →
      ∀ sessionId proof, service.checker.check proof values = .ok true →
        RecordStore.session sessionId (service.after calls offered).store = .ok none →
        ((service.after calls offered).now.add? service.sessions.lifetime).isSome →
          Admits service sessionId inputs.deviceId challenge.challengeId proof values
            (service.after calls offered)

/-- **An honest device gets in, exactly once,** over storages of either kind. -/
theorem honest_device_admitted (service : Service) {state : State Storage}
    (written : state.store.Written) (plain : state.now.isLeap = false) {secret : Word256}
    {deviceId : String} (canonical : secret.IsCanonical)
    (filled : 1 ≤ (Bytes.ofText deviceId).length) (short : (Bytes.ofText deviceId).length ≤ 31) :
    ∃ commitment, commitmentOf secret deviceId = .ok commitment ∧
      ∀ credential, RecordStore.device deviceId state.store = .ok (some credential) →
        credential.commitment = commitment →
      ∀ challengeId nonce challenge offered,
        (service.issueChallenge challengeId (.ofScalar nonce) deviceId).run state =
          (.ok challenge, offered) →
        ∃ stored values, Welcome service ⟨secret, deviceId, challenge.nonce, commitment⟩ challenge
          stored values offered := by
  obtain ⟨commitment, opens⟩ := exists_commitmentOf canonical filled short
  refine ⟨commitment, opens, ?_⟩
  rintro credential known rfl challengeId nonce challenge offered issued
  obtain ⟨resolution, records, keeps⟩ := written.keeps
  obtain ⟨drawn, device, given⟩ := Service.issueChallenge_offered keeps plain
    (Word256.isCanonical_ofScalar nonce) known issued
  let inputs : ProvingInputs := ⟨secret, deviceId, challenge.nonce, credential.commitment⟩
  obtain ⟨word, response, encoded, answers, proves⟩ :
      ∃ word response, DeviceId.encode inputs.deviceId = .ok word ∧
        responseTo inputs.secret inputs.challenge = .ok response ∧
        inputs.Proves ⟨word, inputs.challenge, inputs.commitment, response⟩ :=
    ProvingInputs.proves_of_opens opens given.plain.nonce
  have canonicalValues : PublicValues.IsCanonical
      ⟨word, challenge.nonce, credential.commitment, response⟩ :=
    ⟨DeviceId.canonical_of_encode encoded, given.plain.nonce, isCanonical_of_commitmentOf opens,
      isCanonical_of_responseTo answers⟩
  refine ⟨challenge.floor resolution, _, given.awaits.challenge_eq given.plain, proves,
    Word256.readBack?_toJson given.plain.nonce, PublicValues.readBack?_toJson canonicalValues,
    fun proof => ⟨_, ProofSubmission.readBack?_toJson canonicalValues, fun sessionId => ?_⟩, ?_⟩
  · simp only [Service.submit, ProofDocument.decodedProof_ofStated]
    rfl
  intro calls uneventful inTime sessionId proof valid fresh lasts
  have givenThen := given.after uneventful inTime
  exact givenThen.admits encoded inTime valid fresh lasts

/-! A device gets in after somebody has failed with its challenge, and expired records have been
removed. -/

namespace Sample

/-- A service that accepts every proof. -/
def trusting : Service :=
  { configured with checker := ⟨"trusting", fun _ _ => .ok true⟩ }

/-- The secret of the device. -/
def secret : Word256 := .ofNat 5

/-- The credential of the device, with the commitment that its secret opens. -/
def honest : Credential :=
  { device with commitment := (commitmentOf secret "device").toOption.getD (.ofNat 0) }

/-- The device is enrolled. -/
def welcoming : State Storage :=
  ((Request.enroll honest).perform vacant).2

/-- The challenge that the device is offered. -/
def invitation : Challenge where
  challengeId := "challenge"
  deviceId := "device"
  nonce := .ofScalar ⟨2, by decide⟩
  createdAt := epoch
  expiresAt := nextSecond
  used := false

/-- The state in which it has been offered. -/
def invited : State Storage :=
  ((Request.addChallenge invitation).perform welcoming).2

/-- What happens in between. -/
def interrupting : List Call := [
  .submitProof "failure" "device" "challenge" [1] { values 2 with deviceId := .ofNat 0 },
  .setClock halfway,
  .removeExpired]

end Sample

open Sample in
theorem honest_device_admitted_interrupted :
    ∃ values, ProvingInputs.Proves ⟨secret, "device", invitation.nonce, honest.commitment⟩ values ∧
      Admits trusting "session" "device" "challenge" [1] values
        (trusting.after interrupting invited) := by
  have written : welcoming.store.Written := .perform _ _ (.vacant trivial (.inl rfl))
  obtain ⟨commitment, opens, welcomes⟩ := honest_device_admitted trusting written (by decide)
    (by decide : secret.IsCanonical) (by decide : 1 ≤ (Bytes.ofText "device").length) (by decide)
  have own : honest.commitment = commitment := by
    show (commitmentOf secret "device").toOption.getD (.ofNat 0) = commitment
    rw [opens]
    rfl
  obtain ⟨stored, values, welcome⟩ :=
    welcomes honest rfl own "challenge" ⟨2, by decide⟩ invitation invited rfl
  obtain rfl : invitation = stored := Option.some.inj (Except.ok.inj welcome.isStored)
  have uneventful : Uneventful trusting invitation "device" invited interrupting := by
    refine ⟨?_, fun credential member => ?_, fun opening member => ?_, by decide +kernel⟩
    · exact ⟨by decide, by decide, by decide, by decide, by decide, by decide, trivial⟩
    · simp [interrupting] at member
    · cases member
  rw [own]
  exact ⟨values, welcome.proves, welcome.admits interrupting uneventful (by decide +kernel)
    "session" [1] rfl rfl (by decide +kernel)⟩

end DeviceAuth
