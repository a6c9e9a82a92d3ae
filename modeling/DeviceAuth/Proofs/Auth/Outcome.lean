import DeviceAuth.Proofs.Auth.Admission
import DeviceAuth.Proofs.Auth.Causes
import DeviceAuth.Proofs.Auth.FailureHistory
import DeviceAuth.Proofs.Auth.Footprint

/-!
**What a verification comes to, exactly,** when no store fails: which calls open a session, and what
each of the others changes.

* `Service.Admissible`: what has to be in order before the proof is looked at.
* `Service.submitProof_of_passes`, `Service.submitProof_of_not_passes`: what is changed if all
  checks pass, and if not.
* `Storage.Keeps.settled`: in memory every request is settled but those that offer what cannot be
  kept.
* `Service.Judged`: what is to be known of a verification; `verification_judged`: it holds in every
  storage that requests have written.
-/

namespace DeviceAuth

open Operation LedgerStore

/-- What the server is at fault for does not count against a device. -/
theorem AuthError.not_countsAgainstDevice_of_isServerFault {error : AuthError}
    (fault : error.isServerFault = true) : error.countsAgainstDevice = false := by
  rw [← Bool.not_eq_true]
  intro counts
  rw [not_isServerFault_of_countsAgainstDevice counts] at fault
  cases fault

namespace Service

variable {service : Service} {sessionId deviceId challengeId : String} {proof : Bytes}
  {values : PublicValues} {state : State Storage} {resolution : Resolution}
  {records : MemoryStore}

/-! ### What is admissible -/

/-- **What has to be in order before the proof is looked at.** -/
structure Admissible (deviceId challengeId : String) (values : PublicValues) (state : State Storage)
    (challenge : Challenge) (device : Credential) : Prop where
  stored : RecordStore.challenge challengeId state.store = .ok (some challenge)
  inTime : state.now ≤ challenge.expiresAt
  unused : challenge.used = false
  enrolled : RecordStore.device deviceId state.store = .ok (some device)
  active : device.standing = .active
  issuedTo : challenge.deviceId = deviceId
  identity : DeviceId.encode deviceId = .ok values.deviceId
  nonce : values.challenge = challenge.nonce
  commitment : values.commitment = device.commitment

theorem checkValues_eq_ok_iff {challenge : Challenge} {device : Credential} :
    checkValues challenge device values = .ok () ↔
      challenge.deviceId = device.deviceId ∧
        DeviceId.encode device.deviceId = .ok values.deviceId ∧
        values.challenge = challenge.nonce ∧ values.commitment = device.commitment := by
  unfold checkValues
  by_cases issuedTo : challenge.deviceId = device.deviceId
  · rcases DeviceId.encode device.deviceId with error | word
    · simp [issuedTo, AuthError.liftZkp, Except.mapError, bind, Except.bind]
    · by_cases identity : values.deviceId = word
      · by_cases nonce : values.challenge = challenge.nonce <;>
          by_cases commitment : values.commitment = device.commitment <;>
          simp [issuedTo, identity, nonce, commitment, bind, Except.bind]
      · simp [issuedTo, identity, Ne.symm identity, bind, Except.bind]
  · simp [issuedTo]

/-- The checks of an attempt are those of what is admissible, where devices are filed under their
own ids. -/
theorem examined_iff_admissible (filed : (LedgerStore.ledger state.store).filed)
    {challenge : Challenge} {device : Credential} :
    Examined deviceId challengeId values state challenge device ↔
      Admissible deviceId challengeId values state challenge device := by
  constructor
  · intro examined
    have own : device.deviceId = deviceId := device_found filed examined.known
    obtain ⟨issuedTo, identity, nonce, commitment⟩ := checkValues_eq_ok_iff.mp examined.matching
    exact ⟨examined.found, Instant.not_lt.mp (of_decide_eq_false examined.live), examined.unused,
      examined.known, of_decide_eq_true examined.active, issuedTo.trans own, own ▸ identity, nonce,
      commitment⟩
  · intro admissible
    have own : device.deviceId = deviceId := device_found filed admissible.enrolled
    exact ⟨admissible.stored, decide_eq_false (Instant.not_lt.mpr admissible.inTime),
      admissible.unused, admissible.enrolled, decide_eq_true admissible.active,
      checkValues_eq_ok_iff.mpr ⟨admissible.issuedTo.trans own.symm, own.symm ▸ admissible.identity,
        admissible.nonce, admissible.commitment⟩⟩

theorem passes_iff_admissible (filed : (LedgerStore.ledger state.store).filed)
    {challenge : Challenge} {device : Credential} :
    Passes service deviceId challengeId proof values state challenge device ↔
      Admissible deviceId challengeId values state challenge device ∧
        service.checker.check proof values = .ok true :=
  ⟨fun passes => ⟨(examined_iff_admissible filed).mp passes.examined, passes.valid⟩,
    fun ⟨admissible, valid⟩ => ((examined_iff_admissible filed).mpr admissible).passes valid⟩

/-! ### What is refused -/

/-- What the checker refuses counts against the device, or the server is at fault. -/
theorem judged_ofZkp (error : ZkpError) : (AuthError.ofZkp error).countsAgainstDevice = true ∨
    (AuthError.ofZkp error).isServerFault = true := by
  cases error <;> first | exact .inl rfl | exact .inr rfl

/-- **A verification of which not all checks pass** is refused, and at most one failure is counted;
none if the server is at fault. -/
theorem submitProof_of_not_passes {expiresAt : Instant}
    (lasts : state.now.add? service.sessions.lifetime = some expiresAt)
    (answered : (service.submitProof sessionId deviceId challengeId proof values).Answered state)
    (never : ∀ challenge device,
      ¬ Passes service deviceId challengeId proof values state challenge device) :
    ∃ error, (error.countsAgainstDevice = true ∨ error.isServerFault = true) ∧
      (service.submitProof sessionId deviceId challengeId proof values).run state =
        (.error (.refused error),
          if state.counts deviceId error then
            { state with counters := (state.counters.countFailure deviceId).2 }
          else state) := by
  let judged (failure : Failure) : Prop := ∃ error, failure = .refused error ∧
    (error.countsAgainstDevice = true ∨ error.isServerFault = true)
  have fails : FailsOnly (Request.SettledAt state.now state.license) judged
      (service.submitProof sessionId deviceId challengeId proof values) :=
    failsOnly_submitProof (tolerates_settledAt _ _ _) (fun _ answered => answered.2)
      (fun error counts => ⟨error, rfl, .inl counts⟩)
      (fun error _ => ⟨_, rfl, judged_ofZkp error⟩) lasts
  have judges := fails.run answered.settledAt
  rcases attempt_run service sessionId deviceId challengeId proof values state with
    ⟨failure, stops, _⟩ | ⟨challenge, device, passes, _⟩
  · unfold submitProof at judges ⊢
    rw [run_onRefusal, stops] at judges ⊢
    rcases failure with error | _
    · simp only [holdAgainst_eq] at judges ⊢
      obtain ⟨_, ⟨⟩, kind⟩ := judges _ rfl
      exact ⟨error, kind, rfl⟩
    · obtain ⟨_, ⟨⟩, _⟩ := judges _ rfl
  · exact absurd passes (never challenge device)

variable (service sessionId deviceId challengeId proof values) in
/-- Where something else is not in order, a verification does not depend on the checker. -/
theorem submitProof_inadmissible (filed : (LedgerStore.ledger state.store).filed)
    (inadmissible : ∀ challenge device,
      ¬ Admissible deviceId challengeId values state challenge device) (checker : ProofChecker) :
    ({ service with checker }.submitProof sessionId deviceId challengeId proof values).run state =
      (service.submitProof sessionId deviceId challengeId proof values).run state := by
  simp only [submitProof, run_onRefusal, attempt_run_eq, run_bind]
  rcases examine_run deviceId challengeId values state with
    ⟨failure, stops, _⟩ | ⟨challenge, device, examined, _⟩
  · rw [stops]
  · exact absurd ((examined_iff_admissible filed).mp examined) (inadmissible challenge device)

/-! ### What a verification comes to -/

/-- **What a verification comes to,** over a storage that keeps some records. -/
structure Judged (service : Service) (sessionId deviceId challengeId : String) (proof : Bytes)
    (values : PublicValues) (expiresAt : Instant) (state : State Storage)
    (resolution : Resolution) (records : MemoryStore) : Prop where
  /-- A session is opened exactly when all is in order and the proof is valid. -/
  opens_iff : (∃ session,
      ((service.submitProof sessionId deviceId challengeId proof values).run state).1 =
        .ok session) ↔
    ∃ challenge device, Admissible deviceId challengeId values state challenge device ∧
      service.checker.check proof values = .ok true
  /-- Then the challenge is used, the failures are forgotten, and the session is there. -/
  opened : ∀ session after,
    (service.submitProof sessionId deviceId challengeId proof values).run state =
        (.ok session, after) →
      session = service.sessions.opening sessionId deviceId state.now expiresAt ∧
      ∃ store : Storage, store.Keeps resolution
          { records with
            challenges := records.challenges.update challengeId fun challenge =>
              { challenge with used := true }
            sessions := records.sessions.put sessionId session } ∧
        after = { state with store, counters := state.counters.forget deviceId }
  /-- Otherwise at most one failure is counted; none if the server is at fault. -/
  refused : ∀ failure after,
    (service.submitProof sessionId deviceId challengeId proof values).run state =
        (.error failure, after) →
      ∃ error, failure = .refused error ∧
        (error.isServerFault = true → after = state) ∧
        (error.isServerFault = false → after =
          { state with counters :=
              if DeviceId.encodable deviceId && state.knows deviceId then
                (state.counters.countFailure deviceId).2
              else state.counters })
  /-- Unless all else is in order, no checker is asked. -/
  unconsulted :
    (∀ challenge device, ¬ Admissible deviceId challengeId values state challenge device) →
      ∀ checker,
        ({ service with checker }.submitProof sessionId deviceId challengeId proof values).run
            state =
          (service.submitProof sessionId deviceId challengeId proof values).run state

/-- A challenge that passes is used up, where records can be changed. -/
theorem spendChallenge_of_passes (keeps : state.store.Keeps resolution records)
    {challenge : Challenge} {device : Credential}
    (passes : Passes service deviceId challengeId proof values state challenge device) :
    ∃ store : Storage, store.Keeps resolution
        { records with challenges := records.challenges.update challengeId fun challenge =>
          { challenge with used := true } } ∧
      RecordStore.spendChallenge challengeId state.store = .ok (true, store) := by
  obtain ⟨stored, held, read⟩ :=
    Dictionary.exists_of_read ((keeps.challenge challengeId).symm.trans passes.found)
  have unused : stored.used = false := by
    rw [← Resolution.used_of_readChallenge read, passes.unused]
  have spent : records.spendChallenge challengeId =
      (true, { records with challenges := records.challenges.update challengeId fun challenge =>
        { challenge with used := true } }) := by
    simp only [MemoryStore.spendChallenge, held, unused, Bool.false_eq_true, if_false]
  obtain ⟨store, spends, keepsThen⟩ := keeps.spendChallenge challengeId
  rw [spent] at spends keepsThen
  exact ⟨store, keepsThen, spends⟩

/-- Where all checks pass, the challenge is used up and a session is opened. -/
theorem submitProof_of_passes {expiresAt : Instant} (keeps : state.store.Keeps resolution records)
    (fresh : records.sessions.get? sessionId = none)
    (lasts : state.now.add? service.sessions.lifetime = some expiresAt) {challenge : Challenge}
    {device : Credential}
    (passes : Passes service deviceId challengeId proof values state challenge device) :
    ∃ store : Storage, store.Keeps resolution
        { records with
          challenges := records.challenges.update challengeId fun challenge =>
            { challenge with used := true }
          sessions := records.sessions.put sessionId
            (service.sessions.opening sessionId deviceId state.now expiresAt) } ∧
      (service.submitProof sessionId deviceId challengeId proof values).run state =
        (.ok (service.sessions.opening sessionId deviceId state.now expiresAt),
          { state with store, counters := state.counters.forget deviceId }) := by
  obtain ⟨spent, keepsThen, spends⟩ := spendChallenge_of_passes keeps passes
  obtain ⟨store, kept, opens⟩ := submitProof_opens passes spends keepsThen fresh lasts
  have own : device.deviceId = deviceId := device_found keeps.filed passes.known
  rw [own] at kept opens
  exact ⟨store, kept, opens⟩

end Service

/-! ### In memory -/

/-- Whether a request offers something that a storage may not be able to keep. -/
def Request.Offers : Request → Prop
  | enroll _ | addChallenge _ => True
  | _ => False

theorem Request.IsRead.offersNothing {request : Request} (read : request.IsRead) :
    ¬ request.Offers := by
  cases request <;> first | exact id | exact read.elim

/-- A change that succeeds is settled. -/
theorem State.settled_change {σ α : Type} {state : State σ} {result : Except AuthError (α × σ)}
    {answer : α} {store : σ} (succeeds : result = .ok (answer, store)) :
    Request.errorOf? (state.change result).1 = none := by
  rw [succeeds]
  rfl

/-- **In memory every request is settled** but those that offer what cannot be kept. -/
theorem Storage.Keeps.settled {state : State Storage} {records : MemoryStore}
    (keeps : state.store.Keeps .nanoseconds records) {request : Request}
    (offersNothing : ¬ request.Offers) : request.Settled (request.perform state).1 := by
  have reads {α : Type} (value? : Option α) :
      value?.mapM (Except.ok : α → Except AuthError α) = .ok value? := by
    cases value? <;> rfl
  cases request with
  | enroll _ | addChallenge _ => exact absurd trivial offersNothing
  | device deviceId =>
    exact Request.errorOf?_eq_none.mpr ⟨_, (keeps.device deviceId).trans (reads _)⟩
  | challenge challengeId =>
    exact Request.errorOf?_eq_none.mpr ⟨_, (keeps.challenge challengeId).trans (reads _)⟩
  | session sessionId =>
    exact Request.errorOf?_eq_none.mpr ⟨_, (keeps.session sessionId).trans (reads _)⟩
  | liveDevices moment =>
    obtain ⟨live, lists, _⟩ := keeps.liveDevices moment
    exact Request.errorOf?_eq_none.mpr ⟨live, lists⟩
  | spendChallenge challengeId =>
    obtain ⟨after, spends, _⟩ := keeps.spendChallenge challengeId
    exact State.settled_change spends
  | dropChallenges moment =>
    obtain ⟨after, drops, _⟩ := keeps.dropChallenges moment
    exact State.settled_change drops
  | addSession added =>
    have free : Resolution.nanoseconds = .milliseconds →
      records.sessions.get? added.sessionId = none := nofun
    obtain ⟨after, adds, _⟩ := keeps.addSession free
    exact State.settled_change (congrArg (Except.map fun store => ((), store)) adds)
  | noteUse sessionId usedAt =>
    obtain ⟨after, notes, _⟩ := keeps.noteUse sessionId usedAt
    exact State.settled_change notes
  | prolongSession sessionId expiresAt token =>
    obtain ⟨after, prolongs, _⟩ := keeps.prolongSession sessionId expiresAt token
    exact State.settled_change prolongs
  | removeSession sessionId =>
    obtain ⟨after, removes, _⟩ := keeps.removeSession sessionId
    exact State.settled_change removes
  | dropSessions moment =>
    obtain ⟨after, drops, _⟩ := keeps.dropSessions moment
    exact State.settled_change drops
  | _ => rfl

/-- **An operation that offers nothing is answered,** in memory. -/
theorem Operation.Only.answered {α : Type} {operation : Operation α}
    (only : Only (fun request => ¬ request.Offers) operation) {state : State Storage}
    (written : state.store.Written) (inMemory : state.store.InMemory) :
    operation.Answered state := by
  obtain ⟨resolution, records, keeps⟩ := written.keeps
  obtain rfl := keeps.inMemory_iff.mp inMemory
  refine only.meets (fun state => ∃ records, state.store.Keeps .nanoseconds records)
    (fun request state offersNothing ⟨records, keeps⟩ => ?_) ⟨records, keeps⟩
  exact ⟨keeps.settled offersNothing, _, keeps.applied request⟩

/-- A verification offers nothing. -/
theorem Service.offersNothing_submitProof (service : Service)
    (sessionId deviceId challengeId : String) (proof : Bytes) (values : PublicValues) :
    Only (fun request => ¬ request.Offers)
      (service.submitProof sessionId deviceId challengeId proof values) :=
  service.only_submitProof (fun _ read => read.offersNothing) (fun _ => id) (fun _ => id)
    (fun _ => id) (fun _ => id) sessionId deviceId challengeId proof values

/-- **The outcome and the effect of a verification,** in every storage that requests have written,
if no store fails, the id of the session is new and its expiry is an instant. -/
theorem verification_judged (service : Service) (sessionId deviceId challengeId : String)
    (proof : Bytes) (values : PublicValues) {state : State Storage} {expiresAt : Instant}
    (written : state.store.Written)
    (answered : (service.submitProof sessionId deviceId challengeId proof values).Answered state)
    (fresh : RecordStore.session sessionId state.store = .ok none)
    (lasts : state.now.add? service.sessions.lifetime = some expiresAt) :
    ∃ resolution records, state.store.Keeps resolution records ∧
      records.sessions.get? sessionId = none ∧
      service.Judged sessionId deviceId challengeId proof values expiresAt state resolution
        records := by
  obtain ⟨resolution, records, keeps⟩ := written.keeps
  have unheld := keeps.get?_of_session fresh
  refine ⟨resolution, records, keeps, unheld, ?_⟩
  have unconsulted := service.submitProof_inadmissible sessionId deviceId challengeId proof values
    keeps.filed
  rcases service.attempt_run sessionId deviceId challengeId proof values state with
    ⟨_, _, never⟩ | ⟨challenge, device, passes, _⟩
  · obtain ⟨error, kind, refuses⟩ := Service.submitProof_of_not_passes lasts answered never
    refine ⟨?_, ?_, ?_, unconsulted⟩
    · rw [refuses]
      constructor
      · rintro ⟨_, same⟩
        cases same
      rintro ⟨challenge, device, admissible⟩
      have passes := (Service.passes_iff_admissible keeps.filed).mpr admissible
      exact absurd passes (never challenge device)
    · rw [refuses]
      intro _ _ same
      cases congrArg Prod.fst same
    · rw [refuses]
      rintro _ _ ⟨⟩
      refine ⟨error, rfl, fun fault => ?_, fun innocent => ?_⟩
      · rw [State.counts, AuthError.not_countsAgainstDevice_of_isServerFault fault, Bool.and_false]
        rfl
      · rw [State.counts, kind.resolve_right (by rw [innocent]; exact Bool.false_ne_true),
          Bool.and_true]
        split <;> rfl
  · obtain ⟨store, kept, opens⟩ := Service.submitProof_of_passes keeps unheld lasts passes
    refine ⟨?_, ?_, ?_, unconsulted⟩
    · rw [opens]
      exact ⟨fun _ => ⟨challenge, device, (Service.passes_iff_admissible keeps.filed).mp passes⟩,
        fun _ => ⟨_, rfl⟩⟩
    · rw [opens]
      rintro _ _ ⟨⟩
      exact ⟨rfl, store, kept, rfl⟩
    · rw [opens]
      intro _ _ same
      cases congrArg Prod.fst same

/-! A device gets in with the challenge that it has been offered. -/

namespace Sample

/-- The challenge that is offered. -/
def pending : Challenge where
  challengeId := "challenge"
  deviceId := "device"
  nonce := .ofNat 2
  createdAt := epoch
  expiresAt := nextSecond
  used := false

/-- The state in which the device is enrolled and has been offered the challenge. -/
def challenged : State Storage :=
  ((Request.addChallenge pending).perform ((Request.enroll device).perform vacant).2).2

theorem written_challenged : challenged.store.Written :=
  .perform _ _ (.perform _ _ (.vacant trivial (.inl rfl)))

end Sample

open Sample in
theorem verification_judged_admitting :
    (∃ session, ((service.submitProof "session" "device" "challenge" [1] (values 2)).run
      challenged).1 = .ok session) ∧
    ∃ resolution records, challenged.store.Keeps resolution records ∧
      records.sessions.get? "session" = none ∧
      service.Judged "session" "device" "challenge" [1] (values 2) nextSecond challenged resolution
        records := by
  refine ⟨⟨_, rfl⟩, verification_judged service "session" "device" "challenge" [1] (values 2)
    written_challenged ?_ rfl (by decide)⟩
  exact (service.offersNothing_submitProof ..).answered written_challenged ⟨_, rfl⟩

end DeviceAuth
