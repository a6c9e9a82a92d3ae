import DeviceAuth.Proofs.Auth.Exact
import DeviceAuth.Proofs.Auth.Footprint
import DeviceAuth.Proofs.Auth.SessionRecords

/-!
**A challenge that waits for its device.** Until it expires, only a verification that succeeds uses
a challenge up, and only enrolling the device again changes what the device is checked against. All
else that can happen to a service leaves both as they are: failed verifications of the challenge,
other challenges with its id, which are refused, and the removal of what has expired.

* `State.Awaits`: a challenge is kept and unused, and a device is kept.
* `Awaits.perform`: what a request may do, so that this stays so.
* `Service.perform_awaits`, `Service.after_awaits`: the same for calls, and along runs.
-/

namespace DeviceAuth

open Operation Storage

/-! ### Challenges as they are read back -/

/-- A challenge in no leap second, with a canonical nonce. -/
structure Challenge.IsPlain (challenge : Challenge) : Prop where
  nonce : challenge.nonce.IsCanonical
  createdAt : challenge.createdAt.isLeap = false
  expiresAt : challenge.expiresAt.isLeap = false

/-- A challenge as it is read back. -/
def Challenge.floor (resolution : Resolution) (challenge : Challenge) : Challenge :=
  { challenge with
    createdAt := resolution.floor challenge.createdAt
    expiresAt := resolution.floor challenge.expiresAt }

theorem Resolution.readChallenge_of_plain (resolution : Resolution) {challenge : Challenge}
    (plain : challenge.IsPlain) :
    resolution.readChallenge challenge = .ok (challenge.floor resolution) := by
  cases resolution
  · rfl
  · have used : decide ((if challenge.used = true then (1 : Int) else 0) ≠ 0) = challenge.used := by
      cases challenge.used <;> rfl
    simp only [readChallenge, ChallengeRow.toChallenge, ChallengeRow.ofChallenge,
      readWord_toHex plain.nonce, Cell.readInstant_eq plain.createdAt,
      Cell.readInstant_eq plain.expiresAt, Cell.readInteger, bind, Except.bind, used]
    rfl

/-! ### Requests -/

namespace MemoryStore

variable {records : MemoryStore}

/-- Using one challenge up leaves the others. -/
theorem get?_spendChallenge {challengeId other : String} (different : other ≠ challengeId) :
    (records.spendChallenge challengeId).2.challenges.get? other =
      records.challenges.get? other := by
  unfold spendChallenge
  split
  · split
    · rfl
    · rw [Dictionary.get?_update, if_neg different]
  · rfl

/-- An unused challenge can be used up. -/
theorem spendChallenge_unused {challenge : Challenge} {challengeId : String}
    (held : records.challenges.get? challengeId = some challenge)
    (unused : challenge.used = false) : (records.spendChallenge challengeId).1 = true := by
  unfold spendChallenge
  simp only [held, unused]
  rfl

end MemoryStore

/-- **A challenge and a device are kept** as they are. -/
structure MemoryStore.Waits (challenge : Challenge) (device : Credential) (records : MemoryStore) :
    Prop where
  challenge : records.challenges.get? challenge.challengeId = some challenge
  device : records.devices.get? device.deviceId = some device

@[inherit_doc MemoryStore.Waits]
def State.Awaits (resolution : Resolution) (challenge : Challenge) (device : Credential)
    (state : State Storage) : Prop :=
  ∃ records, state.store.Keeps resolution records ∧ records.Waits challenge device

/-- Whether a request leaves a challenge and a device as they are kept. -/
def Request.Leaves (resolution : Resolution) (challenge : Challenge) (device : Credential) :
    Request → Prop
  | enroll other => other.deviceId ≠ device.deviceId
  | spendChallenge challengeId => challengeId ≠ challenge.challengeId
  | dropChallenges moment => resolution.isPast challenge.expiresAt moment = false
  | _ => True

section Waiting

variable {resolution : Resolution} {challenge : Challenge} {device : Credential}
  {state : State Storage} {service : Service}

theorem Request.IsRead.leaves {request : Request} (read : request.IsRead) :
    request.Leaves resolution challenge device := by
  cases request <;> first | exact trivial | cases read

/-- The records that a request makes still hold what the request leaves. -/
theorem MemoryStore.Waits.applied {records : MemoryStore} (waits : records.Waits challenge device)
    (distinct : records.challenges.Distinct) {request : Request}
    (leaves : request.Leaves resolution challenge device) :
    (request.applied resolution records).Waits challenge device := by
  cases request with
  | enroll other =>
    simp only [Request.applied]
    split
    · refine ⟨waits.challenge, ?_⟩
      rw [Dictionary.get?_put, if_neg (Ne.symm leaves), waits.device]
    · exact waits
  | addChallenge added =>
    simp only [Request.applied]
    split
    · exact waits
    · next free =>
      refine ⟨?_, waits.device⟩
      have other : challenge.challengeId ≠ added.challengeId := by
        intro same
        rw [← same, waits.challenge] at free
        exact free rfl
      rw [Dictionary.get?_put, if_neg other, waits.challenge]
  | addSession added =>
    simp only [Request.applied]
    split
    · exact waits
    · exact ⟨waits.challenge, waits.device⟩
  | spendChallenge challengeId =>
    refine ⟨?_, ?_⟩
    · rw [Request.applied, get?_spendChallenge (Ne.symm leaves), waits.challenge]
    · rw [Request.applied, records.devices_spendChallenge, waits.device]
  | dropChallenges moment =>
    refine ⟨?_, waits.device⟩
    have kept : (dropExpired (fun held => resolution.isPast held.expiresAt moment)
        records.challenges).2.get? challenge.challengeId =
          (records.challenges.get? challenge.challengeId).filter
            fun held => !resolution.isPast held.expiresAt moment :=
      distinct.get?_filter fun held => !resolution.isPast held.expiresAt moment
    have current : resolution.isPast challenge.expiresAt moment = false := leaves
    rw [Request.applied, kept, waits.challenge, Option.filter_some, current]
    rfl
  | noteUse _ _ | prolongSession _ _ _ =>
    simp only [Request.applied, updateSession]
    split <;> exact ⟨waits.challenge, waits.device⟩
  | removeSession _ =>
    simp only [Request.applied, removeSession]
    split <;> exact ⟨waits.challenge, waits.device⟩
  | _ => exact ⟨waits.challenge, waits.device⟩

namespace State.Awaits

/-- **A request that leaves them** leaves them. -/
theorem perform (awaits : state.Awaits resolution challenge device) {request : Request}
    (leaves : request.Leaves resolution challenge device) :
    (request.perform state).2.Awaits resolution challenge device := by
  obtain ⟨records, keeps, waits⟩ := awaits
  exact ⟨_, keeps.applied request, waits.applied keeps.tidy.challenges.distinct leaves⟩

/-- An operation all of whose requests leave them leaves them. -/
theorem run {α : Type} {operation : Operation α} (awaits : state.Awaits resolution challenge device)
    (only : Only (Request.Leaves resolution challenge device) operation) :
    (operation.run state).2.Awaits resolution challenge device :=
  only.run_preserves (fun _ _ leaves awaits => awaits.perform leaves) state awaits

/-- The challenge is read, with its instants rounded down. -/
theorem challenge_eq (awaits : state.Awaits resolution challenge device)
    (plain : challenge.IsPlain) :
    RecordStore.challenge challenge.challengeId state.store =
      .ok (some (challenge.floor resolution)) := by
  obtain ⟨records, keeps, waits⟩ := awaits
  rw [keeps.challenge, waits.challenge]
  simp only [Option.mapM_some, resolution.readChallenge_of_plain plain]
  rfl

/-- The device is read as it is read at any time. -/
theorem device_eq {credential : Credential} (awaits : state.Awaits resolution challenge device)
    (read : resolution.readDevice device = .ok credential) :
    RecordStore.device device.deviceId state.store = .ok (some credential) := by
  obtain ⟨records, keeps, waits⟩ := awaits
  rw [keeps.device, waits.device]
  simp only [Option.mapM_some, read]
  rfl

/-- If it is unused, the challenge can be used up. -/
theorem spends (awaits : state.Awaits resolution challenge device)
    (unused : challenge.used = false) :
    ∃ spent, RecordStore.spendChallenge challenge.challengeId state.store = .ok (true, spent) := by
  obtain ⟨records, keeps, waits⟩ := awaits
  obtain ⟨spent, answered, _⟩ := keeps.spendChallenge challenge.challengeId
  rw [MemoryStore.spendChallenge_unused waits.challenge unused] at answered
  exact ⟨spent, answered⟩

end State.Awaits

/-! ### Verifications -/

/-- Where all checks pass and the challenge can be used up, only a fault keeps the session from
being opened. -/
theorem Service.submitProof_fault {sessionId deviceId challengeId : String} {proof : Bytes}
    {values : PublicValues} {failure : Failure}
    (redeemable : Redeemable service deviceId challengeId proof values state)
    (failed : ((service.submitProof sessionId deviceId challengeId proof values).run state).1 =
      .error failure) : failure.isFault = true := by
  obtain ⟨held, holder, spent, passes, spends⟩ := redeemable
  unfold submitProof at failed
  rw [run_onRefusal] at failed
  rcases attempt_run service sessionId deviceId challengeId proof values state with
    ⟨_, _, never⟩ | ⟨_, other, _, goes⟩
  · exact absurd passes (never held holder)
  rw [goes] at failed
  simp only [redeem, run_bind, run_spendChallenge, spends, if_true, run_forgetFailures] at failed
  rcases created : (service.sessions.create sessionId other.deviceId).run
    { state with store := spent, counters := state.counters.forget deviceId } with
    ⟨cause | session, after⟩ <;> rw [created] at failed
  · have fault := SessionPolicy.create_fault created
    rcases cause with error | _
    · obtain ⟨_, _, ran⟩ := holdAgainst_run deviceId error after
      simp only [ran] at failed
      cases failed
      exact fault
    · cases failed
      rfl
  · cases failed

/-- A verification that opens no session for the challenge, and meets no fault, leaves the
challenge and the device. -/
theorem Service.submitProof_awaits {sessionId deviceId challengeId : String} {proof : Bytes}
    {values : PublicValues} (awaits : state.Awaits resolution challenge device)
    (unused : challenge.used = false)
    (fails : challengeId = challenge.challengeId → ∃ failure,
      ((service.submitProof sessionId deviceId challengeId proof values).run state).1 =
        .error failure ∧ failure.isFault = false) :
    ((service.submitProof sessionId deviceId challengeId proof values).run state).2.Awaits
      resolution challenge device := by
  -- If this challenge can be redeemed, it is, or there is a fault.
  have other : Redeemable service deviceId challengeId proof values state →
      challengeId ≠ challenge.challengeId := by
    rintro redeemable own
    obtain ⟨failure, failed, sound⟩ := fails own
    rw [submitProof_fault redeemable failed] at sound
    cases sound
  have spending : ∀ {spent : Bool} {store : Storage},
      RecordStore.spendChallenge challengeId state.store = .ok (spent, store) →
        challengeId ≠ challenge.challengeId →
          State.Awaits resolution challenge device { state with store } := by
    intro spent store spends different
    have leaves : (Request.spendChallenge challengeId).Leaves resolution challenge device :=
      different
    have after := awaits.perform leaves
    simp only [Request.perform, spends] at after
    exact after
  have submitted := service.submitProof_run sessionId deviceId challengeId proof values state
  generalize (service.submitProof sessionId deviceId challengeId proof values).run state = outcome
    at submitted ⊢
  cases submitted with
  | refused failure store counters kept _ _ =>
    rcases kept with rfl | spends
    · exact awaits
    · refine spending spends ?_
      rintro rfl
      obtain ⟨spent, answered⟩ := awaits.spends unused
      rw [answered] at spends
      cases spends
  | lost held holder failure store passes spends =>
    exact spending spends (other ⟨held, holder, store, passes, spends⟩)
  | opened held holder session spent store passes spends added _ _ =>
    have between := spending spends (other ⟨held, holder, spent, passes, spends⟩)
    have leaves : (Request.addSession session).Leaves resolution challenge device := trivial
    have after := between.perform leaves
    simp only [Request.perform, added] at after
    exact after

/-! ### Calls -/

/-- **A call leaves a challenge that has not expired, and its device,** unless it enrolls the
device, opens a session for the challenge, or meets a fault. -/
theorem Service.perform_awaits {call : Call} (awaits : state.Awaits resolution challenge device)
    (unused : challenge.used = false)
    (current : resolution.isPast challenge.expiresAt state.now = false)
    (others : ∀ credential, call = .enroll credential → credential.deviceId ≠ device.deviceId)
    (unopened : ∀ opening, Event.opening? ⟨call, (service.perform call state).1⟩ = some opening →
      opening.challengeId ≠ challenge.challengeId)
    (sound : Event.isFault ⟨call, (service.perform call state).1⟩ = false) :
    (service.perform call state).2.Awaits resolution challenge device := by
  have reads : ∀ request : Request, request.IsRead →
      request.Leaves resolution challenge device := fun _ => Request.IsRead.leaves
  -- A verification of this challenge fails, and meets no fault.
  have fails : ∀ deviceId {challengeId : String} {result : Except Failure Session},
      (∀ opening, (result.toOption.map fun session =>
          (⟨deviceId, challengeId, session⟩ : Opening)) = some opening →
        opening.challengeId ≠ challenge.challengeId) →
      (∀ failure, result = .error failure → failure.isFault = false) →
      challengeId = challenge.challengeId →
        ∃ failure, result = .error failure ∧ failure.isFault = false := by
    rintro deviceId challengeId (failure | session) unopened sound own
    · exact ⟨failure, rfl, sound failure rfl⟩
    · exact absurd own (unopened _ rfl)
  cases call with
  | issueChallenge challengeId nonce deviceId =>
    exact awaits.run (service.only_issueChallenge reads (fun _ => trivial) _ _ _)
  | submitProof sessionId deviceId challengeId proof values =>
    refine submitProof_awaits awaits unused (fails deviceId ?_ fun failure failed => ?_)
    · rwa [Event.opening?_submitProof] at unopened
    · simpa only [Event.isFault, perform, failed] using sound
  | submit sessionId request =>
    rw [Event.opening?_submit] at unopened
    simp only [perform, submit, Event.isFault] at unopened sound ⊢
    rcases decoded : request.proof.decodedProof with error | proof <;>
      simp only [decoded] at unopened sound ⊢
    · obtain ⟨counters, _, ran⟩ := holdAgainst_run request.deviceId (.ofZkp error) state
      rw [ran]
      exact awaits
    · refine submitProof_awaits awaits unused (fails _ unopened fun failure failed => ?_)
      simpa only [failed] using sound
  | acceptToken token =>
    exact awaits.run (service.sessions.only_accept reads token fun _ _ => trivial)
  | extendSession token =>
    exact awaits.run (service.sessions.only_extend reads token (fun _ _ => trivial)
      fun _ _ _ => trivial)
  | endSession sessionId =>
    exact awaits.run (SessionPolicy.only_close (fun _ => trivial) sessionId)
  | endByToken token =>
    exact awaits.run (service.only_endByToken reads token (fun _ _ => trivial) fun _ => trivial)
  | removeExpired =>
    have leaves : (Request.dropChallenges state.now).Leaves resolution challenge device := current
    have only : Only (Request.Leaves resolution challenge device)
        (do
          let challenges ← dropChallenges state.now
          let sessions ← dropSessions state.now
          return (challenges, sessions)) :=
      .bind (.request _ _ leaves) fun _ => .bind (.request _ _ trivial) fun _ => .pure _
    have after := awaits.run only
    exact after
  | enroll credential =>
    have leaves : (Request.enroll credential).Leaves resolution challenge device :=
      others credential rfl
    exact awaits.run (.request _ _ leaves)
  | forgetFailures _ | replaceLicense _ | setClock _ => exact awaits

/-- **Runs** that neither enroll the device again, nor open a session for the challenge, nor meet a
fault. -/
structure Uneventful (service : Service) (challenge : Challenge) (deviceId : String)
    (start : State Storage) (calls : List Call) : Prop where
  timely : Timely start.now calls
  others : ∀ credential, .enroll credential ∈ calls → credential.deviceId ≠ deviceId
  unopened : ∀ opening ∈ Event.openings (service.events calls start),
    opening.challengeId ≠ challenge.challengeId
  sound : ∀ event ∈ service.events calls start, event.isFault = false

/-- Along such a run a challenge waits until it expires. -/
theorem Service.after_awaits {calls : List Call}
    (awaits : state.Awaits resolution challenge device) (unused : challenge.used = false)
    (plain : challenge.expiresAt.isLeap = false) (plainNow : state.now.isLeap = false)
    (uneventful : Uneventful service challenge device.deviceId state calls)
    (inTime : (service.after calls state).now ≤ challenge.expiresAt) :
    (service.after calls state).Awaits resolution challenge device := by
  induction calls generalizing state with
  | nil => exact awaits
  | cons call rest ih =>
    have order := (service.inOrder_sessionEvents plainNow uneventful.timely).1.le
    have current : resolution.isPast challenge.expiresAt state.now = false :=
      Resolution.not_isPast_of_le plain plainNow (Instant.le_trans order inTime)
    have next : (service.perform call state).2.Awaits resolution challenge device := by
      refine perform_awaits awaits unused current (fun credential same => ?_)
        (fun opening opens => ?_) ?_
      · exact uneventful.others credential (same ▸ List.mem_cons_self)
      · exact uneventful.unopened opening (List.mem_filterMap.mpr ⟨_, List.mem_cons_self, opens⟩)
      · exact uneventful.sound _ List.mem_cons_self
    obtain ⟨_, plainNext, timely⟩ := uneventful.timely
    rw [← service.perform_now] at plainNext timely
    refine ih next plainNext ⟨timely, ?_, ?_, ?_⟩ inTime
    · exact fun credential member => uneventful.others credential (List.mem_cons_of_mem _ member)
    · intro opening member
      obtain ⟨event, inside, opens⟩ := List.mem_filterMap.mp member
      exact uneventful.unopened opening
        (List.mem_filterMap.mpr ⟨event, List.mem_cons_of_mem _ inside, opens⟩)
    · exact fun event member => uneventful.sound event (List.mem_cons_of_mem _ member)

end Waiting

end DeviceAuth
