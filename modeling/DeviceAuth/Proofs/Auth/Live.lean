import DeviceAuth.Proofs.Auth.History
import DeviceAuth.Proofs.Auth.Kept
import Mathlib.Data.Finset.Card

/-!
**Who holds a session.** `State.live` are the devices with a session that is live at the present of
a state. A call that opens a session adds its device, and no other call adds anybody: it removes
sessions, or makes one last longer that was live, or lets time pass.

* `Service.perform_live`: a call that opens no session leaves no more devices live.
* `Service.perform_opening`: a call that opens a session leaves one more device live, or as many.
-/

namespace DeviceAuth

open Operation Storage

/-- The devices that hold a session now. -/
def State.live (state : State Storage) : Finset String :=
  match RecordStore.liveDevices state.now state.store with
  | .ok devices => devices.toFinset
  | .error _ => ∅

/-! ### Time -/

namespace Resolution

variable {resolution : Resolution} {expiry now later : Instant}

/-- What is past stays past. -/
theorem isPast_mono (plain : now.isLeap = false) (plainLater : later.isLeap = false)
    (le : now ≤ later) (past : resolution.isPast expiry now = true) :
    resolution.isPast expiry later = true := by
  cases resolution <;> simp only [isPast, decide_eq_true_eq] at past ⊢
  · simp only [Instant.lt_def, Instant.le_def] at past le ⊢
    omega
  · have ordered := Instant.toMillis_le plain plainLater le
    omega

/-- What has not come is not past. -/
theorem not_isPast_of_le (plain : expiry.isLeap = false) (plainNow : now.isLeap = false)
    (le : now ≤ expiry) : resolution.isPast expiry now = false := by
  cases resolution <;> simp only [isPast, decide_eq_false_iff_not]
  · exact Instant.not_lt.mpr le
  · have ordered := Instant.toMillis_le plainNow plain le
    omega

/-- Whose expiry is read back as one that has not come, is not past. -/
theorem not_isPast_of_current {found : Instant}
    (same : ∀ now, resolution.isPast found now = resolution.isPast expiry now)
    (whole : resolution = .milliseconds → found.IsWhole) (plain : now.isLeap = false)
    (current : ¬ found < now) : resolution.isPast expiry now = false := by
  rw [← same]
  cases resolution
  · simpa only [isPast, decide_eq_false_iff_not] using current
  · exact not_isPast_of_le (whole rfl).plain plain (Instant.not_lt.mp current)

/-- A session that is read and has not expired is not past. -/
theorem not_isPast_of_read {session found : Session}
    (read : resolution.readSession session = .ok found) (plain : now.isLeap = false)
    (current : found.hasExpired now = false) :
    resolution.isPast session.expiresAt now = false := by
  obtain ⟨_, _, same, whole⟩ := of_readSession read
  exact not_isPast_of_current same whole plain (by simpa [Session.hasExpired] using current)

/-- A challenge that is read and has not expired is not past. -/
theorem not_isPast_of_readChallenge {challenge found : Challenge}
    (read : resolution.readChallenge challenge = .ok found) (plain : now.isLeap = false)
    (current : found.hasExpired now = false) :
    resolution.isPast challenge.expiresAt now = false := by
  obtain ⟨_, _, same, whole⟩ := of_readChallenge read
  exact not_isPast_of_current same whole plain (by simpa [Challenge.hasExpired] using current)

end Resolution

/-! ### The records behind it -/

section Kept

variable {resolution : Resolution} {records kept : MemoryStore} {state after : State Storage}

theorem mem_live (state : State Storage) (keeps : state.store.Keeps resolution records)
    {deviceId : String} :
    deviceId ∈ state.live ↔ ∃ sessionId session, (sessionId, session) ∈ records.sessions ∧
      resolution.isPast session.expiresAt state.now = false ∧ session.deviceId = deviceId := by
  obtain ⟨live, listed, _, mem_iff⟩ := keeps.liveDevices state.now
  simp only [State.live, listed, List.mem_toFinset, mem_iff, MemoryStore.mem_holders]

/-- Who is live later, with fewer sessions, is live now. -/
theorem live_subset (keeps : state.store.Keeps resolution records)
    (keepsAfter : after.store.Keeps resolution kept) (fewer : records.Fewer kept)
    (plain : state.now.isLeap = false) (plainAfter : after.now.isLeap = false)
    (later : state.now ≤ after.now) : after.live ⊆ state.live := by
  intro deviceId member
  obtain ⟨sessionId, session, inside, current, owned⟩ := (mem_live after keepsAfter).mp member
  obtain ⟨held, before, ownedBefore, expires⟩ := fewer sessionId session inside
  refine (mem_live state keeps).mpr ⟨sessionId, held, before, ?_, ownedBefore.trans owned⟩
  rw [expires, ← Bool.not_eq_true]
  intro past
  rw [Resolution.isPast_mono plain plainAfter later past] at current
  cases current

end Kept

/-! ### Operations -/

/-- No more sessions are kept than these. -/
def State.KeepsFewer (resolution : Resolution) (records : MemoryStore) (state : State Storage) :
    Prop :=
  ∃ kept, state.store.Keeps resolution kept ∧ records.Fewer kept

namespace Operation

/-- An operation that adds no session and prolongs none leaves no more. -/
theorem Only.run_fewer {α : Type} {operation : Operation α}
    (only : Only Request.Shortens operation) {resolution : Resolution} {records : MemoryStore}
    {state : State Storage} (keeps : state.store.Keeps resolution records) :
    (operation.run state).2.KeepsFewer resolution records := by
  refine only.run_preserves (fun request before shortens held => ?_) state
    ⟨records, keeps, .of_sessions rfl⟩
  obtain ⟨kept, keepsNow, fewer⟩ := held
  obtain ⟨left, keepsAfter, fewerYet⟩ := keepsNow.perform request
  exact ⟨left, keepsAfter, fewer.trans (fewerYet shortens)⟩

end Operation

theorem Request.IsRead.shortens {request : Request} (read : request.IsRead) : request.Shortens := by
  cases request <;> first | exact trivial | cases read

theorem SessionPolicy.shortens_accept (policy : SessionPolicy) (token : String) :
    Only Request.Shortens (policy.accept token) :=
  policy.only_accept (fun _ => Request.IsRead.shortens) token fun _ _ => trivial

theorem SessionPolicy.shortens_close (sessionId : String) :
    Only Request.Shortens (SessionPolicy.close sessionId) :=
  only_close (fun _ => trivial) sessionId

theorem Service.shortens_endByToken (service : Service) (token : String) :
    Only Request.Shortens (service.endByToken token) :=
  service.only_endByToken (fun _ => Request.IsRead.shortens) token (fun _ _ => trivial)
    fun _ => trivial

theorem Service.shortens_removeExpired : Only Request.Shortens Service.removeExpired :=
  only_removeExpired (fun _ => Request.IsRead.shortens) (fun _ => trivial) fun _ => trivial

theorem Service.shortens_issueChallenge (service : Service) (challengeId : String)
    (nonce : Word256) (deviceId : String) :
    Only Request.Shortens (service.issueChallenge challengeId nonce deviceId) :=
  service.only_issueChallenge (fun _ => Request.IsRead.shortens) (fun _ => trivial) challengeId nonce
    deviceId

/-! ### Calls -/

/-- The license stays, and time does not go back and is in no leap second. -/
def Call.IsSteady (now : Instant) : Call → Prop
  | .setClock later => now ≤ later ∧ later.isLeap = false
  | .replaceLicense _ => False
  | _ => True

section Calls

variable {service : Service} {resolution : Resolution} {records : MemoryStore}
  {state : State Storage} {call : Call}

theorem Instant.le_refl (now : Instant) : now ≤ now :=
  Int.le_refl now.position

/-- An operation that shortens leaves no more devices live. -/
theorem Operation.Only.run_live {α : Type} {operation : Operation α}
    (only : Only Request.Shortens operation) (keeps : state.store.Keeps resolution records)
    (plain : state.now.isLeap = false) : (operation.run state).2.live ⊆ state.live := by
  obtain ⟨kept, keepsAfter, fewer⟩ := only.run_fewer keeps
  have clock := (operation.run_sameTerms state).now
  exact live_subset keeps keepsAfter fewer plain (clock ▸ plain) (clock ▸ Instant.le_refl _)

/-- What is known of a token that is recognized, and of its session. -/
structure SessionPolicy.Recognized (policy : SessionPolicy) (token : String) (moment : Instant)
    (state : State Storage) (claims : TokenClaims) (session : Session) : Prop where
  verified : policy.tokenKey.verify token = .ok claims
  found : RecordStore.session claims.sessionId state.store = .ok (some session)
  current : session.hasExpired moment = false
  owned : session.deviceId = claims.deviceId

/-- What recognizing a token comes to. -/
theorem SessionPolicy.recognize_run (policy : SessionPolicy) (token : String) (moment : Instant)
    (state : State Storage) :
    (∃ failure, (policy.recognize token moment).run state = (.error failure, state)) ∨
      ∃ claims session, policy.Recognized token moment state claims session ∧
        (policy.recognize token moment).run state = (.ok (claims, session), state) := by
  unfold recognize
  simp only [run_bind, run_ofResult]
  rcases verified : policy.tokenKey.verify token with error | claims
  · exact .inl ⟨.refused error, rfl⟩
  simp only [Failure.lift_ok, run_session]
  rcases found : RecordStore.session claims.sessionId state.store with error | (_ | session)
  · exact .inl ⟨.refused error, rfl⟩
  · exact .inl ⟨.refused (.sessionNotFound claims.sessionId), rfl⟩
  cases expired : session.hasExpired moment
  · by_cases other : session.deviceId ≠ claims.deviceId
    · refine .inl ⟨.refused (.invalidToken "token device does not match session"), ?_⟩
      simp [expired, other]
    · rcases claims.checkPeriod moment with error | _
      · exact .inl ⟨.refused error, by simp [expired, other]⟩
      · exact .inr ⟨claims, session, ⟨verified, found, expired, Decidable.not_not.mp other⟩,
          by simp [expired, other]⟩
  · exact .inl ⟨.refused (.sessionExpired session.sessionId), by simp [expired]⟩

/-- Prolonging a live session leaves no more devices live. -/
theorem live_prolongSession {sessionId : String} {session : Session} {expiresAt : Instant}
    {token : String} {after : Storage} {found : Bool} {counters : FailureCounters}
    (keeps : state.store.Keeps resolution records) (plain : state.now.isLeap = false)
    (held : RecordStore.session sessionId state.store = .ok (some session))
    (current : session.hasExpired state.now = false)
    (prolonged : RecordStore.prolongSession session.sessionId expiresAt token state.store =
      .ok (found, after)) :
    State.live { state with store := after, counters } ⊆ state.live := by
  obtain ⟨own, inside, read⟩ :=
    Dictionary.exists_of_read ((keeps.session sessionId).symm.trans held)
  have notPast := Resolution.not_isPast_of_read read plain current
  have member := Dictionary.mem_of_get? inside
  have named : session.sessionId = sessionId :=
    (Resolution.of_readSession read).1.trans (keeps.tidy.sessions.keyed _ _ member)
  have keepsAfter := keeps.of_prolongSession prolonged
  intro deviceId isLive
  obtain ⟨other, left, insideAfter, currentAfter, owned⟩ :=
    (mem_live { state with store := after, counters } keepsAfter).mp isLive
  simp only [MemoryStore.updateSession, named, inside] at insideAfter
  obtain ⟨earlier, before, ⟨rfl, rfl⟩ | ⟨_, rfl⟩⟩ := Dictionary.mem_update insideAfter
  · have same := keeps.tidy.sessions.distinct.get?_eq_some_iff.mpr before
    rw [inside] at same
    cases same
    -- Whoever gains by it was live already.
    exact (mem_live state keeps).mpr ⟨other, own, member, notPast, owned⟩
  · exact (mem_live state keeps).mpr ⟨other, left, before, currentAfter, owned⟩

/-- Extending a session extends one that is live. -/
theorem SessionPolicy.extend_live (policy : SessionPolicy) (token : String)
    (keeps : state.store.Keeps resolution records) (plain : state.now.isLeap = false) :
    ((policy.extend token).run state).2.live ⊆ state.live := by
  unfold extend
  simp only [run_bind, run_now]
  rcases policy.recognize_run token state.now state with
    ⟨failure, stops⟩ | ⟨claims, session, ⟨_, held, current, _⟩, goes⟩
  · simp only [stops]
    exact Finset.Subset.refl _
  simp only [goes, run_later]
  rcases Failure.later state.now policy.lifetime with failure | expiresAt
  · exact Finset.Subset.refl _
  simp only [run_prolongSession]
  rcases prolonged : RecordStore.prolongSession session.sessionId expiresAt
    (policy.tokenFor session.deviceId session.sessionId state.now expiresAt) state.store with
    error | ⟨found, after⟩
  · exact Finset.Subset.refl _
  have prolongs : State.live { state with store := after } ⊆ state.live :=
    live_prolongSession keeps plain held current prolonged
  have keepsAfter := keeps.of_prolongSession prolonged
  refine Finset.Subset.trans (Only.run_live ?_ keepsAfter plain) prolongs
  refine .ite ?_ (.refuse _)
  exact .bind (.request (.noteUse session.sessionId state.now) _ trivial) fun _ => .pure _

/-- Using a challenge up leaves no more devices live. -/
theorem live_spendChallenge {challengeId : String} {spent : Bool} {after : Storage}
    {counters : FailureCounters} (keeps : state.store.Keeps resolution records)
    (plain : state.now.isLeap = false)
    (spends : RecordStore.spendChallenge challengeId state.store = .ok (spent, after)) :
    State.live { state with store := after, counters } ⊆ state.live :=
  live_subset keeps (keeps.of_spendChallenge spends) (.spendChallenge _ _) plain plain
    (Instant.le_refl _)

/-- A verification that opens no session leaves no more devices live. -/
theorem Service.Verified.live {sessionId deviceId challengeId : String} {proof : Bytes}
    {values : PublicValues} {outcome : Except Failure Session × State Storage}
    (verified : Verified service sessionId deviceId challengeId proof values state outcome)
    (keeps : state.store.Keeps resolution records) (plain : state.now.isLeap = false)
    (unopened : outcome.1.toOption = none) : outcome.2.live ⊆ state.live := by
  cases verified with
  | refused failure store counters kept _ _ =>
    rcases kept with rfl | kept
    · exact Finset.Subset.refl _
    · exact live_spendChallenge keeps plain kept
  | lost challenge device failure store passes spent => exact live_spendChallenge keeps plain spent
  | opened challenge device session spent store passes spends added named owned => cases unopened

/-- **A call that opens no session** leaves no more devices live. -/
theorem Service.perform_live (keeps : state.store.Keeps resolution records)
    (plain : state.now.isLeap = false) (steady : call.IsSteady state.now)
    (unopened : Event.opening? ⟨call, (service.perform call state).1⟩ = none) :
    (service.perform call state).2.live ⊆ state.live := by
  cases call with
  | issueChallenge challengeId nonce deviceId =>
    exact (service.shortens_issueChallenge challengeId nonce deviceId).run_live keeps plain
  | submitProof sessionId deviceId challengeId proof values =>
    have submitted := service.submitProof_run sessionId deviceId challengeId proof values state
    rw [Event.opening?_submitProof, Option.map_eq_none_iff] at unopened
    exact submitted.live keeps plain unopened
  | submit sessionId request =>
    have submitted := service.submit_run sessionId request state
    rw [Event.opening?_submit, Option.map_eq_none_iff] at unopened
    simp only [perform] at unopened ⊢
    generalize (service.submit sessionId request).run state = outcome at submitted unopened ⊢
    rcases submitted with ⟨failure, counters, _, _, rfl⟩ | ⟨proof, _, verified⟩
    · exact Finset.Subset.refl _
    · exact verified.live keeps plain unopened
  | acceptToken token => exact (service.sessions.shortens_accept token).run_live keeps plain
  | extendSession token => exact service.sessions.extend_live token keeps plain
  | endSession sessionId =>
    exact (SessionPolicy.shortens_close sessionId).run_live keeps plain
  | endByToken token => exact (service.shortens_endByToken token).run_live keeps plain
  | removeExpired => exact shortens_removeExpired.run_live keeps plain
  | forgetFailures deviceId => exact Finset.Subset.refl _
  | enroll device =>
    have shortens : Only Request.Shortens (Operation.enroll device) :=
      .request (.enroll device) _ trivial
    exact shortens.run_live keeps plain
  | replaceLicense gate => cases steady
  | setClock later => exact live_subset keeps keeps (.of_sessions rfl) plain steady.2 steady.1

/-! ### Opening a session -/

/-- A session is opened to last for the lifetime of sessions. -/
theorem SessionPolicy.create_expiry {policy : SessionPolicy} {sessionId holder : String}
    {session : Session} {before after : State Storage}
    (opened : (policy.create sessionId holder).run before = (.ok session, after)) :
    Failure.later before.now policy.lifetime = .ok session.expiresAt := by
  unfold create at opened
  simp only [run_bind, run_now, run_later] at opened
  rcases ends : Failure.later before.now policy.lifetime with failure | expiresAt <;>
    simp only [ends] at opened
  · cases opened
  simp only [run_addSession, run_pure] at opened
  split at opened
  · next failed =>
    split at failed <;> cases failed
    cases opened
    rfl
  · next failed =>
    split at failed <;> cases failed
    cases opened

theorem Service.submitProof_expiry {sessionId deviceId challengeId : String} {proof : Bytes}
    {values : PublicValues} {session : Session}
    (opened : ((service.submitProof sessionId deviceId challengeId proof values).run state).1 =
      .ok session) :
    Failure.later state.now service.sessions.lifetime = .ok session.expiresAt := by
  unfold submitProof at opened
  rcases attempted : (service.attempt sessionId deviceId challengeId proof values).run state with
    ⟨failure | held, after⟩
  · obtain ⟨counters, _, ran⟩ := onRefusal_run deviceId attempted
    rw [ran] at opened
    cases opened
  rw [run_onRefusal, attempted] at opened
  cases opened
  rcases attempt_run service sessionId deviceId challengeId proof values state with
    ⟨failure, stops, _⟩ | ⟨challenge, device, _, goes⟩
  · rw [attempted] at stops
    cases stops
  rw [attempted] at goes
  unfold redeem at goes
  simp only [run_bind, run_spendChallenge] at goes
  rcases spends : RecordStore.spendChallenge challengeId state.store with
    error | ⟨_ | _, store⟩ <;> simp only [spends] at goes
  · cases goes
  · cases goes
  · simp only [if_true, run_bind, run_forgetFailures] at goes
    have expiry := SessionPolicy.create_expiry goes.symm
    exact expiry

/-- What adding a session leaves: its device, and those that were live. -/
theorem live_addSession (state : State Storage) {session : Session} {after : Storage}
    {counters : FailureCounters} (keeps : state.store.Keeps resolution records)
    (added : RecordStore.addSession session state.store = .ok after)
    (fresh : records.sessions.get? session.sessionId = none)
    (current : resolution.isPast session.expiresAt state.now = false) :
    State.live { state with store := after, counters } = insert session.deviceId state.live := by
  have keepsAfter := keeps.of_addSession added
  ext deviceId
  rw [Finset.mem_insert, mem_live { state with store := after, counters } keepsAfter,
    mem_live state keeps]
  constructor
  · rintro ⟨sessionId, held, member, live, rfl⟩
    rcases Dictionary.mem_put member with before | ⟨rfl, rfl⟩
    · exact .inr ⟨sessionId, held, before, live, rfl⟩
    · exact .inl rfl
  · rintro (rfl | ⟨sessionId, held, before, live, rfl⟩)
    · exact ⟨session.sessionId, session, List.mem_cons_self, current, rfl⟩
    · have other : sessionId ≠ session.sessionId := by
        rintro rfl
        exact Dictionary.not_mem_of_get? fresh before
      refine ⟨sessionId, held, ?_, live, rfl⟩
      exact List.mem_cons_of_mem _ (List.mem_filter.mpr ⟨before, by simpa using other⟩)

/-- A verification that opens a session adds its device to those that are live. -/
theorem Service.Verified.live_opened {sessionId deviceId challengeId : String} {proof : Bytes}
    {values : PublicValues} {outcome : Except Failure Session × State Storage} {session : Session}
    (verified : Verified service sessionId deviceId challengeId proof values state outcome)
    (keeps : state.store.Keeps resolution records) (opened : outcome.1 = .ok session)
    (fresh : records.sessions.get? session.sessionId = none)
    (current : resolution.isPast session.expiresAt state.now = false) :
    outcome.2.live = insert deviceId state.live := by
  cases verified with
  | refused failure store counters kept _ _ => cases opened
  | lost challenge device failure store passes spent => cases opened
  | opened challenge device held spent store passes spends added named owned =>
    cases opened
    have keepsSpent := keeps.of_spendChallenge spends
    have sessions := records.sessions_spendChallenge challengeId
    have spending : State.live { state with store := spent } = state.live := by
      ext holder
      rw [mem_live { state with store := spent } keepsSpent, mem_live state keeps, sessions]
    have opening : State.live { state with store, counters := state.counters.forget deviceId } =
        insert session.deviceId (State.live { state with store := spent }) :=
      live_addSession { state with store := spent } keepsSpent added (by rwa [sessions]) current
    rw [spending, owned.trans (passes.held keeps.filed).1] at opening
    exact opening

theorem Event.eq_ok_of_toOption {α : Type} {result : Except Failure α} {value : α}
    (succeeds : result.toOption = some value) : result = .ok value := by
  cases result <;> cases succeeds
  rfl

/-- A proof that opens a session adds its device to those that are live. -/
theorem Service.submitProof_live {sessionId deviceId challengeId : String} {proof : Bytes}
    {values : PublicValues} {session : Session} (keeps : state.store.Keeps resolution records)
    (plain : state.now.isLeap = false) (lasting : 0 ≤ service.sessions.lifetime.nanos)
    (opened : ((service.submitProof sessionId deviceId challengeId proof values).run state).1 =
      .ok session)
    (fresh : records.sessions.get? session.sessionId = none) :
    ((service.submitProof sessionId deviceId challengeId proof values).run state).2.live =
      insert deviceId state.live := by
  have submitted := service.submitProof_run sessionId deviceId challengeId proof values state
  have current : resolution.isPast session.expiresAt state.now = false := by
    have expiry := submitProof_expiry opened
    unfold Failure.later at expiry
    split at expiry <;> cases expiry
    next moved =>
    exact Resolution.not_isPast_of_le (Instant.plain_add? plain moved) plain
      (Instant.le_add? lasting moved)
  exact submitted.live_opened keeps opened fresh current

@[inherit_doc Service.submitProof_live]
theorem Service.submit_live {sessionId : String} {request : ProofSubmission} {session : Session}
    (keeps : state.store.Keeps resolution records) (plain : state.now.isLeap = false)
    (lasting : 0 ≤ service.sessions.lifetime.nanos)
    (opened : ((service.submit sessionId request).run state).1 = .ok session)
    (fresh : records.sessions.get? session.sessionId = none) :
    ((service.submit sessionId request).run state).2.live =
      insert request.deviceId state.live := by
  unfold submit at opened ⊢
  rcases decoded : request.proof.decodedProof with error | proof <;> rw [decoded] at opened
  · obtain ⟨counters, _, refused⟩ := holdAgainst_run request.deviceId (.ofZkp error) state
    simp only [refused] at opened
    cases opened
  · exact submitProof_live keeps plain lasting opened fresh

/-- **A call that opens a session** adds its device to those that are live. -/
theorem Service.perform_opening {opening : Opening} (keeps : state.store.Keeps resolution records)
    (plain : state.now.isLeap = false) (lasting : 0 ≤ service.sessions.lifetime.nanos)
    (opens : Event.opening? ⟨call, (service.perform call state).1⟩ = some opening)
    (fresh : records.sessions.get? opening.session.sessionId = none) :
    (service.perform call state).2.live = insert opening.deviceId state.live := by
  cases call with
  | submitProof sessionId deviceId challengeId proof values =>
    rw [Event.opening?_submitProof, Option.map_eq_some_iff] at opens
    obtain ⟨session, opened, rfl⟩ := opens
    exact submitProof_live keeps plain lasting (Event.eq_ok_of_toOption opened) fresh
  | submit sessionId request =>
    rw [Event.opening?_submit, Option.map_eq_some_iff] at opens
    obtain ⟨session, opened, rfl⟩ := opens
    simp only [perform] at opened ⊢
    exact submit_live keeps plain lasting (Event.eq_ok_of_toOption opened) fresh
  | issueChallenge _ _ _ | acceptToken _ | extendSession _ | endSession _ | endByToken _
  | removeExpired | forgetFailures _ | enroll _ | replaceLicense _ | setClock _ => cases opens

end Calls

end DeviceAuth
