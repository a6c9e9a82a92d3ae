import DeviceAuth.Proofs.Auth.Live
import DeviceAuth.Proofs.Auth.Rounding

/-!
**What becomes of the session that is kept under an id.** A request revises it by itself, whatever is
kept under other ids (`Request.revise`, `Keeps.revises`). From this follows what the operations on
sessions do: each is refused and changes nothing, or opens, uses, renews or removes a session, and
every other session stays as it is.

* `SessionEffect`: what an operation does to sessions, as its result shows.
* `Evolves`: what one operation with an effect makes of the session under an id.
* `Service.perform_evolves`: every call has the effect that its event shows.
-/

namespace DeviceAuth

open Operation Storage

/-! ### Requests -/

namespace MemoryStore

variable (records : MemoryStore) (sessionId other : String)

theorem updateSession_found (change : Session → Session) :
    (records.updateSession sessionId change).1 = (records.sessions.get? sessionId).isSome := by
  unfold updateSession
  cases records.sessions.get? sessionId <;> rfl

theorem get?_updateSession (change : Session → Session) :
    (records.updateSession sessionId change).2.sessions.get? other =
      if other = sessionId then (records.sessions.get? other).map change
      else records.sessions.get? other := by
  unfold updateSession
  rcases held : records.sessions.get? sessionId with _ | session
  · by_cases same : other = sessionId
    · simp only [same, held, if_true, Option.map_none]
    · simp only [same, if_false]
  · exact Dictionary.get?_update ..

theorem removeSession_found :
    (records.removeSession sessionId).1 = (records.sessions.get? sessionId).isSome := by
  unfold removeSession
  cases records.sessions.get? sessionId <;> rfl

theorem get?_removeSession : (records.removeSession sessionId).2.sessions.get? other =
    if other = sessionId then none else records.sessions.get? other := by
  unfold removeSession
  rcases held : records.sessions.get? sessionId with _ | session
  · by_cases same : other = sessionId
    · simp only [same, held, if_true]
    · simp only [same, if_false]
  · exact Dictionary.get?_erase ..

end MemoryStore

/-- A session that is added, or the one that has its id already. -/
def Resolution.admitted (added : Session) (held : Option Session) : Resolution → Session
  | nanoseconds => added
  | milliseconds => held.getD added

/-- **What a request makes of the session that is kept under an id.** -/
def Request.revise (resolution : Resolution) (sessionId : String) (held : Option Session) :
    Request → Option Session
  | addSession added =>
    if sessionId = added.sessionId then some (resolution.admitted added held) else held
  | noteUse used usedAt =>
    if sessionId = used then held.map fun session => { session with lastUsedAt := usedAt } else held
  | prolongSession prolonged expiresAt token =>
    if sessionId = prolonged then held.map fun session => { session with expiresAt, token }
    else held
  | removeSession removed => if sessionId = removed then none else held
  | dropSessions moment => held.filter fun session => !resolution.isPast session.expiresAt moment
  | _ => held

/-- The sessions that a request makes of records are those that were kept, revised. -/
theorem Request.get?_applied {resolution : Resolution} {records : MemoryStore}
    (distinct : records.sessions.Distinct) (request : Request) (sessionId : String) :
    (request.applied resolution records).sessions.get? sessionId =
      request.revise resolution sessionId (records.sessions.get? sessionId) := by
  cases request with
  | enroll _ | addChallenge _ =>
    simp only [applied, revise]
    split <;> rfl
  | addSession added =>
    simp only [applied, revise]
    split
    -- Only a database refuses a session, and only where the id is taken.
    · next taken =>
      obtain ⟨rfl, some⟩ := taken
      obtain ⟨session, held⟩ := Option.isSome_iff_exists.mp some
      split
      · next same =>
        rw [same, held]
        rfl
      · rfl
    · next free =>
      rw [Dictionary.get?_put]
      split
      · next same =>
        cases resolution
        · rfl
        · rw [same, Option.not_isSome_iff_eq_none.mp fun some => free ⟨rfl, some⟩]
          rfl
      · rfl
  | spendChallenge challengeId =>
    rw [applied, records.sessions_spendChallenge]
    rfl
  | noteUse _ _ | prolongSession _ _ _ => exact records.get?_updateSession ..
  | removeSession _ => exact records.get?_removeSession ..
  | dropSessions moment =>
    exact distinct.get?_filter fun session => !resolution.isPast session.expiresAt moment
  | _ => rfl

/-- **Every request revises the sessions one by one.** -/
theorem Storage.Keeps.revises {resolution : Resolution} {records : MemoryStore}
    {state : State Storage} (keeps : state.store.Keeps resolution records) (request : Request) :
    ∃ kept, (request.perform state).2.store.Keeps resolution kept ∧ ∀ sessionId,
      kept.sessions.get? sessionId =
        request.revise resolution sessionId (records.sessions.get? sessionId) :=
  ⟨_, keeps.applied request, request.get?_applied keeps.tidy.sessions.distinct⟩

/-! ### What a token comes to -/

/-- A session is read from a state. -/
def State.Holds (state : State Storage) (sessionId : String) (session : Session) : Prop :=
  RecordStore.session sessionId state.store = .ok (some session)

/-- The session of claims, if the one that is stored may be used with them. -/
def TokenClaims.judge (claims : TokenClaims) (now : Instant) : Option Session →
    Except AuthError Session
  | none => .error (.sessionNotFound claims.sessionId)
  | some session =>
    if session.hasExpired now then .error (.sessionExpired session.sessionId)
    else if session.deviceId ≠ claims.deviceId then
      .error (.invalidToken "token device does not match session")
    else (claims.checkPeriod now).map fun _ => session

namespace SessionPolicy

variable {policy : SessionPolicy} {token : String} {claims : TokenClaims} {found : Option Session}
  {state : State Storage}

theorem recognize_of_verify (verified : policy.tokenKey.verify token = .ok claims)
    (stored : RecordStore.session claims.sessionId state.store = .ok found) (moment : Instant) :
    (policy.recognize token moment).run state =
      ((Failure.lift (claims.judge moment found)).map fun session => (claims, session), state) := by
  unfold recognize
  simp only [run_bind, run_ofResult, verified, Failure.lift_ok, run_session, stored]
  rcases found with _ | session
  · rfl
  by_cases expired : session.hasExpired moment
  · simp only [TokenClaims.judge, if_pos expired]
    rfl
  by_cases other : session.deviceId ≠ claims.deviceId
  · simp only [TokenClaims.judge, if_neg expired, if_pos other]
    rfl
  · simp only [TokenClaims.judge, if_neg expired, if_neg other]
    rcases claims.checkPeriod moment with error | _ <;> rfl

/-- A token is accepted if its session may be used with it. -/
theorem accept_of_verify {resolution : Resolution} {records : MemoryStore}
    (keeps : state.store.Keeps resolution records)
    (verified : policy.tokenKey.verify token = .ok claims)
    (stored : RecordStore.session claims.sessionId state.store = .ok found) :
    ((policy.accept token).run state).1 =
      (Failure.lift (claims.judge state.now found)).map fun _ => claims := by
  unfold accept
  simp only [run_bind, run_now, recognize_of_verify verified stored]
  rcases judged : claims.judge state.now found with error | session
  · rfl
  rcases found with _ | held
  · cases judged
  obtain ⟨own, inside, _⟩ :=
    Dictionary.exists_of_read ((keeps.session claims.sessionId).symm.trans stored)
  obtain ⟨store, noted, _⟩ := keeps.noteUse claims.sessionId state.now
  rw [records.updateSession_found, inside] at noted
  simp only [Failure.lift_ok, Except.map, run_noteUse, noted, Option.isSome_some, if_true, run_pure]

end SessionPolicy

/-! ### Effects -/

/-- What an operation does to sessions, as its result shows. -/
inductive SessionEffect where
  /-- None is added or changed; some may be removed. -/
  | removes
  | opens (session : Session)
  | uses (sessionId : String)
  | renews (session : Session)

namespace SessionEffect

/-- The id of the session that is added or changed. -/
def subject? : SessionEffect → Option String
  | removes => none
  | opens session | renews session => some session.sessionId
  | uses sessionId => some sessionId

/-- The effect of an operation that does nothing unless it succeeds. -/
def ofResult {α : Type} (effect : α → SessionEffect) : Except Failure α → SessionEffect
  | .ok value => effect value
  | .error _ => removes

end SessionEffect

/-- A session as it is handed out with a new token. -/
structure SessionPolicy.Issues (policy : SessionPolicy) (now : Instant) (session : Session) :
    Prop where
  lastUsedAt : session.lastUsedAt = now
  expiresAt : now.add? policy.lifetime = some session.expiresAt
  token : session.token =
    policy.tokenFor session.deviceId session.sessionId now session.expiresAt

/-- **What an operation with an effect makes of the session under an id.** -/
inductive Evolves (policy : SessionPolicy) (resolution : Resolution) (now : Instant)
    (effect : SessionEffect) (sessionId : String) : Option Session → Option Session → Prop
  | stays (held : Option Session) : effect.subject? ≠ some sessionId →
      Evolves policy resolution now effect sessionId held held
  | removed (held : Session) : effect = .removes →
      Evolves policy resolution now effect sessionId (some held) none
  | opened (before : Option Session) (session : Session) : effect = .opens session →
      session.sessionId = sessionId → policy.Issues now session → session.createdAt = now →
      Evolves policy resolution now effect sessionId before (some session)
  | used (held : Session) : effect = .uses sessionId →
      Evolves policy resolution now effect sessionId (some held)
        (some { held with lastUsedAt := now })
  /-- Only a session that has not expired when it is read is renewed. -/
  | renewed (held found session : Session) : effect = .renews session →
      session.sessionId = sessionId → session.deviceId = held.deviceId →
      policy.Issues now session → resolution.readSession held = .ok found →
      found.hasExpired now = false →
      Evolves policy resolution now effect sessionId (some held)
        (some { held with
          expiresAt := session.expiresAt
          token := session.token
          lastUsedAt := now })

section Operations

variable {policy : SessionPolicy} {resolution : Resolution} {records : MemoryStore}
  {state after : State Storage} {now : Instant} {effect : SessionEffect} {sessionId : String}

/-- An effect on one session leaves the others as they are. -/
theorem Evolves.of_subject {before kept : Dictionary Session} {subject : String}
    (own : effect.subject? = some subject)
    (evolves : Evolves policy resolution now effect subject (before.get? subject)
      (kept.get? subject))
    (others : ∀ other, other ≠ subject → kept.get? other = before.get? other) (other : String) :
    Evolves policy resolution now effect other (before.get? other) (kept.get? other) := by
  by_cases same : other = subject
  · exact same ▸ evolves
  · rw [others other same]
    refine .stays _ fun named => same ?_
    rw [own] at named
    exact (Option.some.inj named).symm

/-- **Some records are kept,** and of each session became what the effect has become of it. -/
def State.Evolved (policy : SessionPolicy) (resolution : Resolution) (records : MemoryStore)
    (now : Instant) (effect : SessionEffect) (after : State Storage) : Prop :=
  ∃ kept, after.store.Keeps resolution kept ∧ ∀ sessionId,
    Evolves policy resolution now effect sessionId (records.sessions.get? sessionId)
      (kept.sessions.get? sessionId)

theorem State.Evolved.unchanged (keeps : after.store.Keeps resolution records) :
    after.Evolved policy resolution records now .removes :=
  ⟨records, keeps, fun _ => .stays _ nofun⟩

/-! ### Operations that only remove sessions -/

/-- Whether a request neither adds a session nor changes one. -/
def Request.OnlyRemoves : Request → Prop
  | addSession _ | noteUse _ _ | prolongSession _ _ _ => False
  | _ => True

theorem Request.IsRead.onlyRemoves {request : Request} (read : request.IsRead) :
    request.OnlyRemoves := by
  cases request <;> first | exact trivial | cases read

theorem Request.revise_of_onlyRemoves {request : Request} (only : request.OnlyRemoves)
    (held : Option Session) :
    request.revise resolution sessionId held = held ∨
      request.revise resolution sessionId held = none := by
  cases request with
  | addSession _ | noteUse _ _ | prolongSession _ _ _ => cases only
  | removeSession removed =>
    simp only [revise]
    split
    · exact .inr rfl
    · exact .inl rfl
  | dropSessions moment =>
    rcases held with _ | session
    · exact .inl rfl
    · simp only [revise, Option.filter]
      split
      · exact .inl rfl
      · exact .inr rfl
  | _ => exact .inl rfl

theorem Operation.Only.evolved {α : Type} {operation : Operation α}
    (only : Only Request.OnlyRemoves operation) (keeps : state.store.Keeps resolution records) :
    (operation.run state).2.Evolved policy resolution records now .removes := by
  refine only.run_preserves (fun request before allowed evolved => ?_) state (.unchanged keeps)
  obtain ⟨kept, keepsNow, evolved⟩ := evolved
  obtain ⟨left, keepsAfter, revised⟩ := keepsNow.revises request
  refine ⟨left, keepsAfter, fun sessionId => ?_⟩
  rw [revised]
  rcases Request.revise_of_onlyRemoves allowed (kept.sessions.get? sessionId) with same | gone
  · rw [same]
    exact evolved sessionId
  · rw [gone]
    rcases records.sessions.get? sessionId with _ | held
    · exact .stays _ nofun
    · exact .removed held rfl

/-! ### Operations on sessions -/

namespace SessionPolicy

/-- Opening a session. -/
theorem create_evolves (policy : SessionPolicy) (sessionId holder : String)
    (keeps : state.store.Keeps resolution records) :
    ((policy.create sessionId holder).run state).2.Evolved policy resolution records state.now
      (.ofResult .opens ((policy.create sessionId holder).run state).1) := by
  unfold create
  simp only [run_bind, run_now, run_later]
  rcases ends : Failure.later state.now policy.lifetime with failure | expiresAt
  · exact .unchanged keeps
  simp only [run_addSession, run_pure]
  rcases added : RecordStore.addSession
    ⟨sessionId, holder, policy.tokenFor holder sessionId state.now expiresAt, state.now, expiresAt,
      state.now⟩ state.store with error | store
  · exact .unchanged keeps
  · refine ⟨_, keeps.of_addSession added, fun other => ?_⟩
    refine Evolves.of_subject rfl ?_ (fun other different => ?_) other
    · rw [Dictionary.get?_put, if_pos rfl]
      exact .opened _ _ rfl rfl ⟨rfl, Failure.later_eq_ok ends, rfl⟩ rfl
    · rw [Dictionary.get?_put, if_neg different]

/-- Accepting a token. -/
theorem accept_evolves (policy : SessionPolicy) (token : String)
    (keeps : state.store.Keeps resolution records) :
    ((policy.accept token).run state).2.Evolved policy resolution records state.now
      (.ofResult (fun claims => .uses claims.sessionId) ((policy.accept token).run state).1) := by
  unfold accept
  simp only [run_bind, run_now]
  rcases policy.recognize_run token state.now state with
    ⟨failure, stops⟩ | ⟨claims, session, ⟨_, found, current, _⟩, goes⟩
  · simp only [stops]
    exact .unchanged keeps
  obtain ⟨held, inside, _⟩ :=
    Dictionary.exists_of_read ((keeps.session claims.sessionId).symm.trans found)
  obtain ⟨store, noted, now⟩ := keeps.noteUse claims.sessionId state.now
  rw [records.updateSession_found, inside] at noted
  simp only [goes, run_noteUse, noted, Option.isSome_some, if_true, run_pure]
  refine ⟨_, now, fun other => ?_⟩
  refine Evolves.of_subject rfl ?_ (fun other different => ?_) other
  · rw [records.get?_updateSession, if_pos rfl, inside]
    exact .used held rfl
  · rw [records.get?_updateSession, if_neg different]

/-- Extending a session. -/
theorem extend_evolves (policy : SessionPolicy) (token : String)
    (keeps : state.store.Keeps resolution records) :
    ((policy.extend token).run state).2.Evolved policy resolution records state.now
      (.ofResult .renews ((policy.extend token).run state).1) := by
  unfold extend
  simp only [run_bind, run_now]
  rcases policy.recognize_run token state.now state with
    ⟨failure, stops⟩ | ⟨claims, session, ⟨_, found, current, _⟩, goes⟩
  · simp only [stops]
    exact .unchanged keeps
  simp only [goes, run_later]
  rcases ends : Failure.later state.now policy.lifetime with failure | expiresAt
  · exact .unchanged keeps
  obtain ⟨held, inside, read⟩ :=
    Dictionary.exists_of_read ((keeps.session claims.sessionId).symm.trans found)
  obtain ⟨named, owned, _⟩ := Resolution.of_readSession read
  have own : session.sessionId = claims.sessionId :=
    named.trans (keeps.tidy.sessions.keyed _ _ (Dictionary.mem_of_get? inside))
  rw [← own] at inside
  -- The two writes of a renewal, one after the other.
  obtain ⟨first, prolonged, keepsFirst⟩ := keeps.prolongSession session.sessionId expiresAt
    (policy.tokenFor session.deviceId session.sessionId state.now expiresAt)
  obtain ⟨second, noted, keepsSecond⟩ := keepsFirst.noteUse session.sessionId state.now
  rw [records.updateSession_found, inside] at prolonged
  simp only [run_prolongSession, prolonged, Option.isSome_some, if_true, run_bind, run_noteUse,
    noted, run_pure]
  refine ⟨_, keepsSecond, fun other => ?_⟩
  refine Evolves.of_subject rfl ?_ (fun other different => ?_) other
  · rw [MemoryStore.get?_updateSession, if_pos rfl, records.get?_updateSession, if_pos rfl, inside]
    exact .renewed held session
      ⟨session.sessionId, session.deviceId, _, session.createdAt, expiresAt, state.now⟩ rfl rfl
      owned ⟨rfl, Failure.later_eq_ok ends, rfl⟩ read current
  · rw [MemoryStore.get?_updateSession, if_neg different, records.get?_updateSession,
      if_neg different]

theorem onlyRemoves_close (sessionId : String) : Only Request.OnlyRemoves (close sessionId) :=
  only_close (fun _ => trivial) sessionId

end SessionPolicy

/-! ### Calls -/

namespace Service

variable {service : Service}

theorem onlyRemoves_issueChallenge (service : Service) (challengeId : String) (nonce : Word256)
    (deviceId : String) :
    Only Request.OnlyRemoves (service.issueChallenge challengeId nonce deviceId) :=
  service.only_issueChallenge (fun _ => Request.IsRead.onlyRemoves) (fun _ => trivial) challengeId
    nonce deviceId

theorem onlyRemoves_removeExpired : Only Request.OnlyRemoves removeExpired :=
  only_removeExpired (fun _ => Request.IsRead.onlyRemoves) (fun _ => trivial) fun _ => trivial

/-- Redeeming a challenge opens a session or does nothing to any. -/
theorem redeem_evolves (service : Service) (sessionId deviceId challengeId holder : String)
    (keeps : state.store.Keeps resolution records) :
    ((service.redeem sessionId deviceId challengeId holder).run state).2.Evolved service.sessions
      resolution records state.now
      (.ofResult .opens ((service.redeem sessionId deviceId challengeId holder).run state).1) := by
  obtain ⟨store, spent, keepsSpent⟩ := keeps.spendChallenge challengeId
  have redeemed : ((service.redeem sessionId deviceId challengeId holder).run state).2.Evolved
      service.sessions resolution (records.spendChallenge challengeId).2 state.now
      (.ofResult .opens ((service.redeem sessionId deviceId challengeId holder).run state).1) := by
    unfold redeem
    simp only [run_bind, run_spendChallenge, spent]
    split
    · exact service.sessions.create_evolves sessionId holder keepsSpent
    · exact .unchanged keepsSpent
  rwa [State.Evolved, records.sessions_spendChallenge] at redeemed

theorem submitProof_evolves (service : Service) (sessionId deviceId challengeId : String)
    (proof : Bytes) (values : PublicValues) (keeps : state.store.Keeps resolution records) :
    ((service.submitProof sessionId deviceId challengeId proof values).run state).2.Evolved
      service.sessions resolution records state.now (.ofResult .opens
        ((service.submitProof sessionId deviceId challengeId proof values).run state).1) := by
  have attempted : ((service.attempt sessionId deviceId challengeId proof values).run
      state).2.Evolved service.sessions resolution records state.now (.ofResult .opens
        ((service.attempt sessionId deviceId challengeId proof values).run state).1) := by
    rcases attempt_run service sessionId deviceId challengeId proof values state with
      ⟨failure, stops, _⟩ | ⟨challenge, device, _, goes⟩
    · rw [stops]
      exact .unchanged keeps
    · rw [goes]
      exact service.redeem_evolves sessionId deviceId challengeId device.deviceId keeps
  unfold submitProof
  rcases ran : (service.attempt sessionId deviceId challengeId proof values).run state with
    ⟨failure | session, after⟩ <;> rw [ran] at attempted
  -- A failure that is counted is no other failure, and no record is touched.
  · obtain ⟨counters, _, held⟩ := onRefusal_run deviceId ran
    rw [held]
    exact attempted
  · rw [run_onRefusal, ran]
    exact attempted

theorem submit_evolves (service : Service) (sessionId : String) (request : ProofSubmission)
    (keeps : state.store.Keeps resolution records) :
    ((service.submit sessionId request).run state).2.Evolved service.sessions resolution records
      state.now (.ofResult .opens ((service.submit sessionId request).run state).1) := by
  unfold submit
  rcases request.proof.decodedProof with error | proof
  · obtain ⟨counters, _, refused⟩ := holdAgainst_run request.deviceId (.ofZkp error) state
    simp only [refused]
    exact .unchanged keeps
  · exact service.submitProof_evolves sessionId _ _ proof _ keeps

/-- A session that is ended by its token is used and then removed. -/
theorem endByToken_evolves (service : Service) (token : String)
    (keeps : state.store.Keeps resolution records) :
    ((service.endByToken token).run state).2.Evolved service.sessions resolution records state.now
      .removes := by
  have accepted := service.sessions.accept_evolves token keeps
  unfold endByToken acceptToken
  rw [run_bind]
  rcases ran : (service.sessions.accept token).run state with ⟨failure | claims, between⟩ <;>
    rw [ran] at accepted
  · exact accepted
  obtain ⟨kept, keepsNow, evolved⟩ := accepted
  have closes : ((endSession claims.sessionId >>= fun _ => pure claims).run between).2 =
      ((Request.removeSession claims.sessionId).perform between).2 := by
    unfold endSession SessionPolicy.close removeSession
    simp only [run_bind, run_ask, run_ofResult]
    rcases ((Request.removeSession claims.sessionId).perform between).1 with error | _ | _ <;> rfl
  obtain ⟨left, keepsAfter, revised⟩ := keepsNow.revises (.removeSession claims.sessionId)
  refine ⟨left, closes ▸ keepsAfter, fun other => ?_⟩
  have before := evolved other
  rw [revised, Request.revise]
  generalize kept.sessions.get? other = held at before ⊢
  generalize records.sessions.get? other = original at before ⊢
  split
  · rcases original with _ | session
    · exact .stays _ nofun
    · exact .removed session rfl
  · next different =>
    cases before with
    | stays _ _ => exact .stays _ nofun
    | used _ own => exact absurd (SessionEffect.uses.inj own).symm different
    | removed _ effect => cases effect
    | opened _ _ effect => cases effect
    | renewed _ _ _ effect => cases effect

end Service

/-- What a call does to sessions, as its event shows. -/
def Event.sessionEffect : Event → SessionEffect
  | ⟨.submitProof _ _ _ _ _, result⟩ | ⟨.submit _ _, result⟩ => .ofResult .opens result
  | ⟨.acceptToken _, result⟩ => .ofResult (fun claims => .uses claims.sessionId) result
  | ⟨.extendSession _, result⟩ => .ofResult .renews result
  | _ => .removes

/-- **Every call has the effect on sessions that its event shows.** -/
theorem Service.perform_evolves (service : Service) (call : Call)
    (keeps : state.store.Keeps resolution records) :
    (service.perform call state).2.Evolved service.sessions resolution records state.now
      (Event.sessionEffect ⟨call, (service.perform call state).1⟩) := by
  cases call with
  | issueChallenge challengeId nonce deviceId =>
    exact (service.onlyRemoves_issueChallenge challengeId nonce deviceId).evolved keeps
  | submitProof sessionId deviceId challengeId proof values =>
    exact service.submitProof_evolves sessionId deviceId challengeId proof values keeps
  | submit sessionId request => exact service.submit_evolves sessionId request keeps
  | acceptToken token => exact service.sessions.accept_evolves token keeps
  | extendSession token => exact service.sessions.extend_evolves token keeps
  | endSession sessionId => exact (SessionPolicy.onlyRemoves_close sessionId).evolved keeps
  | endByToken token => exact service.endByToken_evolves token keeps
  | removeExpired => exact onlyRemoves_removeExpired.evolved keeps
  | enroll device =>
    have only : Only Request.OnlyRemoves (Operation.enroll device) :=
      .request (.enroll device) _ trivial
    exact only.evolved keeps
  | forgetFailures _ | replaceLicense _ | setClock _ => exact .unchanged keeps

end Operations

end DeviceAuth
