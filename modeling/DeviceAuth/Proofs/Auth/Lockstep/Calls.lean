import DeviceAuth.Proofs.Auth.Equivalence
import DeviceAuth.Proofs.Auth.Live
import DeviceAuth.Proofs.Auth.Lockstep
import DeviceAuth.Proofs.Auth.SessionRecords

/-!
**Calls side by side.** A call for a device that is seen ends alike in two states that are alike, and
leaves them alike.

* `Operation.Only.run_alike`: an operation that only reads what is the same ends in the same way.
* `View.Joins.examine`, `View.Joins.recognize`: what is read of a challenge or a session is the
  same, or both are refused. One lemma for each operation starts from there.
* `Service.perform_ends`: the same for calls. `View.Joins.removeExpired`: what has expired can be
  removed in both states.
-/

namespace DeviceAuth

open Operation Storage Service

/-! ### Reading -/

/-- **An operation that only reads what is the same in two states** ends in the same way. -/
theorem Operation.Only.run_alike {α σ : Type} [RecordStore σ] {allowed : Request → Prop}
    {operation : Operation α} (only : Only allowed operation) {first second : State σ}
    (reads : ∀ request, allowed request → request.IsRead)
    (same : ∀ request : Request, allowed request →
      (request.perform first).1 = (request.perform second).1) :
    ∃ result, operation.run first = (result, first) ∧ operation.run second = (result, second) := by
  have unchanged : ∀ (request : Request) (state : State σ), request.IsRead →
      (request.perform state).2 = state := by
    intro request state read
    cases request <;> first | rfl | cases read
  induction only with
  | done result => exact ⟨result, rfl, rfl⟩
  | ask request next here _ ih =>
    obtain ⟨result, ran, ranToo⟩ := ih (request.perform first).1
    refine ⟨result, ?_, ?_⟩
    · rw [run_ask, unchanged request first (reads request here), ran]
    · rw [run_ask, unchanged request second (reads request here), ← same request here, ranToo]

theorem Service.only_credentialOf_device (deviceId : String) :
    Only (· = Request.device deviceId) (credentialOf deviceId) := by
  refine .bind (.request _ _ rfl) fun found => ?_
  cases found with
  | none => exact .refuse _
  | some device => exact .ite (.pure _) (.refuse _)

/-- What is examined depends on the clock, the challenge and the device. -/
theorem Service.only_examine (deviceId challengeId : String) (values : PublicValues) :
    Only (· ∈ [Request.now, .challenge challengeId, .device deviceId])
      (examine deviceId challengeId values) := by
  have credential : Only (· ∈ [Request.now, .challenge challengeId, .device deviceId])
      (credentialOf deviceId) :=
    (only_credentialOf_device deviceId).mono fun _ same => by simp [same]
  refine .bind (.request _ _ (by simp)) fun moment => .bind ?_ fun challenge =>
    .bind credential fun device => .bind (.ofResult _) fun _ => .pure _
  refine .bind (.request _ _ (by simp)) fun found => ?_
  cases found with
  | none => exact .refuse _
  | some challenge => exact .ite (.refuse _) (.ite (.refuse _) (.pure _))

/-- What is recognized depends on the session of the token. -/
theorem SessionPolicy.only_recognize_of_verify {policy : SessionPolicy} {token : String}
    {claims : TokenClaims} (verified : policy.tokenKey.verify token = .ok claims)
    (moment : Instant) :
    Only (· = Request.session claims.sessionId) (policy.recognize token moment) := by
  unfold recognize
  rw [verified]
  -- Binding the claims that have been verified is going on with them.
  change Only _ (Operation.session claims.sessionId >>= _)
  refine .bind (.request _ _ rfl) fun found => ?_
  cases found with
  | none => exact .refuse _
  | some session =>
    exact .ite (.refuse _) (.ite (.refuse _) (.bind (.ofResult _) fun _ => .pure _))

/-- A session that has not expired is read at an instant that can be read back. -/
theorem Resolution.reads_of_current {resolution : Resolution} {session found : Session}
    {now : Instant} (read : resolution.readSession session = .ok found)
    (current : found.hasExpired now = false) : resolution.Reads now := by
  intro rounds
  have whole := (Resolution.of_readSession read).2.2.2 rounds
  exact .of_le whole.plain (Instant.not_lt.mp (by simpa [Session.hasExpired] using current))

/-! ### Records that are in both states -/

namespace View

variable {view : View} {resolution : Resolution} {unused : List String}
  {kept keptToo : MemoryStore} {first second : State Storage} {now : Instant} {id : String}

namespace Joins

variable {service : Service} {policy : SessionPolicy}

/-- **What is examined is the same in both states,** with a challenge that both have, or both
refuse the challenge. -/
theorem examine (joins : view.Joins resolution unused kept keptToo first second)
    (lawful : view.Lawful resolution first.now) {deviceId : String} (seen : view.device deviceId)
    (challengeId : String) (values : PublicValues) :
    (∃ failure other, view.Same failure other ∧
        (Service.examine deviceId challengeId values).run first = (.error failure, first) ∧
        (Service.examine deviceId challengeId values).run second = (.error other, second)) ∨
      ∃ device challenge, kept.challenges.get? challengeId = some challenge ∧
        keptToo.challenges.get? challengeId = some challenge ∧ challenge.used = false ∧
        (Service.examine deviceId challengeId values).run first = (.ok device, first) ∧
        (Service.examine deviceId challengeId values).run second = (.ok device, second) := by
  rcases joins.agree.challenges.eq_or_hidden challengeId with equal | ⟨hidden, hiddenToo⟩
  swap
  · obtain ⟨_, refused, absent, ran⟩ := joins.stocked.examine_hidden lawful seen values hidden
    rw [joins.now] at lawful hiddenToo
    obtain ⟨_, refusedToo, absentToo, ranToo⟩ :=
      joins.stockedToo.examine_hidden lawful seen values hiddenToo
    refine .inl ⟨_, _, .challenge challengeId refused refusedToo fun covers missing => ?_, ran,
      ranToo⟩
    exact missing.trans
      (absentToo.mpr (joins.agree.challenges.missing covers _ (absent.mp missing))).symm
  have same : ∀ request : Request,
      request ∈ [Request.now, .challenge challengeId, .device deviceId] →
        (request.perform first).1 = (request.perform second).1 := by
    rintro request (_ | ⟨_, _ | ⟨_, _ | ⟨_, member⟩⟩⟩)
    · exact joins.now
    · simp only [Request.perform]
      rw [joins.stocked.keeps.challenge, joins.stockedToo.keeps.challenge, equal]
    · exact joins.device seen
    · cases member
  obtain ⟨result, ran, ranToo⟩ :=
    (only_examine deviceId challengeId values).run_alike (by simp [Request.IsRead]) same
  rcases examine_run deviceId challengeId values first with
    ⟨failure, stops, _⟩ | ⟨challenge, device, examined, goes⟩
  · obtain rfl : result = .error failure := congrArg Prod.fst (ran.symm.trans stops)
    exact .inl ⟨failure, failure, .refl failure, ran, ranToo⟩
  · obtain rfl : result = .ok device := congrArg Prod.fst (ran.symm.trans goes)
    obtain ⟨held, inside, read⟩ := Dictionary.exists_of_read
      ((joins.stocked.keeps.challenge challengeId).symm.trans examined.found)
    exact .inr ⟨device, held, inside, equal ▸ inside,
      (Resolution.used_of_readChallenge read).symm.trans examined.unused, ran, ranToo⟩

/-- **What is recognized is the same in both states,** with a session that both have, or both refuse
the token. -/
theorem recognize (joins : view.Joins resolution unused kept keptToo first second)
    (lawful : view.Lawful resolution first.now) {token : String}
    (seen : ∀ claims, policy.tokenKey.verify token = .ok claims → view.device claims.deviceId) :
    (∃ failure other, view.Same failure other ∧
        (policy.recognize token first.now).run first = (.error failure, first) ∧
        (policy.recognize token first.now).run second = (.error other, second)) ∨
      ∃ claims session held, kept.sessions.get? claims.sessionId = some held ∧
        keptToo.sessions.get? claims.sessionId = some held ∧
        resolution.readSession held = .ok session ∧ session.sessionId = claims.sessionId ∧
        session.hasExpired first.now = false ∧
        (policy.recognize token first.now).run first = (.ok (claims, session), first) ∧
        (policy.recognize token first.now).run second = (.ok (claims, session), second) := by
  rcases verified : policy.tokenKey.verify token with error | claims
  · refine .inl ⟨.refused error, .refused error, .refl _, ?_, ?_⟩ <;>
      simp [SessionPolicy.recognize, verified]
  have named := seen claims verified
  rcases joins.agree.sessions.eq_or_hidden claims.sessionId with equal | ⟨hidden, hiddenToo⟩
  swap
  · obtain ⟨_, refused, absent, ran⟩ :=
      joins.stocked.recognize_hidden lawful verified named hidden
    rw [joins.now] at lawful hiddenToo ⊢
    obtain ⟨_, refusedToo, absentToo, ranToo⟩ :=
      joins.stockedToo.recognize_hidden lawful verified named hiddenToo
    refine .inl ⟨_, _, .session claims.sessionId refused refusedToo fun covers missing => ?_,
      joins.now ▸ ran, ranToo⟩
    exact missing.trans
      (absentToo.mpr (joins.agree.sessions.missing covers _ (absent.mp missing))).symm
  have same : ∀ request : Request, request = .session claims.sessionId →
      (request.perform first).1 = (request.perform second).1 := by
    rintro _ rfl
    simp only [Request.perform]
    rw [joins.stocked.keeps.session, joins.stockedToo.keeps.session, equal]
  obtain ⟨result, ran, ranToo⟩ :=
    (policy.only_recognize_of_verify verified first.now).run_alike (by simp [Request.IsRead]) same
  rcases policy.recognize_run token first.now first with
    ⟨failure, stops⟩ | ⟨named, session, ⟨verifiedToo, found, current, _⟩, goes⟩
  · obtain rfl : result = .error failure := congrArg Prod.fst (ran.symm.trans stops)
    exact .inl ⟨failure, failure, .refl failure, ran, ranToo⟩
  obtain rfl : claims = named := Except.ok.inj (verified.symm.trans verifiedToo)
  obtain rfl : result = .ok (claims, session) := congrArg Prod.fst (ran.symm.trans goes)
  obtain ⟨held, inside, read⟩ := Dictionary.exists_of_read
    ((joins.stocked.keeps.session claims.sessionId).symm.trans found)
  have own := joins.stocked.keeps.tidy.sessions.keyed _ held (Dictionary.mem_of_get? inside)
  exact .inr ⟨claims, session, held, inside, equal ▸ inside, read,
    (Resolution.of_readSession read).1.trans own, current, ran, ranToo⟩

/-! ### Operations on sessions -/

/-- A session that both states have is changed in both. -/
theorem updateSession (joins : view.Joins resolution unused kept keptToo first second)
    {session : Session} (inside : kept.sessions.get? id = some session)
    (insideToo : keptToo.sessions.get? id = some session) (change : Session → Session)
    {store storeToo : Storage}
    (stocked : State.Stocked resolution unused
      { kept with sessions := kept.sessions.update id change } { first with store })
    (stockedToo : State.Stocked resolution unused
      { keptToo with sessions := keptToo.sessions.update id change }
      { second with store := storeToo }) :
    ∃ records recordsToo, records.sessions.get? id = some (change session) ∧
      recordsToo.sessions.get? id = some (change session) ∧
      view.Joins resolution unused records recordsToo { first with store }
        { second with store := storeToo } := by
  exact ⟨_, _, Dictionary.get?_update_self inside change,
    Dictionary.get?_update_self insideToo change, joins.change stocked stockedToo
    { joins.agree with
      sessions := joins.agree.sessions.update (inside.trans insideToo.symm) change }⟩

/-- The use of a session that both states have is recorded in both. -/
theorem noteUse (joins : view.Joins resolution unused kept keptToo first second)
    {session : Session} (inside : kept.sessions.get? id = some session)
    (insideToo : keptToo.sessions.get? id = some session) {moment : Instant}
    (reads : resolution.Reads moment) :
    ∃ store storeToo records recordsToo,
      (Operation.noteUse id moment).run first = (.ok true, { first with store }) ∧
      (Operation.noteUse id moment).run second = (.ok true, { second with store := storeToo }) ∧
      records.sessions.get? id = some { session with lastUsedAt := moment } ∧
      recordsToo.sessions.get? id = some { session with lastUsedAt := moment } ∧
      view.Joins resolution unused records recordsToo { first with store }
        { second with store := storeToo } := by
  obtain ⟨store, ran, stocked⟩ := joins.stocked.noteUse inside reads
  obtain ⟨storeToo, ranToo, stockedToo⟩ := joins.stockedToo.noteUse insideToo reads
  obtain ⟨records, recordsToo, held, heldToo, joinsThen⟩ :=
    joins.updateSession inside insideToo _ stocked stockedToo
  exact ⟨store, storeToo, records, recordsToo, ran, ranToo, held, heldToo, joinsThen⟩

/-- A session that both states have is extended in both. -/
theorem prolongSession (joins : view.Joins resolution unused kept keptToo first second)
    {session : Session} (inside : kept.sessions.get? id = some session)
    (insideToo : keptToo.sessions.get? id = some session) {expiresAt : Instant}
    (reads : resolution.Reads expiresAt) (token : String) :
    ∃ store storeToo records recordsToo,
      (Operation.prolongSession id expiresAt token).run first = (.ok true, { first with store }) ∧
      (Operation.prolongSession id expiresAt token).run second =
        (.ok true, { second with store := storeToo }) ∧
      records.sessions.get? id = some { session with expiresAt, token } ∧
      recordsToo.sessions.get? id = some { session with expiresAt, token } ∧
      view.Joins resolution unused records recordsToo { first with store }
        { second with store := storeToo } := by
  obtain ⟨store, ran, stocked⟩ := joins.stocked.prolongSession inside reads token
  obtain ⟨storeToo, ranToo, stockedToo⟩ := joins.stockedToo.prolongSession insideToo reads token
  obtain ⟨records, recordsToo, held, heldToo, joinsThen⟩ :=
    joins.updateSession inside insideToo _ stocked stockedToo
  exact ⟨store, storeToo, records, recordsToo, ran, ranToo, held, heldToo, joinsThen⟩

/-- A session that both states have is removed from both. -/
theorem close (joins : view.Joins resolution unused kept keptToo first second)
    {session : Session} (inside : kept.sessions.get? id = some session)
    (insideToo : keptToo.sessions.get? id = some session) :
    ∃ after afterToo, (SessionPolicy.close id).run first = (.ok (), after) ∧
      (SessionPolicy.close id).run second = (.ok (), afterToo) ∧
      view.Joined resolution unused after afterToo := by
  obtain ⟨store, ran, stocked⟩ := joins.stocked.close inside
  obtain ⟨storeToo, ranToo, stockedToo⟩ := joins.stockedToo.close insideToo
  exact ⟨_, _, ran, ranToo, (joins.change stocked stockedToo
    { joins.agree with sessions := joins.agree.sessions.erase id }).joined⟩

/-- **A token is accepted in both states, or in neither.** -/
theorem accept (joins : view.Joins resolution unused kept keptToo first second)
    (lawful : view.Lawful resolution first.now) {token : String}
    (seen : ∀ claims, policy.tokenKey.verify token = .ok claims → view.device claims.deviceId) :
    view.Ends resolution unused ((policy.accept token).run first)
      ((policy.accept token).run second) := by
  unfold SessionPolicy.accept
  simp only [run_bind, run_now, ← joins.now]
  rcases joins.recognize lawful seen with ⟨failure, other, same, ran, ranToo⟩ |
    ⟨claims, session, held, inside, insideToo, read, own, current, ran, ranToo⟩
  · simp only [ran, ranToo]
    exact .failure same joins.joined
  obtain ⟨_, _, _, _, noted, notedToo, _, _, joinsThen⟩ :=
    joins.noteUse inside insideToo (Resolution.reads_of_current read current)
  simp only [ran, ranToo, noted, notedToo, if_true, run_pure]
  exact .value claims joinsThen.joined

/-- **A session is extended in both states, or in neither.** -/
theorem extend (joins : view.Joins resolution unused kept keptToo first second)
    (lawful : view.Lawful resolution first.now)
    (lasting : nanosPerSecond ≤ policy.lifetime.nanos) {token : String}
    (seen : ∀ claims, policy.tokenKey.verify token = .ok claims → view.device claims.deviceId) :
    view.Ends resolution unused ((policy.extend token).run first)
      ((policy.extend token).run second) := by
  unfold SessionPolicy.extend
  simp only [run_bind, run_now, ← joins.now]
  rcases joins.recognize lawful seen with ⟨failure, other, same, ran, ranToo⟩ |
    ⟨claims, session, held, inside, insideToo, read, own, current, ran, ranToo⟩
  · simp only [ran, ranToo]
    exact .failure same joins.joined
  simp only [ran, ranToo, run_later]
  rcases ends : Failure.later first.now policy.lifetime with failure | expiresAt
  · exact .failure (.refl failure) joins.joined
  obtain ⟨_, plain⟩ := Instant.isReadable_of_add? lasting (Failure.later_eq_ok ends)
  obtain ⟨_, _, _, _, prolonged, prolongedToo, insideThen, insideThenToo, joinsThen⟩ :=
    joins.prolongSession inside insideToo (fun _ => Instant.isReadable_of_plain plain)
      (policy.tokenFor session.deviceId session.sessionId first.now expiresAt)
  rw [own] at prolonged prolongedToo ⊢
  simp only [prolonged, prolongedToo, if_true, run_bind, run_pure]
  obtain ⟨_, _, _, _, noted, notedToo, _, _, joinsLast⟩ :=
    joinsThen.noteUse insideThen insideThenToo (Resolution.reads_of_current read current)
  simp only [noted, notedToo]
  exact .value _ joinsLast.joined

/-- **The session of a token is ended in both states, or in neither.** -/
theorem endByToken (joins : view.Joins resolution unused kept keptToo first second)
    (lawful : view.Lawful resolution first.now) {token : String}
    (seen : ∀ claims, service.sessions.tokenKey.verify token = .ok claims →
      view.device claims.deviceId) :
    view.Ends resolution unused ((service.endByToken token).run first)
      ((service.endByToken token).run second) := by
  unfold Service.endByToken acceptToken SessionPolicy.accept endSession
  simp only [run_bind, run_now, ← joins.now]
  rcases joins.recognize lawful seen with ⟨failure, other, same, ran, ranToo⟩ |
    ⟨claims, session, held, inside, insideToo, read, own, current, ran, ranToo⟩
  · simp only [ran, ranToo]
    exact .failure same joins.joined
  obtain ⟨_, _, _, _, noted, notedToo, insideThen, insideThenToo, joinsThen⟩ :=
    joins.noteUse inside insideToo (Resolution.reads_of_current read current)
  obtain ⟨_, _, closed, closedToo, joined⟩ := joinsThen.close insideThen insideThenToo
  simp only [ran, ranToo, noted, notedToo, if_true, run_pure, closed, closedToo]
  exact .value claims joined

/-! ### Operations on challenges -/

/-- A challenge with a new id is added in both states. -/
theorem addChallenge {challenge : Challenge}
    (joins : view.Joins resolution (challenge.challengeId :: unused) kept keptToo first second)
    (readable : challenge.IsReadable resolution) :
    ∃ after afterToo, (Operation.addChallenge challenge).run first = (.ok (), after) ∧
      (Operation.addChallenge challenge).run second = (.ok (), afterToo) ∧
      view.Joined resolution unused after afterToo := by
  obtain ⟨store, ran, stocked⟩ := joins.stocked.addChallenge readable
  obtain ⟨storeToo, ranToo, stockedToo⟩ := joins.stockedToo.addChallenge readable
  exact ⟨_, _, ran, ranToo, (joins.change stocked stockedToo
    { joins.agree with challenges := joins.agree.challenges.put _ _ }).joined⟩

/-- A session with a new id is added in both states. -/
theorem addSession {session : Session}
    (joins : view.Joins resolution (session.sessionId :: unused) kept keptToo first second)
    (readable : session.IsReadable resolution) :
    ∃ after afterToo, (Operation.addSession session).run first = (.ok (), after) ∧
      (Operation.addSession session).run second = (.ok (), afterToo) ∧
      view.Joined resolution unused after afterToo := by
  obtain ⟨store, ran, stocked⟩ := joins.stocked.addSession readable
  obtain ⟨storeToo, ranToo, stockedToo⟩ := joins.stockedToo.addSession readable
  exact ⟨_, _, ran, ranToo, (joins.change stocked stockedToo
    { joins.agree with sessions := joins.agree.sessions.put _ _ }).joined⟩

/-- An unused challenge that both states have is used up in both. -/
theorem spendChallenge (joins : view.Joins resolution unused kept keptToo first second)
    {challenge : Challenge} (inside : kept.challenges.get? id = some challenge)
    (insideToo : keptToo.challenges.get? id = some challenge) (fresh : challenge.used = false) :
    ∃ store storeToo records recordsToo,
      (Operation.spendChallenge id).run first = (.ok true, { first with store }) ∧
      (Operation.spendChallenge id).run second = (.ok true, { second with store := storeToo }) ∧
      view.Joins resolution unused records recordsToo { first with store }
        { second with store := storeToo } := by
  obtain ⟨store, ran, stocked⟩ := joins.stocked.spendChallenge inside fresh
  obtain ⟨storeToo, ranToo, stockedToo⟩ := joins.stockedToo.spendChallenge insideToo fresh
  exact ⟨store, storeToo, _, _, ran, ranToo, joins.change stocked stockedToo
    { joins.agree with
      challenges := joins.agree.challenges.update (inside.trans insideToo.symm)
        fun challenge => { challenge with used := true } }⟩

/-- A challenge is issued to a device, or refused, in both states alike. -/
theorem issueChallenge {challengeId deviceId : String}
    (joins : view.Joins resolution (challengeId :: unused) kept keptToo first second)
    (lasting : nanosPerSecond ≤ service.challengeLifetime.nanos) (seen : view.device deviceId)
    (licensed : ((checkLicense deviceId).run first).1 = ((checkLicense deviceId).run second).1)
    {nonce : Word256} (canonical : resolution = .milliseconds → nonce.IsCanonical) :
    view.Ends resolution unused ((service.issueChallenge challengeId nonce deviceId).run first)
      ((service.issueChallenge challengeId nonce deviceId).run second) := by
  have stays : view.Joined resolution unused first second := joins.tail.joined
  have credential : ∃ result, (credentialOf deviceId).run first = (result, first) ∧
      (credentialOf deviceId).run second = (result, second) := by
    refine (only_credentialOf_device deviceId).run_alike ?_ ?_
    · rintro _ rfl
      trivial
    · rintro _ rfl
      exact joins.device seen
  obtain ⟨license, checked⟩ := (reads_checkLicense deviceId).run_of_reads first
  obtain ⟨licenseToo, checkedToo⟩ := (reads_checkLicense deviceId).run_of_reads second
  obtain rfl : license = licenseToo := by rwa [checked, checkedToo] at licensed
  unfold Service.issueChallenge
  obtain ⟨found, ran, ranToo⟩ := credential
  simp only [run_bind, ran, ranToo]
  rcases found with failure | device
  · exact .failure (.refl failure) stays
  simp only [run_failures, ← joins.counters deviceId seen]
  by_cases locked : service.failureLimit ≤ first.counters.count deviceId
  · simp only [locked, if_true, run_refuse]
    exact .failure (.refl _) stays
  simp only [locked, if_false, run_bind, checked, checkedToo]
  rcases license with failure | _
  · exact .failure (.refl failure) stays
  simp only [run_now, ← joins.now, run_later]
  rcases ends : Failure.later first.now service.challengeLifetime with failure | expiresAt
  · exact .failure (.refl failure) stays
  obtain ⟨begins, plain⟩ := Instant.isReadable_of_add? lasting (Failure.later_eq_ok ends)
  have readable : Challenge.IsReadable resolution
      ⟨challengeId, deviceId, nonce, first.now, expiresAt, false⟩ :=
    ⟨canonical, fun _ => begins, fun _ => Instant.isReadable_of_plain plain⟩
  obtain ⟨_, _, added, addedToo, joined⟩ := joins.addChallenge readable
  simp only [added, addedToo, run_pure]
  exact .value _ joined

/-- A session is opened in both states, or the clock is at its end. -/
theorem create {sessionId : String}
    (joins : view.Joins resolution (sessionId :: unused) kept keptToo first second)
    (lasting : nanosPerSecond ≤ policy.lifetime.nanos) (holder : String) :
    view.Ends resolution unused ((policy.create sessionId holder).run first)
      ((policy.create sessionId holder).run second) := by
  unfold SessionPolicy.create
  simp only [run_bind, run_now, ← joins.now, run_later]
  rcases ends : Failure.later first.now policy.lifetime with failure | expiresAt
  · exact .failure (.refl failure) joins.tail.joined
  obtain ⟨begins, plain⟩ := Instant.isReadable_of_add? lasting (Failure.later_eq_ok ends)
  have readable : Session.IsReadable resolution
      ⟨sessionId, holder, policy.tokenFor holder sessionId first.now expiresAt, first.now,
        expiresAt, first.now⟩ :=
    ⟨fun _ => begins, fun _ => Instant.isReadable_of_plain plain, fun _ => begins⟩
  obtain ⟨_, _, added, addedToo, joined⟩ := joins.addSession readable
  simp only [added, addedToo, run_pure]
  exact .value _ joined

/-- What is left of a verification when all checks have passed. -/
theorem redeem {sessionId challengeId : String} {challenge : Challenge}
    (joins : view.Joins resolution (sessionId :: unused) kept keptToo first second)
    (lasting : nanosPerSecond ≤ service.sessions.lifetime.nanos)
    (inside : kept.challenges.get? challengeId = some challenge)
    (insideToo : keptToo.challenges.get? challengeId = some challenge)
    (fresh : challenge.used = false) (deviceId holder : String) :
    view.Ends resolution unused
      ((service.redeem sessionId deviceId challengeId holder).run first)
      ((service.redeem sessionId deviceId challengeId holder).run second) := by
  obtain ⟨_, _, _, _, spent, spentToo, joinsThen⟩ :=
    joins.spendChallenge inside insideToo fresh
  unfold Service.redeem
  simp only [run_bind, spent, spentToo, if_true, run_forgetFailures]
  exact (joinsThen.forgetFailures deviceId).create lasting holder

/-- An attempt ends alike in both states. -/
theorem attempt {sessionId deviceId challengeId : String} {proof : Bytes} {values : PublicValues}
    (joins : view.Joins resolution (sessionId :: unused) kept keptToo first second)
    (lawful : view.Lawful resolution first.now)
    (lasting : nanosPerSecond ≤ service.sessions.lifetime.nanos) (seen : view.device deviceId) :
    view.Ends resolution unused
      ((service.attempt sessionId deviceId challengeId proof values).run first)
      ((service.attempt sessionId deviceId challengeId proof values).run second) := by
  simp only [attempt_run_eq, run_bind]
  rcases joins.examine lawful seen challengeId values with ⟨failure, other, same, ran, ranToo⟩ |
    ⟨device, challenge, inside, insideToo, fresh, ran, ranToo⟩
  · simp only [ran, ranToo]
    exact .failure same joins.tail.joined
  simp only [ran, ranToo, conclude, run_bind, run_ofResult]
  rcases service.checker.check proof values with error | _ | _
  · exact .failure (.refl _) joins.tail.joined
  · exact .failure (.refl _) joins.tail.joined
  · exact joins.redeem lasting inside insideToo fresh deviceId device.deviceId

end Joins

/-- A failure is held against a device in both states, or in neither. -/
theorem Joined.holdAgainst {deviceId : String} {error other : AuthError}
    (joined : view.Joined resolution unused first second) (seen : view.device deviceId)
    (same : view.Same (.refused error) (.refused other))
    (counts : error.countsAgainstDevice = other.countsAgainstDevice) :
    view.Ends resolution unused ((Service.holdAgainst deviceId error).run first)
      ((Service.holdAgainst deviceId other).run second) := by
  obtain ⟨_, _, joins⟩ := joined
  have alike : first.counts deviceId error = second.counts deviceId other := by
    simp only [State.counts, joins.knows seen, counts]
  simp only [holdAgainst_eq, alike]
  cases second.counts deviceId other
  · exact .failure same joins.joined
  · exact .failure same (joins.countFailure seen).joined

/-- An attempt that fails is held against the device in both states, or in neither. -/
theorem Ends.onRefusal {operation : Operation Session} {deviceId : String}
    (ends : view.Ends resolution unused (operation.run first) (operation.run second))
    (seen : view.device deviceId) :
    view.Ends resolution unused
      ((operation.onRefusal (Service.holdAgainst deviceId)).run first)
      ((operation.onRefusal (Service.holdAgainst deviceId)).run second) := by
  rw [run_onRefusal, run_onRefusal]
  generalize operation.run first = outcome, operation.run second = outcomeToo at ends
  cases ends with
  | value session joined => exact .value session joined
  | failure same joined =>
    rcases same.cases_refused with ⟨error, other, rfl, rfl, counts⟩ | ⟨rfl, rfl⟩
    · exact joined.holdAgainst seen same counts
    · exact .failure (.refl _) joined

/-- **A proof is verified in both states alike.** -/
theorem Joins.submitProof {service : Service} {sessionId deviceId challengeId : String}
    {proof : Bytes} {values : PublicValues}
    (joins : view.Joins resolution (sessionId :: unused) kept keptToo first second)
    (lawful : view.Lawful resolution first.now)
    (lasting : nanosPerSecond ≤ service.sessions.lifetime.nanos) (seen : view.device deviceId) :
    view.Ends resolution unused
      ((service.submitProof sessionId deviceId challengeId proof values).run first)
      ((service.submitProof sessionId deviceId challengeId proof values).run second) :=
  Ends.onRefusal (joins.attempt lawful lasting seen) seen

theorem Joins.submit {service : Service} {sessionId : String} {request : ProofSubmission}
    (joins : view.Joins resolution (sessionId :: unused) kept keptToo first second)
    (lawful : view.Lawful resolution first.now)
    (lasting : nanosPerSecond ≤ service.sessions.lifetime.nanos)
    (seen : view.device request.deviceId) :
    view.Ends resolution unused ((service.submit sessionId request).run first)
      ((service.submit sessionId request).run second) := by
  unfold Service.submit
  rcases request.proof.decodedProof with error | proof
  · exact joins.tail.joined.holdAgainst seen (.refl _) rfl
  · exact joins.submitProof lawful lasting seen

/-- A device is enrolled in both states, or in neither. -/
theorem Joins.enroll {device : Credential}
    (joins : view.Joins resolution unused kept keptToo first second)
    (readable : device.IsReadable resolution) :
    view.Ends resolution unused ((Operation.enroll device).run first)
      ((Operation.enroll device).run second) := by
  rcases joins.stocked.enroll readable with
    ⟨error, failed, ran⟩ | ⟨word, store, encoded, ran, stocked⟩ <;>
    rcases joins.stockedToo.enroll readable with
      ⟨errorToo, failedToo, ranToo⟩ | ⟨wordToo, storeToo, encodedToo, ranToo, stockedToo⟩
  · cases failed.symm.trans failedToo
    rw [ran, ranToo]
    exact .failure (.refl _) joins.joined
  · cases failed.symm.trans encodedToo
  · cases encoded.symm.trans failedToo
  · rw [ran, ranToo]
    refine .value () (joins.change stocked stockedToo { joins.agree with devices := ?_ }).joined
    intro id seen
    simp only [Dictionary.get?_put, joins.agree.devices id seen]

/-! ### Time, and removing what has expired -/

/-- What is seen later has been seen before. -/
structure Persists (view : View) (now later : Instant) : Prop where
  challenge : ∀ challenge, view.challenge later challenge = true →
    view.challenge now challenge = true
  session : ∀ session, view.session later session = true → view.session now session = true

/-- The clock is set in both states. -/
theorem Joins.setClock (joins : view.Joins resolution unused kept keptToo first second)
    {later : Instant} (persists : view.Persists first.now later) :
    view.Joins resolution unused kept keptToo { first with now := later }
      { second with now := later } where
  stocked := ⟨joins.stocked.keeps, joins.stocked.ready⟩
  stockedToo := ⟨joins.stockedToo.keeps, joins.stockedToo.ready⟩
  agree :=
    { devices := joins.agree.devices
      challenges := joins.agree.challenges.persists persists.challenge
      sessions := joins.agree.sessions.persists persists.session }
  counters := joins.counters
  license := joins.license
  now := rfl

theorem Joins.replaceLicense (joins : view.Joins resolution unused kept keptToo first second)
    (gate : LicenseGate) :
    view.Joins resolution unused kept keptToo { first with license := gate }
      { second with license := gate } where
  stocked := ⟨joins.stocked.keeps, joins.stocked.ready⟩
  stockedToo := ⟨joins.stockedToo.keeps, joins.stockedToo.ready⟩
  agree := joins.agree
  counters := joins.counters
  license := rfl
  now := joins.now

end View

/-- The records that have not expired. -/
def MemoryStore.unexpired (resolution : Resolution) (now : Instant) (records : MemoryStore) :
    MemoryStore :=
  { records with
    challenges := records.challenges.filter fun entry =>
      !resolution.isPast entry.2.expiresAt now
    sessions := records.sessions.filter fun entry => !resolution.isPast entry.2.expiresAt now }

/-- **What has expired is removed,** and nothing else is changed. -/
theorem State.Stocked.removeExpired {resolution : Resolution} {unused : List String}
    {records : MemoryStore} {state : State Storage}
    (stocked : state.Stocked resolution unused records) :
    ∃ counts store, Service.removeExpired.run state = (.ok counts, { state with store }) ∧
      State.Stocked resolution unused (records.unexpired resolution state.now)
        { state with store } := by
  obtain ⟨between, dropped, keeps⟩ := stocked.keeps.dropChallenges state.now
  obtain ⟨store, droppedToo, keepsToo⟩ := keeps.dropSessions state.now
  -- How many there were plays no part any more.
  generalize Prod.fst (MemoryStore.dropExpired _ records.challenges) = challenges at dropped
  generalize Prod.fst (MemoryStore.dropExpired _ _) = sessions at droppedToo
  refine ⟨(challenges, sessions), store, ?_, ⟨keepsToo, ?_⟩⟩
  · simp only [Service.removeExpired, run_bind, run_now, run_dropChallenges, dropped,
      run_dropSessions, droppedToo, run_pure]
  · exact (stocked.ready.filterChallenges stocked.keeps.tidy.challenges.distinct
      fun challenge => !resolution.isPast challenge.expiresAt state.now).filterSessions
        stocked.keeps.tidy.sessions.distinct
        fun session => !resolution.isPast session.expiresAt state.now

/-- What has expired is removed from both states. -/
theorem View.Joins.removeExpired {view : View} {resolution : Resolution} {unused : List String}
    {kept keptToo : MemoryStore} {first second : State Storage}
    (joins : view.Joins resolution unused kept keptToo first second)
    (uncovered : ¬ view.covers) :
    view.Joined resolution unused (Service.removeExpired.run first).2
      (Service.removeExpired.run second).2 := by
  obtain ⟨_, store, ran, stocked⟩ := joins.stocked.removeExpired
  obtain ⟨_, storeToo, ranToo, stockedToo⟩ := joins.stockedToo.removeExpired
  have sameTime : keptToo.unexpired resolution first.now =
      keptToo.unexpired resolution second.now := by rw [joins.now]
  rw [ran, ranToo]
  rw [← sameTime] at stockedToo
  have tidy := joins.stocked.keeps.tidy
  have tidyToo := joins.stockedToo.keeps.tidy
  exact (joins.change stocked stockedToo
    { joins.agree with
      challenges := joins.agree.challenges.filter tidy.challenges.distinct
        tidyToo.challenges.distinct
        (fun challenge => !resolution.isPast challenge.expiresAt first.now) uncovered
      sessions := joins.agree.sessions.filter tidy.sessions.distinct tidyToo.sessions.distinct
        (fun session => !resolution.isPast session.expiresAt first.now) uncovered }).joined

/-! ### Calls -/

/-- Lifetimes are not less than a second. -/
structure Service.Lasting (service : Service) : Prop where
  challenges : nanosPerSecond ≤ service.challengeLifetime.nanos
  sessions : nanosPerSecond ≤ service.sessions.lifetime.nanos

theorem Failure.nanos_of_duration {seconds : Int} {span : Duration}
    (given : Failure.duration seconds = .ok span) : span.nanos = seconds * nanosPerSecond := by
  unfold Failure.duration at given
  split at given <;> cases given
  next found => exact Duration.nanos_of_ofSeconds? found

theorem Service.lasting_lifetime {seconds : UInt64} {name : String} {span : Duration}
    (given : lifetime seconds name = .ok span) : nanosPerSecond ≤ span.nanos := by
  unfold lifetime at given
  split at given
  · next bounds =>
    obtain ⟨positive, -⟩ := bounds
    rw [Failure.nanos_of_duration given]
    have one : (1 : Int) ≤ seconds.toNat := by omega
    calc (nanosPerSecond : Int) = 1 * nanosPerSecond := (Int.one_mul _).symm
      _ ≤ seconds.toNat * nanosPerSecond := Int.mul_le_mul_of_nonneg_right one (by decide)
  · cases given

/-- Lifetimes that settings ask for are not less than a second. -/
theorem Service.lasting_ofSettings {checker : ProofChecker} {settings : AuthSettings}
    {given : Option TokenSecret} {material : Bytes} {service : Service}
    (built : ofSettings checker settings given material = .ok service) : service.Lasting :=
  ⟨lasting_lifetime (lifetimes_ofSettings built).1, lasting_lifetime (lifetimes_ofSettings built).2⟩

/-- The device that a call belongs to: it is named, or the claims of the token name it. -/
def Call.deviceId? (service : Service) : Call → Option String
  | .issueChallenge _ _ deviceId | .submitProof _ deviceId _ _ _ | .forgetFailures deviceId =>
    some deviceId
  | .submit _ request => some request.deviceId
  | .acceptToken token | .extendSession token | .endByToken token =>
    (service.sessions.tokenKey.verify token).toOption.map TokenClaims.deviceId
  | .enroll device => some device.deviceId
  | .endSession _ | .removeExpired | .replaceLicense _ | .setClock _ => none

/-- Whether what a call carries can be read back: a nonce that is canonical, as those that are drawn
always are, or a commitment. -/
def Call.IsReadable (resolution : Resolution) : Call → Prop
  | .issueChallenge _ nonce _ => nonce.IsCanonical
  | .enroll device => device.IsReadable resolution
  | _ => True

/-- **A call for a device that is seen ends alike in two states that are alike.** -/
theorem Service.perform_ends {view : View} {resolution : Resolution} {unused : List String}
    {first second : State Storage} {service : Service} (call : Call)
    (joined : view.Joined resolution (call.drawn?.toList ++ unused) first second)
    (lawful : view.Lawful resolution first.now) (lasting : service.Lasting)
    (seen : ∀ deviceId, call.deviceId? service = some deviceId → view.device deviceId)
    (readable : call.IsReadable resolution)
    (licensed : ∀ deviceId, view.device deviceId →
      ((checkLicense deviceId).run first).1 = ((checkLicense deviceId).run second).1)
    (persists : view.Persists first.now (call.clock first.now))
    (byToken : ∀ sessionId, call ≠ .endSession sessionId) (keeps : call ≠ .removeExpired) :
    view.Ends resolution unused (service.perform call first) (service.perform call second) := by
  obtain ⟨kept, keptToo, joins⟩ := joined
  have named : ∀ {token : String} {claims : TokenClaims},
      call.deviceId? service =
        (service.sessions.tokenKey.verify token).toOption.map TokenClaims.deviceId →
      service.sessions.tokenKey.verify token = .ok claims → view.device claims.deviceId := by
    intro token claims names verified
    exact seen _ (by rw [names, verified]; rfl)
  cases call with
  | issueChallenge challengeId nonce deviceId =>
    exact joins.issueChallenge lasting.challenges (seen deviceId rfl)
      (licensed deviceId (seen deviceId rfl)) fun _ => readable
  | submitProof sessionId deviceId challengeId proof values =>
    exact joins.submitProof lawful lasting.sessions (seen deviceId rfl)
  | submit sessionId request =>
    simp only [perform]
    exact joins.submit lawful lasting.sessions (seen request.deviceId rfl)
  | acceptToken token => exact joins.accept lawful fun _ => named rfl
  | extendSession token => exact joins.extend lawful lasting.sessions fun _ => named rfl
  | endByToken token => exact joins.endByToken lawful fun _ => named rfl
  | forgetFailures deviceId => exact .value () (joins.forgetFailures deviceId).joined
  | enroll device => exact joins.enroll readable
  | replaceLicense gate => exact .value () (joins.replaceLicense gate).joined
  | setClock later => exact .value () (joins.setClock persists).joined
  | endSession sessionId => exact absurd rfl (byToken sessionId)
  | removeExpired => exact absurd rfl keeps

end DeviceAuth
