import DeviceAuth.Proofs.Auth.Lockstep.Calls

/-!
**Devices do not notice each other.** A device sees itself and its own challenges and sessions. What
another device does changes none of them (`Service.perform_passed`), and what the device does itself
ends alike whatever other devices have done (`Service.perform_ends`). So the calls of other devices
can be left out of a run.

* `View.own`: what a device sees. `View.Overlooks`: something has happened that is not seen;
  `State.Passed`: the same, for what a device sees.
* `Call.isForeign`: the calls that belong to other devices; `Call.withoutOthers` leaves them out.
* `devices_isolated`: a device is answered alike with and without them, and what is its own is the
  same afterwards.
-/

namespace DeviceAuth

open Operation Storage Service

/-! ### What a device sees -/

/-- **A device sees itself, and its own challenges and sessions.** -/
def View.own (deviceId : String) : View where
  device id := id = deviceId
  challenge _ challenge := challenge.deviceId == deviceId
  session _ session := session.deviceId == deviceId
  foreign := True
  covers := False

namespace View

variable {resolution : Resolution} {own : String} {now later : Instant}

theorem lawful_own : (View.own own).Lawful resolution now where
  challenge := by
    rintro hidden found _ other read rfl
    refine .inr ⟨trivial, ?_⟩
    rw [(Resolution.of_readChallenge read).2.1]
    exact beq_eq_false_iff_ne.mp other
  session := by
    rintro hidden found _ other read rfl
    refine .inr ⟨trivial, ?_⟩
    rw [(Resolution.of_readSession read).2.1]
    exact beq_eq_false_iff_ne.mp other

theorem persists_own : (View.own own).Persists now later :=
  ⟨fun _ seen => seen, fun _ seen => seen⟩

end View

namespace Dictionary.Agrees

variable {α : Type} {seen : α → Bool} {changed entries : Dictionary α} {id : String} {value : α}

/-- Entries agree with others that differ from them under one id only, if nothing is seen there. -/
theorem of_hidden (id : String)
    (others : ∀ other, other ≠ id → changed.get? other = entries.get? other)
    (hidden : (entries.get? id).filter seen = none)
    (hiddenThen : (changed.get? id).filter seen = none) :
    changed.Agrees False seen entries where
  same other := by
    by_cases same : other = id
    · rw [same, hidden, hiddenThen]
    · rw [others other same]
  missing := False.elim

theorem of_put (absent : entries.get? id = none) (hidden : seen value = false) :
    (entries.put id value).Agrees False seen entries := by
  refine of_hidden id (fun other different => ?_) ?_ ?_
  · rw [get?_put, if_neg different]
  · rw [absent]
    rfl
  · rw [get?_put, if_pos rfl, Option.filter_some, hidden]
    rfl

theorem of_update (change : α → α) (inside : entries.get? id = some value)
    (hidden : seen value = false) (hiddenThen : seen (change value) = false) :
    (entries.update id change).Agrees False seen entries := by
  refine of_hidden id (fun other different => ?_) ?_ ?_
  · rw [get?_update, if_neg different]
  · rw [inside, Option.filter_some, hidden]
    rfl
  · rw [get?_update, if_pos rfl, inside, Option.map_some, Option.filter_some, hiddenThen]
    rfl

theorem of_erase (inside : entries.get? id = some value) (hidden : seen value = false) :
    (entries.erase id).Agrees False seen entries := by
  refine of_hidden id (fun other different => ?_) ?_ ?_
  · rw [get?_erase, if_neg different]
  · rw [inside, Option.filter_some, hidden]
    rfl
  · rw [get?_erase, if_pos rfl]
    rfl

end Dictionary.Agrees

/-! ### What is not seen -/

/-- **Something has happened that is not seen:** everything is as before, as far as it is seen. -/
structure View.Overlooks (view : View) (resolution : Resolution) (unused : List String)
    (records kept : MemoryStore) (before after : State Storage) : Prop where
  stocked : after.Stocked resolution unused kept
  agree : view.Agree before.now kept records
  counters : ∀ id, view.device id → after.counters.count id = before.counters.count id
  license : after.license = before.license
  now : after.now = before.now

namespace View.Overlooks

variable {view : View} {resolution : Resolution} {unused used : List String}
  {records between kept keptToo : MemoryStore} {before midway after second : State Storage}
  {id : String}

theorem refl (stocked : before.Stocked resolution unused records) :
    view.Overlooks resolution unused records records before before :=
  ⟨stocked, .refl _ _ _, fun _ _ => rfl, rfl, rfl⟩

/-- The store has been changed. -/
theorem of_store {store : Storage}
    (stocked : State.Stocked resolution unused kept { before with store })
    (agree : view.Agree before.now kept records) :
    view.Overlooks resolution unused records kept before { before with store } :=
  ⟨stocked, agree, fun _ _ => rfl, rfl, rfl⟩

theorem trans {left : List String}
    (overlooks : view.Overlooks resolution left records between before midway)
    (goesOn : view.Overlooks resolution unused between kept midway after) :
    view.Overlooks resolution unused records kept before after where
  stocked := goesOn.stocked
  agree := (overlooks.now ▸ goesOn.agree).trans overlooks.agree
  counters id seen := (goesOn.counters id seen).trans (overlooks.counters id seen)
  license := goesOn.license.trans overlooks.license
  now := goesOn.now.trans overlooks.now

/-- Counters of devices that are not seen have been changed. -/
theorem counters_changed (overlooks : view.Overlooks resolution unused records kept before after)
    {counters : FailureCounters}
    (same : ∀ id, view.device id → counters.count id = after.counters.count id) :
    view.Overlooks resolution unused records kept before { after with counters } where
  stocked := ⟨overlooks.stocked.keeps, overlooks.stocked.ready⟩
  agree := overlooks.agree
  counters id seen := (same id seen).trans (overlooks.counters id seen)
  license := overlooks.license
  now := overlooks.now

/-- States that are alike stay alike. -/
theorem joins (overlooks : view.Overlooks resolution unused records kept before after)
    (joins : view.Joins resolution (used ++ unused) records keptToo before second) :
    view.Joins resolution unused kept keptToo after second where
  stocked := overlooks.stocked
  stockedToo := joins.of_append.stockedToo
  agree := overlooks.now ▸ overlooks.agree.trans joins.agree
  counters id seen := (overlooks.counters id seen).trans (joins.counters id seen)
  license := overlooks.license.trans joins.license
  now := overlooks.now.trans joins.now

end View.Overlooks

/-! ### What other devices do -/

/-- **Something has happened that a device does not see.** -/
def State.Passed (own : String) (resolution : Resolution) (unused : List String)
    (records : MemoryStore) (before after : State Storage) : Prop :=
  ∃ kept, (View.own own).Overlooks resolution unused records kept before after

section Others

variable {service : Service} {policy : SessionPolicy} {resolution : Resolution}
  {unused : List String} {records : MemoryStore} {state : State Storage} {own id : String}

theorem State.Stocked.passed (stocked : state.Stocked resolution unused records) :
    State.Passed own resolution unused records state state :=
  ⟨records, .refl stocked⟩

/-- A session of another device is changed, and stays its session. -/
theorem View.Overlooks.of_updateSession {session : Session} {store : Storage}
    (inside : records.sessions.get? id = some session) (other : session.deviceId ≠ own)
    {change : Session → Session} (stays : (change session).deviceId = session.deviceId)
    (stocked : State.Stocked resolution unused
      { records with sessions := records.sessions.update id change } { state with store }) :
    (View.own own).Overlooks resolution unused records
      { records with sessions := records.sessions.update id change } state { state with store } :=
  .of_store stocked
    { View.Agree.refl _ _ _ with
      sessions := .of_update change inside (beq_eq_false_iff_ne.mpr other)
        (beq_eq_false_iff_ne.mpr (stays ▸ other)) }

/-- A challenge of another device is used up. -/
theorem View.Overlooks.of_spendChallenge {challenge : Challenge} {store : Storage}
    (inside : records.challenges.get? id = some challenge) (other : challenge.deviceId ≠ own)
    (stocked : State.Stocked resolution unused
      { records with
        challenges := records.challenges.update id fun challenge =>
          { challenge with used := true } } { state with store }) :
    (View.own own).Overlooks resolution unused records
      { records with
        challenges := records.challenges.update id fun challenge =>
          { challenge with used := true } } state { state with store } := by
  refine .of_store stocked
    { View.Agree.refl _ _ _ with
      challenges := .of_update (fun challenge : Challenge => { challenge with used := true }) inside
        ?_ ?_ } <;>
  exact beq_eq_false_iff_ne.mpr other

/-- Failures of another device are forgotten. -/
theorem View.Overlooks.forgets {kept : MemoryStore} {after : State Storage}
    (overlooks : (View.own own).Overlooks resolution unused records kept state after)
    (other : id ≠ own) :
    (View.own own).Overlooks resolution unused records kept state
      { after with counters := after.counters.forget id } :=
  overlooks.counters_changed fun seen same => by
    obtain rfl : seen = own := same
    rw [FailureCounters.count_forget, if_neg other.symm]

/-- A failure of another device is counted. -/
theorem View.Overlooks.counts {kept : MemoryStore} {after : State Storage}
    (overlooks : (View.own own).Overlooks resolution unused records kept state after)
    (other : id ≠ own) :
    (View.own own).Overlooks resolution unused records kept state
      { after with counters := (after.counters.countFailure id).2 } :=
  overlooks.counters_changed fun seen same => by
    obtain rfl : seen = own := same
    rw [FailureCounters.count_countFailure, if_neg other.symm]

/-- What is known of the session of a token that is recognized, if the token is not the device's. -/
theorem SessionPolicy.Recognized.held {token : String} {claims : TokenClaims} {session : Session}
    (recognized : policy.Recognized token state.now state claims session)
    (stocked : state.Stocked resolution unused records) :
    ∃ held, records.sessions.get? claims.sessionId = some held ∧
      held.deviceId = claims.deviceId ∧ session.sessionId = claims.sessionId ∧
      resolution.Reads state.now := by
  obtain ⟨held, inside, read⟩ := Dictionary.exists_of_read
    ((stocked.keeps.session claims.sessionId).symm.trans recognized.found)
  have named := stocked.keeps.tidy.sessions.keyed _ held (Dictionary.mem_of_get? inside)
  obtain ⟨sameId, sameOwner, _⟩ := Resolution.of_readSession read
  exact ⟨held, inside, sameOwner.symm.trans recognized.owned, sameId.trans named,
    Resolution.reads_of_current read recognized.current⟩

/-- A token of another device is accepted. -/
theorem SessionPolicy.passed_accept (stocked : state.Stocked resolution unused records)
    {token : String}
    (other : ∀ claims, policy.tokenKey.verify token = .ok claims → claims.deviceId ≠ own) :
    State.Passed own resolution unused records state ((policy.accept token).run state).2 := by
  unfold SessionPolicy.accept
  simp only [run_bind, run_now]
  rcases policy.recognize_run token state.now state with
    ⟨failure, stops⟩ | ⟨claims, session, recognized, goes⟩
  · simp only [stops]
    exact stocked.passed
  obtain ⟨held, inside, owned, -, reads⟩ := recognized.held stocked
  have foreign : held.deviceId ≠ own := owned ▸ other claims recognized.verified
  obtain ⟨store, noted, stockedThen⟩ := stocked.noteUse inside reads
  simp only [goes, noted, if_true, run_pure]
  exact ⟨_, .of_updateSession inside foreign rfl stockedThen⟩

/-- A session of another device is extended. -/
theorem SessionPolicy.passed_extend (stocked : state.Stocked resolution unused records)
    (lasting : nanosPerSecond ≤ policy.lifetime.nanos) {token : String}
    (other : ∀ claims, policy.tokenKey.verify token = .ok claims → claims.deviceId ≠ own) :
    State.Passed own resolution unused records state ((policy.extend token).run state).2 := by
  unfold SessionPolicy.extend
  simp only [run_bind, run_now]
  rcases policy.recognize_run token state.now state with
    ⟨failure, stops⟩ | ⟨claims, session, recognized, goes⟩
  · simp only [stops]
    exact stocked.passed
  obtain ⟨held, inside, owned, named, reads⟩ := recognized.held stocked
  have foreign : held.deviceId ≠ own := owned ▸ other claims recognized.verified
  simp only [goes, run_later]
  rcases ends : Failure.later state.now policy.lifetime with failure | expiresAt
  · exact stocked.passed
  obtain ⟨_, plain⟩ := Instant.isReadable_of_add? lasting (Failure.later_eq_ok ends)
  -- Which token is handed out plays no part any more.
  dsimp only
  generalize policy.tokenFor session.deviceId session.sessionId state.now expiresAt = renewed
  obtain ⟨store, prolonged, stockedThen⟩ :=
    stocked.prolongSession inside (fun _ => Instant.isReadable_of_plain plain) renewed
  have insideThen := Dictionary.get?_update_self inside
    fun session => { session with expiresAt, token := renewed }
  obtain ⟨storeLast, noted, stockedLast⟩ := stockedThen.noteUse insideThen reads
  rw [named]
  simp only [prolonged, if_true, run_bind, run_pure, noted]
  refine ⟨_, .trans (.of_updateSession inside foreign rfl stockedThen)
    (.of_updateSession insideThen ?_ rfl stockedLast)⟩
  exact foreign

/-- The session of a token of another device is ended. -/
theorem Service.passed_endByToken (stocked : state.Stocked resolution unused records)
    {token : String} (other : ∀ claims, service.sessions.tokenKey.verify token = .ok claims →
      claims.deviceId ≠ own) :
    State.Passed own resolution unused records state ((service.endByToken token).run state).2 := by
  unfold Service.endByToken acceptToken SessionPolicy.accept endSession
  simp only [run_bind, run_now]
  rcases service.sessions.recognize_run token state.now state with
    ⟨failure, stops⟩ | ⟨claims, session, recognized, goes⟩
  · simp only [stops]
    exact stocked.passed
  obtain ⟨held, inside, owned, -, reads⟩ := recognized.held stocked
  have foreign : held.deviceId ≠ own := owned ▸ other claims recognized.verified
  obtain ⟨store, noted, stockedThen⟩ := stocked.noteUse inside reads
  have insideThen := Dictionary.get?_update_self inside
    fun session => { session with lastUsedAt := state.now }
  obtain ⟨storeLast, closed, stockedLast⟩ := stockedThen.close insideThen
  simp only [goes, noted, if_true, run_pure, closed]
  refine ⟨_, .trans (.of_updateSession inside foreign rfl stockedThen) (.of_store stockedLast
    { View.Agree.refl _ _ _ with sessions := .of_erase insideThen ?_ })⟩
  exact beq_eq_false_iff_ne.mpr foreign

/-- A challenge is issued to another device. -/
theorem Service.passed_issueChallenge {challengeId deviceId : String} {nonce : Word256}
    (stocked : state.Stocked resolution (challengeId :: unused) records)
    (lasting : nanosPerSecond ≤ service.challengeLifetime.nanos)
    (canonical : nonce.IsCanonical) (other : deviceId ≠ own) :
    State.Passed own resolution unused records state
      ((service.issueChallenge challengeId nonce deviceId).run state).2 := by
  have issued := service.issueChallenge_run challengeId nonce deviceId state
  rcases ran : (service.issueChallenge challengeId nonce deviceId).run state with ⟨result, after⟩
  rw [ran] at issued
  cases issued with
  | refused failure => exact stocked.tail.passed
  | issued device expiresAt store known active unlocked added =>
    obtain ⟨begins, plain⟩ := Instant.isReadable_of_add? lasting (issueChallenge_expiry ran)
    have readable : Challenge.IsReadable resolution
        ⟨challengeId, deviceId, nonce, state.now, expiresAt, false⟩ :=
      ⟨fun _ => canonical, fun _ => begins, fun _ => Instant.isReadable_of_plain plain⟩
    obtain ⟨_, addedToo, stockedThen⟩ := State.Stocked.addChallenge stocked readable
    rw [run_addChallenge, added] at addedToo
    cases addedToo
    exact ⟨_, .of_store stockedThen
      { View.Agree.refl _ _ _ with
        challenges := .of_put (stocked.ready.free _ (.head _)).1
          (beq_eq_false_iff_ne.mpr other) }⟩

/-- A session is opened for another device. -/
theorem SessionPolicy.passed_create {sessionId holder : String}
    (stocked : state.Stocked resolution (sessionId :: unused) records)
    (lasting : nanosPerSecond ≤ policy.lifetime.nanos) (other : holder ≠ own) :
    State.Passed own resolution unused records state
      ((policy.create sessionId holder).run state).2 := by
  unfold SessionPolicy.create
  simp only [run_bind, run_now, run_later]
  rcases ends : Failure.later state.now policy.lifetime with failure | expiresAt
  · exact stocked.tail.passed
  obtain ⟨begins, plain⟩ := Instant.isReadable_of_add? lasting (Failure.later_eq_ok ends)
  have readable : Session.IsReadable resolution
      ⟨sessionId, holder, policy.tokenFor holder sessionId state.now expiresAt, state.now,
        expiresAt, state.now⟩ :=
    ⟨fun _ => begins, fun _ => Instant.isReadable_of_plain plain, fun _ => begins⟩
  obtain ⟨_, added, stockedThen⟩ := State.Stocked.addSession stocked readable
  simp only [added, run_pure]
  exact ⟨_, .of_store stockedThen
    { View.Agree.refl _ _ _ with
      sessions := .of_put (stocked.ready.free _ (.head _)).2 (beq_eq_false_iff_ne.mpr other) }⟩

/-- Another device attempts to verify a proof. -/
theorem Service.passed_attempt {sessionId deviceId challengeId : String} {proof : Bytes}
    {values : PublicValues} (stocked : state.Stocked resolution (sessionId :: unused) records)
    (lasting : nanosPerSecond ≤ service.sessions.lifetime.nanos) (other : deviceId ≠ own) :
    State.Passed own resolution unused records state
      ((service.attempt sessionId deviceId challengeId proof values).run state).2 := by
  rcases service.attempt_run sessionId deviceId challengeId proof values state with
    ⟨failure, stops, _⟩ | ⟨challenge, device, passes, goes⟩
  · rw [stops]
    exact stocked.tail.passed
  obtain ⟨held, inside, read⟩ := Dictionary.exists_of_read
    ((stocked.keeps.challenge challengeId).symm.trans passes.found)
  have known := (stocked.device deviceId).symm.trans passes.known
  have named : device.deviceId = deviceId := stocked.deviceId_of_get? (Except.ok.inj known)
  have owned : held.deviceId = deviceId :=
    (Resolution.of_readChallenge read).2.1.symm.trans (passes.issuedTo.trans named)
  have fresh : held.used = false :=
    (Resolution.used_of_readChallenge read).symm.trans passes.unused
  obtain ⟨store, spent, stockedThen⟩ := stocked.spendChallenge inside fresh
  -- The challenge is the other device's, and so are the failures that are forgotten.
  have forgets := (View.Overlooks.of_spendChallenge inside (owned ▸ other : held.deviceId ≠ own)
    stockedThen).forgets other
  obtain ⟨kept, creates⟩ :=
    service.sessions.passed_create forgets.stocked lasting (named ▸ other : device.deviceId ≠ own)
  rw [goes]
  unfold Service.redeem
  simp only [run_bind, spent, if_true, run_forgetFailures]
  exact ⟨kept, forgets.trans creates⟩

/-- A failure may be held against another device. -/
theorem View.Overlooks.passed_counters {kept : MemoryStore} {after : State Storage}
    (overlooks : (View.own own).Overlooks resolution unused records kept state after)
    (other : id ≠ own) {counters : FailureCounters}
    (counted : counters = after.counters ∨ counters = (after.counters.countFailure id).2) :
    State.Passed own resolution unused records state { after with counters } := by
  rcases counted with rfl | rfl
  · exact ⟨kept, overlooks⟩
  · exact ⟨kept, overlooks.counts other⟩

theorem Service.passed_submitProof {sessionId deviceId challengeId : String} {proof : Bytes}
    {values : PublicValues} (stocked : state.Stocked resolution (sessionId :: unused) records)
    (lasting : nanosPerSecond ≤ service.sessions.lifetime.nanos) (other : deviceId ≠ own) :
    State.Passed own resolution unused records state
      ((service.submitProof sessionId deviceId challengeId proof values).run state).2 := by
  obtain ⟨kept, overlooks⟩ :
      State.Passed own resolution unused records state
        ((service.attempt sessionId deviceId challengeId proof values).run state).2 :=
    service.passed_attempt stocked lasting other
  unfold submitProof
  rcases attempted : (service.attempt sessionId deviceId challengeId proof values).run state with
    ⟨failure | session, after⟩ <;> rw [attempted] at overlooks
  · obtain ⟨counters, counted, ran⟩ := onRefusal_run deviceId attempted
    rw [ran]
    exact overlooks.passed_counters other counted
  · rw [run_onRefusal, attempted]
    exact ⟨kept, overlooks⟩

theorem Service.passed_submit {sessionId : String} {request : ProofSubmission}
    (stocked : state.Stocked resolution (sessionId :: unused) records)
    (lasting : nanosPerSecond ≤ service.sessions.lifetime.nanos)
    (other : request.deviceId ≠ own) :
    State.Passed own resolution unused records state
      ((service.submit sessionId request).run state).2 := by
  unfold submit
  rcases request.proof.decodedProof with error | proof
  · obtain ⟨counters, counted, ran⟩ := holdAgainst_run request.deviceId (.ofZkp error) state
    simp only [ran]
    exact (View.Overlooks.refl stocked.tail).passed_counters other (counted.imp_right And.right)
  · exact service.passed_submitProof stocked lasting other

/-- Another device is enrolled. -/
theorem State.Stocked.passed_enroll (stocked : state.Stocked resolution unused records)
    {device : Credential} (readable : device.IsReadable resolution)
    (other : device.deviceId ≠ own) :
    State.Passed own resolution unused records state ((Operation.enroll device).run state).2 := by
  rcases stocked.enroll readable with ⟨error, _, ran⟩ | ⟨word, store, _, ran, stockedThen⟩
  · rw [ran]
    exact stocked.passed
  · rw [ran]
    refine ⟨_, .of_store stockedThen { View.Agree.refl _ _ _ with devices := ?_ }⟩
    intro id seen
    obtain rfl : id = own := seen
    rw [Dictionary.get?_put, if_neg other.symm]

/-- **What another device does is not seen.** -/
theorem Service.perform_passed {call : Call} {named : String}
    (belongs : call.deviceId? service = some named) (other : named ≠ own)
    (stocked : state.Stocked resolution (call.drawn?.toList ++ unused) records)
    (lasting : service.Lasting) (readable : call.IsReadable resolution) :
    State.Passed own resolution unused records state (service.perform call state).2 := by
  have token : ∀ {token : String} {claims : TokenClaims},
      (service.sessions.tokenKey.verify token).toOption.map TokenClaims.deviceId = some named →
        service.sessions.tokenKey.verify token = .ok claims → claims.deviceId ≠ own := by
    intro token claims belongs verified
    rw [verified] at belongs
    exact Option.some.inj belongs ▸ other
  cases call with
  | issueChallenge challengeId nonce deviceId =>
    obtain rfl := Option.some.inj belongs
    exact service.passed_issueChallenge stocked lasting.challenges readable other
  | submitProof sessionId deviceId challengeId proof values =>
    obtain rfl := Option.some.inj belongs
    exact service.passed_submitProof stocked lasting.sessions other
  | submit sessionId request =>
    obtain rfl := Option.some.inj belongs
    simp only [perform]
    exact service.passed_submit stocked lasting.sessions other
  | acceptToken _ => exact service.sessions.passed_accept stocked fun _ => token belongs
  | extendSession _ =>
    exact service.sessions.passed_extend stocked lasting.sessions fun _ => token belongs
  | endByToken _ => exact service.passed_endByToken stocked fun _ => token belongs
  | forgetFailures deviceId =>
    obtain rfl := Option.some.inj belongs
    exact ⟨records, (View.Overlooks.refl stocked).forgets other⟩
  | enroll device =>
    obtain rfl := Option.some.inj belongs
    exact stocked.passed_enroll readable other
  | endSession _ | removeExpired | replaceLicense _ | setClock _ => cases belongs

end Others

/-! ### Runs -/

namespace Call

/-- **Whether a call belongs to another device.** -/
def isForeign (service : Service) (own : String) (call : Call) : Bool :=
  (call.deviceId? service).any fun deviceId => deviceId != own

/-- The calls of a run that do not belong to other devices. -/
def withoutOthers (service : Service) (own : String) (calls : List Call) : List Call :=
  calls.filter fun call => !call.isForeign service own

/-- **Whether devices are isolated in a call:** what it carries can be read back, it ends a session
with its token only, and no license limits how many devices there are. -/
structure IsConfined (resolution : Resolution) (call : Call) : Prop where
  readable : call.IsReadable resolution
  byToken : ∀ sessionId, call ≠ .endSession sessionId
  unlimited : ∀ gate, call = .replaceLicense gate → gate.maxDevices = 0

theorem exists_of_isForeign {service : Service} {own : String} {call : Call}
    (foreign : call.isForeign service own = true) :
    ∃ named, call.deviceId? service = some named ∧ named ≠ own := by
  rcases belongs : call.deviceId? service with _ | named
  · simp [isForeign, belongs] at foreign
  · exact ⟨named, rfl, by simpa [isForeign, belongs] using foreign⟩

theorem eq_of_not_isForeign {service : Service} {own named : String} {call : Call}
    (mine : call.isForeign service own = false) (belongs : call.deviceId? service = some named) :
    named = own := by
  simpa [isForeign, belongs] using mine

end Call

/-- **What a device sees of an event:** nothing, unless the call is its own, and then what it gives,
or what is told of a failure. -/
def Event.seenBy? (service : Service) (own : String) (event : Event) :
    Option ((call : Call) × Except Gateway.Response call.Result) :=
  if event.call.deviceId? service = some own then
    some ⟨event.call, event.result.mapError Gateway.refusalOf⟩
  else none

section Runs

variable {service : Service} {resolution : Resolution} {unused : List String}
  {first second state : State Storage} {own : String} {call : Call}

/-- A license without a limit allows a device whoever holds a session. -/
theorem Service.checkLicense_alike (license : first.license = second.license)
    (now : first.now = second.now) (unlimited : first.license.maxDevices = 0) (deviceId : String) :
    ((checkLicense deviceId).run first).1 = ((checkLicense deviceId).run second).1 := by
  unfold checkLicense
  simp only [run_bind, run_license, ← license]
  cases first.license.isEnabled
  · rfl
  · simp only [if_true, run_bind, run_now, ← now, run_done]
    rcases first.license.check first.now with failure | _
    · rfl
    · simp only [checkQuota, unlimited, if_true]
      rfl

theorem Service.perform_unlimited (confined : call.IsConfined resolution)
    (unlimited : state.license.maxDevices = 0) :
    (service.perform call state).2.license.maxDevices = 0 := by
  have kept : ∀ {α : Type} (operation : Operation α),
      (operation.run state).2.license.maxDevices = 0 := by
    intro α operation
    rw [(run_sameTerms operation state).license, unlimited]
  cases call with
  | replaceLicense gate => exact confined.unlimited gate rfl
  | setClock later => exact unlimited
  | submit sessionId request => simp only [Service.perform, kept]
  | _ => exact kept _

/-- What is told of two runs that end alike is the same. -/
theorem View.Ends.told {view : View} {α : Type}
    {outcome outcomeToo : Except Failure α × State Storage}
    (ends : view.Ends resolution unused outcome outcomeToo) :
    outcome.1.mapError Gateway.refusalOf = outcomeToo.1.mapError Gateway.refusalOf ∧
      view.Joined resolution unused outcome.2 outcomeToo.2 := by
  cases ends with
  | value value joined => exact ⟨rfl, joined⟩
  | failure same joined => exact ⟨congrArg Except.error same.refusalOf, joined⟩

/-- A call of another device leaves states alike, though it is made in one of them only. -/
theorem View.Joined.perform_foreign
    (joined : (View.own own).Joined resolution (call.drawn?.toList ++ unused) first second)
    (foreign : call.isForeign service own = true) (lasting : service.Lasting)
    (confined : call.IsConfined resolution) :
    (View.own own).Joined resolution unused (service.perform call first).2 second := by
  obtain ⟨records, keptToo, joins⟩ := joined
  obtain ⟨named, belongs, other⟩ := Call.exists_of_isForeign foreign
  obtain ⟨kept, overlooks⟩ :=
    service.perform_passed belongs other joins.stocked lasting confined.readable
  exact ⟨kept, keptToo, overlooks.joins joins⟩

/-- Any other call is answered alike in states that are alike, and leaves them alike. -/
theorem View.Joined.perform_own
    (joined : (View.own own).Joined resolution (call.drawn?.toList ++ unused) first second)
    (mine : call.isForeign service own = false) (lasting : service.Lasting)
    (confined : call.IsConfined resolution) (unlimited : first.license.maxDevices = 0) :
    Event.seenBy? service own ⟨call, (service.perform call first).1⟩ =
        Event.seenBy? service own ⟨call, (service.perform call second).1⟩ ∧
      (View.own own).Joined resolution unused (service.perform call first).2
        (service.perform call second).2 := by
  obtain ⟨kept, keptToo, joins⟩ := joined
  by_cases sweeps : call = .removeExpired
  · subst sweeps
    exact ⟨rfl, joins.removeExpired fun covers => covers⟩
  have ends := service.perform_ends call joins.joined View.lawful_own lasting
    (fun _ belongs => Call.eq_of_not_isForeign mine belongs) confined.readable
    (fun deviceId _ => checkLicense_alike joins.license joins.now unlimited deviceId)
    View.persists_own confined.byToken sweeps
  obtain ⟨told, joinedThen⟩ := ends.told
  refine ⟨?_, joinedThen⟩
  simp only [Event.seenBy?, told]

/-- **A run and the run without the calls of other devices** go on alike from states that are
alike. -/
theorem View.Joined.run {calls : List Call}
    (joined : (View.own own).Joined resolution (calls.flatMap fun call => call.drawn?.toList) first
      second)
    (lasting : service.Lasting) (confined : ∀ call ∈ calls, call.IsConfined resolution)
    (unlimited : first.license.maxDevices = 0) :
    (service.events calls first).filterMap (Event.seenBy? service own) =
        (service.events (Call.withoutOthers service own calls) second).filterMap
          (Event.seenBy? service own) ∧
      (View.own own).Joined resolution [] (service.after calls first)
        (service.after (Call.withoutOthers service own calls) second) := by
  induction calls generalizing first second with
  | nil => exact ⟨rfl, joined⟩
  | cons call rest ih =>
    have here := confined call (.head _)
    have goesOn : ∀ {third : State Storage}, (View.own own).Joined resolution _ _ third → _ :=
      fun joined => ih joined (fun other member => confined other (.tail _ member))
        (service.perform_unlimited here unlimited)
    rcases mine : call.isForeign service own with _ | _
    · obtain ⟨seen, joinedThen⟩ := joined.perform_own mine lasting here unlimited
      obtain ⟨seenThen, ends⟩ := goesOn joinedThen
      have kept : Call.withoutOthers service own (call :: rest) =
          call :: Call.withoutOthers service own rest := by simp [Call.withoutOthers, mine]
      rw [kept]
      refine ⟨?_, ends⟩
      simp only [Service.events, List.filterMap_cons, seen, seenThen]
    · obtain ⟨seenThen, ends⟩ := goesOn (joined.perform_foreign mine lasting here)
      have left : Call.withoutOthers service own (call :: rest) =
          Call.withoutOthers service own rest := by simp [Call.withoutOthers, mine]
      have unseen : ∀ result, Event.seenBy? service own ⟨call, result⟩ = none := by
        intro result
        obtain ⟨named, belongs, other⟩ := Call.exists_of_isForeign mine
        simp [Event.seenBy?, belongs, other]
      rw [left]
      refine ⟨?_, ends⟩
      simp only [Service.events, List.filterMap_cons, unseen, seenThen]

end Runs

/-! ### What a device has of its own -/

/-- What is read of an entry that is seen is read of the same entry elsewhere. -/
theorem Dictionary.read_of_same {α : Type} {seen : α → Bool} {read : α → Except AuthError α}
    {id : String} {entries others : Dictionary α} {found : α}
    (same : (entries.get? id).filter seen = (others.get? id).filter seen)
    (sees : ∀ held, read held = .ok found → seen held = true)
    (is : (entries.get? id).mapM read = .ok (some found)) :
    (others.get? id).mapM read = .ok (some found) := by
  obtain ⟨held, inside, reads⟩ := exists_of_read is
  rw [inside, Option.filter_some, if_pos (sees held reads)] at same
  obtain ⟨insideToo, _⟩ := Option.filter_eq_some_iff.mp same.symm
  rw [insideToo, ← inside, is]

section Own

variable {resolution : Resolution} {unused : List String} {kept keptToo : MemoryStore}
  {first second : State Storage} {own id : String}

/-- A device has the same challenges in states that are alike. -/
theorem View.Joins.challenge_iff
    (joins : (View.own own).Joins resolution unused kept keptToo first second)
    {challenge : Challenge} (owned : challenge.deviceId = own) :
    RecordStore.challenge id first.store = .ok (some challenge) ↔
      RecordStore.challenge id second.store = .ok (some challenge) := by
  have sees : ∀ held, resolution.readChallenge held = .ok challenge →
      (View.own own).challenge first.now held = true := fun held read =>
    beq_iff_eq.mpr ((Resolution.of_readChallenge read).2.1.symm.trans owned)
  rw [joins.stocked.keeps.challenge, joins.stockedToo.keeps.challenge]
  exact ⟨Dictionary.read_of_same (joins.agree.challenges.same id) sees,
    Dictionary.read_of_same (joins.agree.challenges.same id).symm sees⟩

/-- A device has the same sessions in states that are alike. -/
theorem View.Joins.session_iff
    (joins : (View.own own).Joins resolution unused kept keptToo first second)
    {session : Session} (owned : session.deviceId = own) :
    RecordStore.session id first.store = .ok (some session) ↔
      RecordStore.session id second.store = .ok (some session) := by
  have sees : ∀ held, resolution.readSession held = .ok session →
      (View.own own).session first.now held = true := fun held read =>
    beq_iff_eq.mpr ((Resolution.of_readSession read).2.1.symm.trans owned)
  rw [joins.stocked.keeps.session, joins.stockedToo.keeps.session]
  exact ⟨Dictionary.read_of_same (joins.agree.sessions.same id) sees,
    Dictionary.read_of_same (joins.agree.sessions.same id).symm sees⟩

end Own

/-- **A device is isolated from others in a run:** leaving out their calls changes no answer to its
own, and nothing that it has afterwards. -/
structure Isolated (service : Service) (own : String) (start : State Storage) (calls : List Call) :
    Prop where
  answers : (service.events calls start).filterMap (Event.seenBy? service own) =
    (service.events (Call.withoutOthers service own calls) start).filterMap
      (Event.seenBy? service own)
  credential : RecordStore.device own (service.after calls start).store =
    RecordStore.device own (service.after (Call.withoutOthers service own calls) start).store
  failures : (service.after calls start).counters.count own =
    (service.after (Call.withoutOthers service own calls) start).counters.count own
  challenges : ∀ id challenge, challenge.deviceId = own →
    (RecordStore.challenge id (service.after calls start).store = .ok (some challenge) ↔
      RecordStore.challenge id
        (service.after (Call.withoutOthers service own calls) start).store = .ok (some challenge))
  sessions : ∀ id session, session.deviceId = own →
    (RecordStore.session id (service.after calls start).store = .ok (some session) ↔
      RecordStore.session id
        (service.after (Call.withoutOthers service own calls) start).store = .ok (some session))

/-- **Devices are isolated from each other.** The run goes on over a storage of either kind, with
records that can be read back and with ids that are new, in whatever order and however the clock is
set; no license limits how many devices hold sessions. -/
theorem devices_isolated {checker : ProofChecker} {settings : AuthSettings}
    {given : Option TokenSecret} {material : Bytes} {service : Service}
    (built : Service.ofSettings checker settings given material = .ok service)
    {start : State Storage} {resolution : Resolution} {records : MemoryStore} {calls : List Call}
    (stocked : start.Stocked resolution (calls.flatMap fun call => call.drawn?.toList) records)
    (unlimited : start.license.maxDevices = 0)
    (confined : ∀ call ∈ calls, call.IsConfined resolution) (own : String) :
    Isolated service own start calls := by
  have begins : (View.own own).Joined resolution
      (calls.flatMap fun call => call.drawn?.toList) start start :=
    ⟨records, records, stocked, stocked, .refl _ _ _, fun _ _ => rfl, rfl, rfl⟩
  obtain ⟨answers, _, _, joins⟩ :=
    begins.run (Service.lasting_ofSettings built) confined unlimited
  exact {
    answers
    credential := joins.device rfl
    failures := joins.counters own rfl
    challenges := fun _ _ owned => joins.challenge_iff owned
    sessions := fun _ _ owned => joins.session_iff owned }

/-! Another device gets a challenge, and the device tries it before its own. -/

namespace Sample

/-- No records are in the database yet. -/
def tables : State Storage :=
  { vacant with store := database }

/-- Another device enrolls and gets a challenge, which the device tries. -/
def prying : List Call := [
  .enroll otherDevice,
  .issueChallenge "theirs" (.ofNat 2) "other",
  .submitProof "unopened" "device" "theirs" [1] (values 2)]

/-- The device enrolls, tries the other challenge and redeems its own. -/
def meeting : List Call := .enroll device :: prying ++ [
  .issueChallenge "challenge" (.ofNat 3) "device",
  .submitProof "session" "device" "challenge" [1] (values 3),
  .removeExpired]

/-- A credential with a commitment that is not canonical, and cannot be read from a database. -/
def unreadable : Credential :=
  { device with commitment := .ofNat scalarModulus }

end Sample

open Sample in
theorem devices_isolated_meeting :
    (Call.withoutOthers configured "device" meeting).length = 5 ∧
      Isolated configured "device" tables meeting := by
  have built : Service.ofSettings ⟨"accept-all", acceptNonempty⟩ settings (some (.configured []))
      [] = .ok configured := rfl
  have stocked : tables.Stocked .milliseconds (meeting.flatMap fun call => call.drawn?.toList)
      .empty :=
    ⟨⟨MemoryStore.tidy_empty, trivial, true, rfl⟩, .empty (by decide)⟩
  refine ⟨by decide +kernel, devices_isolated built stocked rfl ?_ "device"⟩
  have canonical : ∀ nonce < 4, (Word256.ofNat nonce).IsCanonical := by decide
  simp only [meeting, prying, List.cons_append, List.nil_append, List.forall_mem_cons]
  refine ⟨⟨fun _ => canonical 1 (by decide), ?_, ?_⟩, ⟨fun _ => canonical 1 (by decide), ?_, ?_⟩,
    ⟨canonical 2 (by decide), ?_, ?_⟩, ⟨trivial, ?_, ?_⟩, ⟨canonical 3 (by decide), ?_, ?_⟩,
    ⟨trivial, ?_, ?_⟩, ⟨trivial, ?_, ?_⟩, List.forall_mem_nil _⟩
  -- None of the calls ends a session or replaces the license.
  all_goals
    intro _ same
    cases same

open Sample in
/-- **A device whose commitment cannot be read learns of a challenge of another device:** its attempt
is answered with an internal error as long as there is the challenge, and with the denial without. -/
theorem foreign_challenge_noticed :
    ¬ Isolated configured "device" tables (.enroll unreadable :: prying) := by
  intro isolated
  have statuses := congrArg (List.map fun seen => match seen.2 with
    | .ok _ => 200
    | .error response => response.status) isolated.answers
  revert statuses
  decide +kernel

end DeviceAuth
