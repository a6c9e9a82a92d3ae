import DeviceAuth.Proofs.Auth.Equivalence
import DeviceAuth.Proofs.Auth.Quota
import DeviceAuth.Proofs.Auth.Waiting

/-!
**When a challenge is issued.** Three conditions are looked at in this order: the device is enrolled
and active, it has failed less often than the limit, and the license covers it.

* `State.Covers`: what the license asks for. `checkLicense_covered`, `checkLicense_denied` and
  `checkLicense_full` say what comes of it.
* `Service.Entitles`: all three conditions. `Service.issueChallenge_entitled`: then only the end of
  the calendar or the store can stand in the way.
* `State.Gains`: one challenge more, and nothing else has changed.
* `Service.Gated`: the conditions decide, the first that fails is the one that is named, and a
  challenge that is not issued leaves no trace. `issuance_gate`: so it is in every state that calls
  lead to.

A storage keeps the two instants of a challenge at its own resolution; in a database they are read
back in whole milliseconds (`issuance_rounded_in_database`).
-/

namespace DeviceAuth

open Operation Service Storage

/-! ### The conditions -/

/-- A device is enrolled and active. -/
def State.Admits (state : State Storage) (deviceId : String) : Prop :=
  ∃ device, RecordStore.device deviceId state.store = .ok (some device) ∧ device.isActive = true

/-- A device holds a session, or fewer devices do than the license allows. -/
def State.HasRoom (state : State Storage) (deviceId : String) : Prop :=
  state.license.maxDevices = 0 ∨ deviceId ∈ state.live ∨
    state.live.card < state.license.maxDevices.toNat

/-- No license is needed, or the license stands and there is room under it. -/
def State.Covers (state : State Storage) (deviceId : String) : Prop :=
  state.license.isEnabled = false ∨
    state.license.check state.now = .ok () ∧ state.HasRoom deviceId

/-- **What a device needs for a challenge.** -/
structure Service.Entitles (service : Service) (state : State Storage) (deviceId : String) :
    Prop where
  admitted : state.Admits deviceId
  unlocked : state.counters.count deviceId < service.failureLimit
  covered : state.Covers deviceId

/-- The refusal of one device more. -/
def LicenseGate.crowded (gate : LicenseGate) : AuthError :=
  .licenseDenied ("license allows " ++ toString gate.maxDevices.toNat
    ++ " concurrently authenticated devices")

section Checks

variable {service : Service} {resolution : Resolution} {records : MemoryStore}
  {state : State Storage} {deviceId : String}

/-- What the count of live devices is compared with. -/
theorem Service.checkQuota_run_eq (keeps : state.store.Keeps resolution records)
    (limited : state.license.maxDevices ≠ 0) :
    (checkQuota deviceId state.license.maxDevices).run state =
      if deviceId ∉ state.live ∧ state.license.maxDevices.toNat ≤ state.live.card then
        (.error (.refused state.license.crowded), state)
      else (.ok (), state) := by
  obtain ⟨live, listed, nodup, _⟩ := keeps.liveDevices state.now
  have counted : state.live = live.toFinset := by simp only [State.live, listed]
  have contained : (¬ live.contains deviceId = true) ↔ deviceId ∉ live := by simp
  simp only [checkQuota, SessionPolicy.liveNow, if_neg limited, run_bind, run_now, run_liveDevices,
    listed, Failure.lift_ok, counted, List.mem_toFinset, List.toFinset_card_of_nodup nodup,
    contained]
  split <;> rfl

/-- A license that covers a device is no obstacle. -/
theorem Service.checkLicense_covered (keeps : state.store.Keeps resolution records)
    (covers : state.Covers deviceId) : (checkLicense deviceId).run state = (.ok (), state) := by
  rcases enabled : state.license.isEnabled
  · simp only [checkLicense, run_bind, run_license, enabled, Bool.false_eq_true, if_false, run_pure]
  obtain disabled | ⟨stands, room⟩ := covers
  · rw [enabled] at disabled
    cases disabled
  simp only [checkLicense, run_bind, run_license, enabled, if_true, run_now, run_done, stands]
  by_cases unlimited : state.license.maxDevices = 0
  · simp only [checkQuota, unlimited, if_true, run_pure]
  · have fits : ¬ (deviceId ∉ state.live ∧ state.license.maxDevices.toNat ≤ state.live.card) := by
      rintro ⟨absent, full⟩
      rcases room with none | member | less
      · exact unlimited none
      · exact absent member
      · exact absurd full (Nat.not_le_of_lt less)
    rw [checkQuota_run_eq keeps unlimited, if_neg fits]

/-- A license that does not stand denies with its own reason. -/
theorem Service.checkLicense_denied {failure : Failure} (enabled : state.license.isEnabled = true)
    (fails : state.license.check state.now = .error failure) :
    (checkLicense deviceId).run state = (.error failure, state) := by
  simp only [checkLicense, run_bind, run_license, enabled, if_true, run_now, run_done, fails]

/-- A license without room denies. -/
theorem Service.checkLicense_full (keeps : state.store.Keeps resolution records)
    (enabled : state.license.isEnabled = true) (stands : state.license.check state.now = .ok ())
    (full : ¬ state.HasRoom deviceId) :
    (checkLicense deviceId).run state = (.error (.refused state.license.crowded), state) := by
  simp only [State.HasRoom, not_or, Nat.not_lt] at full
  simp only [checkLicense, run_bind, run_license, enabled, if_true, run_now, run_done, stands]
  rw [checkQuota_run_eq keeps full.1, if_pos full.2]

/-- What the license does not cover is denied. -/
theorem Service.checkLicense_uncovered (keeps : state.store.Keeps resolution records)
    (uncovered : ¬ state.Covers deviceId) :
    ∃ failure, (checkLicense deviceId).run state = (.error failure, state) := by
  simp only [State.Covers, not_or, not_and, Bool.not_eq_false] at uncovered
  obtain ⟨enabled, full⟩ := uncovered
  rcases checked : state.license.check state.now with failure | _
  · exact ⟨failure, checkLicense_denied enabled checked⟩
  · exact ⟨_, checkLicense_full keeps enabled checked (full checked)⟩

/-! ### One condition after the other -/

theorem Service.credentialOf_admitted (admits : state.Admits deviceId) :
    ∃ device, (credentialOf deviceId).run state = (.ok device, state) := by
  obtain ⟨device, known, active⟩ := admits
  rcases credentialOf_run deviceId state with ⟨_, _, never⟩ | ⟨found, _, _, goes⟩
  · exact absurd active (never device known)
  · exact ⟨found, goes⟩

/-- A device that is not admitted is not found, whatever else is the matter. -/
theorem Service.issueChallenge_unadmitted (challengeId : String) (nonce : Word256)
    (answers : ∃ found, RecordStore.device deviceId state.store = .ok found)
    (unadmitted : ¬ state.Admits deviceId) :
    (service.issueChallenge challengeId nonce deviceId).run state =
      (.error (.refused (.deviceNotFound deviceId)), state) := by
  obtain ⟨_ | device, found⟩ := answers
  · simp only [issueChallenge, credentialOf, run_bind, run_device, found, Failure.lift_ok,
      run_refuse]
  · have inactive : ¬ device.isActive = true := fun active => unadmitted ⟨device, found, active⟩
    simp only [issueChallenge, credentialOf, run_bind, run_device, found, Failure.lift_ok,
      if_neg inactive, run_refuse]

/-- A device that is locked out is told so, whatever its license. -/
theorem Service.issueChallenge_locked (challengeId : String) (nonce : Word256)
    (admits : state.Admits deviceId)
    (locked : service.failureLimit ≤ state.counters.count deviceId) :
    (service.issueChallenge challengeId nonce deviceId).run state =
      (.error (.refused (.lockedOut deviceId (state.counters.count deviceId))), state) := by
  obtain ⟨device, goes⟩ := credentialOf_admitted admits
  simp only [issueChallenge, run_bind, goes, run_failures, if_pos locked, run_refuse]

/-- With an admitted device that is not locked out, the license has the word. -/
theorem Service.issueChallenge_license (challengeId : String) (nonce : Word256)
    (admits : state.Admits deviceId)
    (unlocked : state.counters.count deviceId < service.failureLimit) {failure : Failure}
    (denied : (checkLicense deviceId).run state = (.error failure, state)) :
    (service.issueChallenge challengeId nonce deviceId).run state = (.error failure, state) := by
  obtain ⟨device, goes⟩ := credentialOf_admitted admits
  have open_ : ¬ service.failureLimit ≤ state.counters.count deviceId := by
    simpa only [UInt32.not_le] using unlocked
  simp only [issueChallenge, run_bind, goes, run_failures, if_neg open_, denied]

/-- **A device that is entitled gets a challenge** if its expiry can be told and the store takes
it. -/
theorem Service.issueChallenge_entitled (keeps : state.store.Keeps resolution records)
    (entitles : service.Entitles state deviceId) (challengeId : String) (nonce : Word256)
    {expiresAt : Instant} (ends : state.now.add? service.challengeLifetime = some expiresAt)
    {store : Storage} (added : RecordStore.addChallenge
      ⟨challengeId, deviceId, nonce, state.now, expiresAt, false⟩ state.store = .ok store) :
    (service.issueChallenge challengeId nonce deviceId).run state =
      (.ok ⟨challengeId, deviceId, nonce, state.now, expiresAt, false⟩,
        { state with store }) := by
  obtain ⟨device, goes⟩ := credentialOf_admitted entitles.admitted
  have open_ : ¬ service.failureLimit ≤ state.counters.count deviceId := by
    simpa only [UInt32.not_le] using entitles.unlocked
  have covered := checkLicense_covered keeps entitles.covered
  simp only [issueChallenge, run_bind, goes, run_failures, if_neg open_, covered, run_now,
    run_later, Failure.later, ends, run_addChallenge, added, run_pure]

/-- A challenge that is issued was due to its device. -/
theorem Service.entitles_of_issued (keeps : state.store.Keeps resolution records)
    {challengeId : String} {nonce : Word256} {challenge : Challenge}
    (issued : ((service.issueChallenge challengeId nonce deviceId).run state).1 = .ok challenge) :
    service.Entitles state deviceId := by
  have outcome := service.issueChallenge_run challengeId nonce deviceId state
  generalize run : (service.issueChallenge challengeId nonce deviceId).run state = ran
    at outcome issued
  cases outcome with
  | refused failure => cases issued
  | issued device expiresAt store known active unlocked added =>
    have admits : state.Admits deviceId := ⟨device, known, active⟩
    have below : state.counters.count deviceId < service.failureLimit := UInt32.not_le.mp unlocked
    refine ⟨admits, below, Classical.byContradiction fun uncovered => ?_⟩
    obtain ⟨failure, denied⟩ := checkLicense_uncovered keeps uncovered
    rw [issueChallenge_license challengeId nonce admits below denied] at run
    cases run

end Checks

/-! ### What a challenge changes -/

/-- **One challenge more, and nothing else.** -/
structure State.Gains (before after : State Storage) (challenge : Challenge) : Prop where
  fresh : RecordStore.challenge challenge.challengeId before.store = .ok none
  /-- Counters, license and clock are as they were. -/
  rest : after = { before with store := after.store }
  /-- All records are kept that were, and the challenge. -/
  kept : ∀ resolution records, before.store.Keeps resolution records →
    after.store.Keeps resolution
      { records with challenges := records.challenges.put challenge.challengeId challenge }
  /-- Outside leap seconds it is read back, at the resolution of the storage. -/
  read : before.now.isLeap = false → ∀ resolution records,
    before.store.Keeps resolution records →
      RecordStore.challenge challenge.challengeId after.store =
        .ok (some (challenge.floor resolution))

/-- Where no challenge is found, none is kept. -/
theorem Storage.Keeps.get?_of_challenge {resolution : Resolution} {records : MemoryStore}
    {storage : Storage} {challengeId : String} (keeps : storage.Keeps resolution records)
    (absent : RecordStore.challenge challengeId storage = .ok none) :
    records.challenges.get? challengeId = none := by
  have read := (keeps.challenge challengeId).symm.trans absent
  rcases held : records.challenges.get? challengeId with _ | challenge
  · rfl
  · rcases content : resolution.readChallenge challenge with _ | found <;>
      simp only [held, Option.mapM_some, content] at read <;> cases read

/-- What is kept first under an id is read back under it. -/
theorem Storage.Keeps.challenge_put {resolution : Resolution} {records : MemoryStore}
    {storage : Storage} {challenge : Challenge}
    (keeps : storage.Keeps resolution
      { records with challenges := records.challenges.put challenge.challengeId challenge })
    (plain : challenge.IsPlain) :
    RecordStore.challenge challenge.challengeId storage =
      .ok (some (challenge.floor resolution)) := by
  rw [keeps.challenge, Dictionary.get?_put, if_pos rfl, Option.mapM_some,
    resolution.readChallenge_of_plain plain]
  rfl

/-- **A challenge that is issued is all that is new.** -/
theorem Service.gains_of_issued {service : Service} {state : State Storage}
    {resolution : Resolution} {records : MemoryStore}
    (keeps : state.store.Keeps resolution records) {challengeId deviceId : String}
    {nonce : Word256} (canonical : nonce.IsCanonical) {challenge : Challenge}
    {after : State Storage}
    (issued : (service.issueChallenge challengeId nonce deviceId).run state =
      (.ok challenge, after)) :
    (challenge.challengeId = challengeId ∧ challenge.deviceId = deviceId ∧
        challenge.nonce = nonce ∧ challenge.createdAt = state.now ∧ challenge.used = false) ∧
      state.now.add? service.challengeLifetime = some challenge.expiresAt ∧
      state.Gains after challenge := by
  have ends := issueChallenge_expiry issued
  have outcome := service.issueChallenge_run challengeId nonce deviceId state
  rw [issued] at outcome
  cases outcome with
  | issued device expiresAt store known active unlocked added =>
    refine ⟨⟨rfl, rfl, rfl, rfl, rfl⟩, ends, ?_⟩
    constructor
    case fresh =>
      rw [keeps.challenge, (keeps.of_addChallenge added).1]
      rfl
    case rest => rfl
    case kept => exact fun resolution records keeps => (keeps.of_addChallenge added).2
    case read =>
      intro plain resolution records keeps
      exact (keeps.of_addChallenge added).2.challenge_put
        ⟨canonical, plain, Instant.plain_add? plain ends⟩

/-! ### The gate -/

/-- **What a request for a challenge comes to.** -/
structure Service.Gated (service : Service) (state : State Storage) (challengeId deviceId : String)
    (nonce : Word256) (outcome : Except Failure Challenge × State Storage) : Prop where
  /-- A store that answers, a new id and an expiry that can be told leave the decision to the
  conditions. -/
  issues_iff : (∃ found, RecordStore.device deviceId state.store = .ok found) →
    RecordStore.challenge challengeId state.store = .ok none →
    (state.now.add? service.challengeLifetime).isSome →
      ((∃ challenge, outcome.1 = .ok challenge) ↔ service.Entitles state deviceId)
  /-- A device that is not admitted is named first. -/
  unadmitted : (∃ found, RecordStore.device deviceId state.store = .ok found) →
    ¬ state.Admits deviceId → outcome.1 = .error (.refused (.deviceNotFound deviceId))
  /-- A lockout is named second. -/
  locked : state.Admits deviceId → service.failureLimit ≤ state.counters.count deviceId →
    outcome.1 = .error (.refused (.lockedOut deviceId (state.counters.count deviceId)))
  /-- A license that does not stand is named third. -/
  denied : state.Admits deviceId → state.counters.count deviceId < service.failureLimit →
    state.license.isEnabled = true → ∀ failure, state.license.check state.now = .error failure →
      outcome.1 = .error failure
  /-- A license without room is named last. -/
  full : state.Admits deviceId → state.counters.count deviceId < service.failureLimit →
    state.license.isEnabled = true → state.license.check state.now = .ok () →
      ¬ state.HasRoom deviceId → outcome.1 = .error (.refused state.license.crowded)
  /-- The challenge that is issued is all that changes. -/
  gains : ∀ challenge, outcome.1 = .ok challenge →
    (challenge.challengeId = challengeId ∧ challenge.deviceId = deviceId ∧
        challenge.nonce = nonce ∧ challenge.createdAt = state.now ∧ challenge.used = false) ∧
      state.now.add? service.challengeLifetime = some challenge.expiresAt ∧
      challenge.nonce.IsCanonical ∧ state.Gains outcome.2 challenge
  /-- Without a challenge nothing changes. -/
  unchanged : ∀ failure, outcome.1 = .error failure → outcome.2 = state

/-- What every request keeps of a storage, a run keeps. -/
theorem Storage.Written.after {start : State Storage} (written : start.store.Written)
    (service : Service) (calls : List Call) : (service.after calls start).store.Written := by
  induction calls generalizing start with
  | nil => exact written
  | cons call rest ih =>
    exact ih (service.perform_written call written)

/-- **The gate of challenge issuance,** in every state that calls lead to. The nonce is the word of
a field element. -/
theorem issuance_gate (service : Service) {start : State Storage} (written : start.store.Written)
    (calls : List Call) (challengeId deviceId : String) (element : Scalar) :
    service.Gated (service.after calls start) challengeId deviceId (.ofScalar element)
      ((service.issueChallenge challengeId (.ofScalar element) deviceId).run
        (service.after calls start)) := by
  obtain ⟨resolution, records, keeps⟩ := (written.after service calls).keeps
  generalize service.after calls start = state at keeps ⊢
  have license : state.Admits deviceId → state.counters.count deviceId < service.failureLimit →
      ∀ {failure}, (checkLicense deviceId).run state = (.error failure, state) →
        (service.issueChallenge challengeId (.ofScalar element) deviceId).run state =
          (.error failure, state) :=
    fun admits unlocked => issueChallenge_license challengeId _ admits unlocked
  constructor
  case issues_iff =>
    intro _ fresh ends
    refine ⟨fun ⟨challenge, issued⟩ => entitles_of_issued keeps issued, fun entitles => ?_⟩
    obtain ⟨expiresAt, ends⟩ := Option.isSome_iff_exists.mp ends
    let challenge : Challenge :=
      ⟨challengeId, deviceId, .ofScalar element, state.now, expiresAt, false⟩
    have absent : records.challenges.get? challenge.challengeId = none :=
      keeps.get?_of_challenge fresh
    obtain ⟨store, added, _⟩ := keeps.addChallenge absent
    exact ⟨_, congrArg Prod.fst (issueChallenge_entitled keeps entitles _ _ ends added)⟩
  case unadmitted =>
    intro answers unadmitted
    rw [issueChallenge_unadmitted challengeId _ answers unadmitted]
  case locked =>
    intro admits locked
    rw [issueChallenge_locked challengeId _ admits locked]
  case denied =>
    intro admits unlocked enabled failure fails
    rw [license admits unlocked (checkLicense_denied enabled fails)]
  case full =>
    intro admits unlocked enabled stands full
    rw [license admits unlocked (checkLicense_full keeps enabled stands full)]
  case gains =>
    intro challenge issued
    obtain ⟨fields, ends, gains⟩ := gains_of_issued keeps (Word256.isCanonical_ofScalar element)
      (Prod.ext issued rfl)
    exact ⟨fields, ends, fields.2.2.1 ▸ Word256.isCanonical_ofScalar element, gains⟩
  case unchanged =>
    intro failure refused
    have outcome := service.issueChallenge_run challengeId (.ofScalar element) deviceId state
    generalize (service.issueChallenge challengeId (.ofScalar element) deviceId).run state = ran
      at outcome refused
    cases outcome with
    | refused _ => rfl
    | issued _ _ _ _ _ _ _ => cases refused

/-! One device holds the only session that the license allows, and another asks for a challenge. -/

namespace Sample

/-- Two devices are enrolled, and one of them opens a session. -/
def occupying : List Call := [
  .enroll device,
  .enroll otherDevice,
  .issueChallenge "first" (.ofNat 2) "device",
  .submitProof "a" "device" "first" [1] (values 2)]

/-- No records are in a database yet, a nanosecond after the beginning of 1970. -/
def early : State Storage :=
  { vacant with
    store := database
    now := { epoch with nanos := 1, nanos_lt := by decide, leap_aligned := by decide } }

end Sample

open Sample in
theorem issuance_gate_occupied :
    licensed.store.Written ∧ (Sample.service.after occupying licensed).live = {"device"} ∧
      Sample.service.Gated (Sample.service.after occupying licensed) "second" "other"
        (.ofScalar (Scalar.ofNat 3))
        ((Sample.service.issueChallenge "second" (.ofScalar (Scalar.ofNat 3)) "other").run
          (Sample.service.after occupying licensed)) ∧
      ((Sample.service.issueChallenge "second" (.ofScalar (Scalar.ofNat 3)) "other").run
          (Sample.service.after occupying licensed)).1 =
        .error (.refused (.licenseDenied "license allows 1 concurrently authenticated devices")) := by
  have written : licensed.store.Written := .vacant trivial (.inl rfl)
  have live : (Sample.service.after occupying licensed).live = {"device"} := by decide +kernel
  have gated := issuance_gate Sample.service written occupying "second" "other" (Scalar.ofNat 3)
  have admits : (Sample.service.after occupying licensed).Admits "other" := ⟨otherDevice, rfl, rfl⟩
  have full : ¬ (Sample.service.after occupying licensed).HasRoom "other" := by
    rw [State.HasRoom, live]
    decide +kernel
  have refused := gated.full admits (by decide +kernel) rfl rfl full
  have wording : (Sample.service.after occupying licensed).license.crowded =
      .licenseDenied "license allows 1 concurrently authenticated devices" := by decide +kernel
  rw [wording] at refused
  exact ⟨written, live, gated, refused⟩

open Sample in
/-- **A database keeps no nanoseconds:** the challenge that is found in it was created before it was
issued, and expires before its lifetime is over. -/
theorem issuance_rounded_in_database :
    ∃ issued found,
      ((Sample.service.issueChallenge "challenge" (.ofNat 2) "device").run
        (Sample.service.after [.enroll device] early)).1 = .ok issued ∧
      RecordStore.challenge "challenge"
        ((Sample.service.issueChallenge "challenge" (.ofNat 2) "device").run
          (Sample.service.after [.enroll device] early)).2.store = .ok (some found) ∧
      found.createdAt < (Sample.service.after [.enroll device] early).now ∧
      found.expiresAt < issued.expiresAt := by
  exact ⟨_, _, rfl, rfl, by decide +kernel, by decide +kernel⟩

end DeviceAuth
