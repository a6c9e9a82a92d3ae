import DeviceAuth.Proofs.Auth.FailureHistory
import DeviceAuth.Proofs.Auth.Live
import DeviceAuth.Proofs.Auth.SingleUse
import Mathlib.Data.List.Induction

/-!
**How many devices hold a session at once.** A license limits them where a challenge is issued
(`issueChallenge_quota`). A session is opened later, and opening it asks for no license. So the
limit holds as long as no challenge is redeemed that has been overtaken: while it was outstanding, a
session was opened for another device.

* `Moment.Overtakes`, `Overdraws`: how the limit comes to be passed.
* `Within.pending`: a challenge that is outstanding leaves room for its device, or was overtaken.
* `within_quota_iff`: the limit holds in every state of a run exactly if no call overdraws.
-/

namespace DeviceAuth

open Operation Service LedgerStore

/-! ### Issuing -/

section Issuing

variable {service : Service} {resolution : Resolution} {records : MemoryStore}
  {state : State Storage} {deviceId : String}

/-- A device passes that holds a session, or for which there is room. -/
theorem Service.checkQuota_run (keeps : state.store.Keeps resolution records) {maxDevices : UInt32}
    (limited : 0 < maxDevices)
    (passed : ((checkQuota deviceId maxDevices).run state).1 = .ok ()) :
    deviceId ∈ state.live ∨ state.live.card < maxDevices.toNat := by
  obtain ⟨live, listed, nodup, _⟩ := keeps.liveDevices state.now
  have limit : maxDevices ≠ 0 := UInt32.pos_iff_ne_zero.mp limited
  have counted : state.live = live.toFinset := by simp only [State.live, listed]
  rw [counted, List.mem_toFinset, List.toFinset_card_of_nodup nodup]
  unfold checkQuota SessionPolicy.liveNow at passed
  simp only [if_neg limit, run_bind, run_now, run_liveDevices, listed, Failure.lift_ok] at passed
  rcases Decidable.em (deviceId ∈ live) with member | absent
  · exact .inl member
  refine .inr (Nat.lt_of_not_le fun full => ?_)
  have refuses : ¬ live.contains deviceId ∧ maxDevices.toNat ≤ live.length :=
    ⟨by simpa using absent, full⟩
  simp only [if_pos refuses, run_refuse] at passed
  cases passed

/-- A license with a limit is asked for. -/
theorem Service.checkLicense_run (keeps : state.store.Keeps resolution records)
    (limited : 0 < state.license.maxDevices)
    (passed : ((checkLicense deviceId).run state).1 = .ok ()) :
    deviceId ∈ state.live ∨ state.live.card < state.license.maxDevices.toNat := by
  have enabled : state.license.isEnabled = true := by
    rcases gate : state.license with _ | keeper <;> rw [gate] at limited
    · cases limited
    · rfl
  unfold checkLicense at passed
  simp only [run_bind, run_license, enabled, if_true, run_now, run_done] at passed
  rcases valid : state.license.check state.now with failure | _ <;> simp only [valid] at passed
  · cases passed
  · exact checkQuota_run keeps limited passed

/-- **A challenge is issued** only to a device that holds a session, or for which there is room. -/
theorem Service.issueChallenge_quota {challengeId : String} {nonce : Word256}
    {challenge : Challenge} (keeps : state.store.Keeps resolution records)
    (limited : 0 < state.license.maxDevices)
    (issued : ((service.issueChallenge challengeId nonce deviceId).run state).1 = .ok challenge) :
    deviceId ∈ state.live ∨ state.live.card < state.license.maxDevices.toNat := by
  unfold issueChallenge at issued
  simp only [run_bind] at issued
  rcases credentialOf_run deviceId state with ⟨failure, stops, _⟩ | ⟨device, _, _, goes⟩
  · simp only [stops] at issued
    cases issued
  simp only [goes, run_failures] at issued
  split at issued
  · cases issued
  obtain ⟨result, checked⟩ := (reads_checkLicense deviceId).run_of_reads state
  simp only [run_bind, checked] at issued
  rcases result with failure | _
  · cases issued
  · exact checkLicense_run keeps limited (congrArg Prod.fst checked)

/-- A call offers a challenge only so. -/
theorem Service.offer_quota {call : Call} {offer : Offer}
    (keeps : state.store.Keeps resolution records) (limited : 0 < state.license.maxDevices)
    (offered : Event.offer? ⟨call, (service.perform call state).1⟩ = some offer) :
    offer.deviceId ∈ state.live ∨ state.live.card < state.license.maxDevices.toNat := by
  cases call with
  | issueChallenge challengeId nonce deviceId =>
    rcases issued : (service.perform (.issueChallenge challengeId nonce deviceId) state).1 with
      failure | challenge <;> rw [issued] at offered <;> cases offered
    exact issueChallenge_quota keeps limited issued
  | submitProof _ _ _ _ _ | submit _ _ | acceptToken _ | extendSession _ | endSession _
  | endByToken _ | removeExpired | forgetFailures _ | enroll _ | replaceLicense _ | setClock _ =>
    cases offered

end Issuing

/-! ### Runs that keep to their license -/

section Runs

variable {service : Service} {start : State Storage} {earlier calls : List Call} {call : Call}

/-- The license stays, and time does not go back and is in no leap second. -/
def Steady (service : Service) (start : State Storage) (calls : List Call) : Prop :=
  ∀ earlier call later, calls = earlier ++ call :: later →
    call.IsSteady (service.after earlier start).now

/-- No two sessions are opened with one id. -/
def DistinctSessions (service : Service) (start : State Storage) (calls : List Call) : Prop :=
  ((Event.openings (service.events calls start)).map (·.session.sessionId)).Nodup

theorem after_append_singleton : service.after (earlier ++ [call]) start =
    (service.perform call (service.after earlier start)).2 :=
  after_append earlier [call] start

theorem openings_events_append_singleton :
    Event.openings (service.events (earlier ++ [call]) start) =
      Event.openings (service.events earlier start) ++
        (Event.opening? ⟨call, (service.perform call (service.after earlier start)).1⟩).toList := by
  rw [events_append]
  exact Tracked.openings_append_singleton

theorem moments_append_singleton : service.moments (earlier ++ [call]) start =
    service.moments earlier start ++ [⟨service.after earlier start,
      ⟨call, (service.perform call (service.after earlier start)).1⟩⟩] := by
  induction earlier generalizing start with
  | nil => rfl
  | cons first rest ih => exact congrArg (_ :: ·) ih

theorem Steady.of_prefix (steady : Steady service start calls) (begins : earlier <+: calls) :
    Steady service start earlier := by
  obtain ⟨later, rfl⟩ := begins
  rintro first call rest rfl
  exact steady first call (rest ++ later) (by simp)

theorem DistinctSessions.of_prefix (distinct : DistinctSessions service start calls)
    (begins : earlier <+: calls) : DistinctSessions service start earlier := by
  obtain ⟨later, rfl⟩ := begins
  rw [DistinctSessions, Event.openings, events_append, List.filterMap_append, List.map_append]
    at distinct
  exact (List.nodup_append.mp distinct).1

/-- **What holds along a steady run,** whoever holds a session. -/
structure Running (service : Service) (start : State Storage) (calls : List Call) : Prop where
  written : (service.after calls start).store.Written
  plain : (service.after calls start).now.isLeap = false
  license : (service.after calls start).license = start.license
  recorded : ∀ sessionId deviceId,
    (ledger (service.after calls start).store).sessions sessionId deviceId →
      ∃ opening ∈ Event.openings (service.events calls start),
        opening.session.sessionId = sessionId

/-- The license and the clock after a call. -/
theorem Service.perform_terms (service : Service) {state : State Storage}
    (steady : call.IsSteady state.now) (plain : state.now.isLeap = false) :
    (service.perform call state).2.license = state.license ∧
      (service.perform call state).2.now.isLeap = false := by
  have kept : ∀ {after : State Storage}, state.SameTerms after →
      after.license = state.license ∧ after.now.isLeap = false :=
    fun terms => ⟨terms.license, terms.now ▸ plain⟩
  cases call with
  | setClock now => exact ⟨rfl, steady.2⟩
  | replaceLicense gate => cases steady
  | _ => exact kept (run_sameTerms _ state)

/-- What a call writes to a storage is written. -/
theorem Service.perform_written (service : Service) (call : Call) {state : State Storage}
    (written : state.store.Written) : (service.perform call state).2.store.Written :=
  service.perform_store Storage.Written (fun request state => .perform request state) call state
    written

theorem Running.of_steady (written : start.store.Written)
    (vacant : ∀ sessionId deviceId, ¬ (ledger start.store).sessions sessionId deviceId)
    (plain : start.now.isLeap = false) (steady : Steady service start calls) :
    Running service start calls := by
  induction calls using List.reverseRecOn with
  | nil => exact ⟨written, plain, rfl, fun _ _ held => absurd held (vacant _ _)⟩
  | append_singleton earlier call ih =>
    have before := ih (steady.of_prefix (List.prefix_append _ _))
    obtain ⟨license, plainAfter⟩ :=
      service.perform_terms (steady earlier call [] rfl) before.plain
    obtain ⟨resolution, records, keeps⟩ := before.written.keeps
    refine ⟨?_, ?_, ?_, ?_⟩ <;> rw [after_append_singleton]
    · exact service.perform_written call before.written
    · exact plainAfter
    · exact license.trans before.license
    · rw [openings_events_append_singleton]
      intro sessionId deviceId held
      have old : (ledger (service.after earlier start).store).sessions sessionId deviceId →
          ∃ opening ∈ Event.openings (service.events earlier start) ++ (Event.opening?
            ⟨call, (service.perform call (service.after earlier start)).1⟩).toList,
              opening.session.sessionId = sessionId := fun held => by
        obtain ⟨opening, member, named⟩ := before.recorded sessionId deviceId held
        exact ⟨opening, List.mem_append_left _ member, named⟩
      cases service.perform_effect call keeps.filed with
      | upkeep _ _ shrinks => exact old (shrinks.sessions _ _ held)
      | offers _ _ _ offers => exact old (offers.sessions _ _ held)
      | opens opening spent _ opens _ shrinks _ _ added =>
        rcases added.sessions _ _ held with before | ⟨rfl, _⟩
        · exact old (shrinks.sessions _ _ before)
        · rw [opens]
          exact ⟨opening, List.mem_append_right _ List.mem_cons_self, rfl⟩

/-- A session that is opened has a new id. -/
theorem Running.fresh {resolution : Resolution} {records : MemoryStore} {opening : Opening}
    (running : Running service start earlier)
    (keeps : (service.after earlier start).store.Keeps resolution records)
    (distinct : DistinctSessions service start (earlier ++ [call]))
    (opens : Event.opening? ⟨call, (service.perform call (service.after earlier start)).1⟩ =
      some opening) : records.sessions.get? opening.session.sessionId = none := by
  rcases held : records.sessions.get? opening.session.sessionId with _ | session
  · rfl
  · obtain ⟨other, member, named⟩ :=
      running.recorded _ _ (keeps.ledger_session (Dictionary.mem_of_get? held))
    rw [DistinctSessions, openings_events_append_singleton, opens, Option.toList_some,
      List.map_append, List.nodup_append] at distinct
    exact absurd named (distinct.2.2 _ (List.mem_map_of_mem member) _ List.mem_cons_self)

end Runs

/-! ### The limit -/

/-- A session is opened for another device while a challenge of a device is outstanding. -/
def Moment.Overtakes (deviceId challengeId : String) (moment : Moment Storage) : Prop :=
  (ledger moment.state.store).challenges challengeId deviceId false ∧
    ∃ opening, moment.event.opening? = some opening ∧ opening.deviceId ≠ deviceId

/-- **A call overdraws a license:** where as many devices hold a session as are allowed, it opens
one for another device, with a challenge that has been overtaken. -/
def Overdraws (service : Service) (start : State Storage) (earlier : List Call) (call : Call) :
    Prop :=
  ∃ opening,
    Event.opening? ⟨call, (service.perform call (service.after earlier start)).1⟩ = some opening ∧
    opening.deviceId ∉ (service.after earlier start).live ∧
    start.license.maxDevices.toNat ≤ (service.after earlier start).live.card ∧
    ∃ moment ∈ service.moments earlier start,
      moment.Overtakes opening.deviceId opening.challengeId

/-- **What holds along a run in which no call overdraws.** -/
structure Within (service : Service) (start : State Storage) (calls : List Call) : Prop where
  limit : (service.after calls start).live.card ≤ start.license.maxDevices.toNat
  /-- An outstanding challenge leaves room for its device, or has been overtaken. -/
  pending : ∀ challengeId deviceId,
    (ledger (service.after calls start).store).challenges challengeId deviceId false →
      (insert deviceId (service.after calls start).live).card ≤ start.license.maxDevices.toNat ∨
        ∃ moment ∈ service.moments calls start, moment.Overtakes deviceId challengeId

namespace Within

variable {service : Service} {start : State Storage} {earlier : List Call} {call : Call}

/-- At first nobody holds a session, and there is room for one device. -/
theorem nil (written : start.store.Written)
    (vacant : ∀ sessionId deviceId, ¬ (ledger start.store).sessions sessionId deviceId)
    (limited : 0 < start.license.maxDevices) : Within service start [] := by
  obtain ⟨resolution, records, keeps⟩ := written.keeps
  have nobody : start.live = ∅ := by
    refine Finset.eq_empty_of_forall_notMem fun deviceId isLive => ?_
    obtain ⟨sessionId, session, member, _⟩ := (mem_live start keeps).mp isLive
    exact vacant _ _ (keeps.ledger_session member)
  refine ⟨?_, fun challengeId deviceId _ => .inl ?_⟩
  · simp only [after, nobody, Finset.card_empty, Nat.zero_le]
  · simp only [after, nobody, insert_empty_eq, Finset.card_singleton]
    exact UInt32.lt_iff_toNat_lt.mp limited

/-- Who is live or for whom there is room can be live. -/
theorem room {live : Finset String} {deviceId : String} {limit : Nat} (within : live.card ≤ limit)
    (may : deviceId ∈ live ∨ live.card < limit) : (insert deviceId live).card ≤ limit := by
  rcases may with member | less
  · rwa [Finset.insert_eq_of_mem member]
  · exact (Finset.card_insert_le _ _).trans less

/-- A call that leaves no more devices live leaves pending what was pending. -/
theorem pending_of_subset (before : Within service start earlier)
    (fewer : (service.after (earlier ++ [call]) start).live ⊆ (service.after earlier start).live)
    {challengeId deviceId : String}
    (unused : (ledger (service.after earlier start).store).challenges challengeId deviceId false) :
    (insert deviceId (service.after (earlier ++ [call]) start).live).card ≤
        start.license.maxDevices.toNat ∨
      ∃ moment ∈ service.moments (earlier ++ [call]) start,
        moment.Overtakes deviceId challengeId := by
  rcases before.pending challengeId deviceId unused with room | ⟨moment, member, overtakes⟩
  · exact .inl ((Finset.card_le_card (Finset.insert_subset_insert _ fewer)).trans room)
  · rw [moments_append_singleton]
    exact .inr ⟨moment, List.mem_append_left _ member, overtakes⟩

/-- Opening a session for a challenge stays within the limit, unless it overdraws. -/
theorem limit_of_opening (before : Within service start earlier) {opening : Opening}
    (opens : Event.opening? ⟨call, (service.perform call (service.after earlier start)).1⟩ =
      some opening)
    (unused : (ledger (service.after earlier start).store).challenges opening.challengeId
      opening.deviceId false) (free : ¬ Overdraws service start earlier call) :
    (insert opening.deviceId (service.after earlier start).live).card ≤
      start.license.maxDevices.toNat := by
  rcases before.pending _ _ unused with fits | overtaken
  · exact fits
  · refine room before.limit ?_
    by_contra full
    rw [not_or, Nat.not_lt] at full
    exact free ⟨opening, opens, full.1, full.2, overtaken⟩

/-- **A call that does not overdraw stays within the limit.** -/
theorem append_singleton (before : Within service start earlier)
    (running : Running service start earlier) (limited : 0 < start.license.maxDevices)
    (lasting : 0 ≤ service.sessions.lifetime.nanos)
    (steady : call.IsSteady (service.after earlier start).now)
    (distinct : DistinctSessions service start (earlier ++ [call]))
    (free : ¬ Overdraws service start earlier call) : Within service start (earlier ++ [call]) := by
  obtain ⟨resolution, records, keeps⟩ := running.written.keeps
  have fewer : Event.opening? ⟨call, (service.perform call (service.after earlier start)).1⟩ =
      none → (service.after (earlier ++ [call]) start).live ⊆
        (service.after earlier start).live := fun unopened => by
    rw [after_append_singleton]
    exact service.perform_live keeps running.plain steady unopened
  have effect := service.perform_effect call keeps.filed
  rw [← after_append_singleton] at effect
  cases effect with
  | upkeep _ unopened shrinks =>
    refine ⟨(Finset.card_le_card (fewer unopened)).trans before.limit, ?_⟩
    exact fun _ _ unused => before.pending_of_subset (fewer unopened) (shrinks.unused unused)
  | offers challenge offered unopened offers =>
    refine ⟨(Finset.card_le_card (fewer unopened)).trans before.limit, fun _ _ unused => ?_⟩
    rcases offers.challenges _ _ _ unused with old | ⟨rfl, rfl, _⟩
    · exact before.pending_of_subset (fewer unopened) old
    -- The license has been asked in this very call.
    · have may := service.offer_quota keeps (running.license ▸ limited) offered
      rw [running.license] at may
      have fits := room before.limit may
      exact .inl ((Finset.card_le_card (Finset.insert_subset_insert _ (fewer unopened))).trans fits)
  | opens opening spent _ opens unused shrinks _ owned added =>
    have opened := service.perform_opening keeps running.plain lasting opens
      (running.fresh keeps distinct opens)
    rw [← after_append_singleton] at opened
    have fits := before.limit_of_opening opens unused free
    refine ⟨opened ▸ fits, fun challengeId deviceId left => ?_⟩
    have outstanding := shrinks.unused (added.challenges _ _ _ left)
    rcases Decidable.em (opening.deviceId = deviceId) with rfl | other
    · rw [opened, Finset.insert_idem]
      exact .inl fits
    -- A challenge of another device, still outstanding, has just been overtaken.
    · rw [moments_append_singleton]
      exact .inr ⟨_, List.mem_append_right _ List.mem_cons_self, outstanding, opening, opens, other⟩

end Within

/-- **When a license limits the devices that hold a session:** in every state of a run that starts
without sessions, no more devices hold one than the license allows, exactly if no call of the run
overdraws it. The license stays for the run, and time does not go back. -/
theorem within_quota_iff (service : Service) (lasting : 0 ≤ service.sessions.lifetime.nanos)
    {start : State Storage} (written : start.store.Written)
    (vacant : ∀ sessionId deviceId, ¬ (ledger start.store).sessions sessionId deviceId)
    (limited : 0 < start.license.maxDevices) (plain : start.now.isLeap = false)
    (calls : List Call) (steady : Steady service start calls)
    (distinct : DistinctSessions service start calls) :
    (∀ earlier, earlier <+: calls →
        (service.after earlier start).live.card ≤ start.license.maxDevices.toNat) ↔
      ∀ earlier call later, calls = earlier ++ call :: later →
        ¬ Overdraws service start earlier call := by
  constructor
  -- A further device at the limit is one too many, overtaken or not.
  · rintro within earlier call later rfl ⟨opening, opens, absent, full, _⟩
    have begins : earlier ++ [call] <+: earlier ++ call :: later := ⟨later, by simp⟩
    have running := Running.of_steady written vacant plain
      (steady.of_prefix (List.prefix_append earlier _))
    obtain ⟨resolution, records, keeps⟩ := running.written.keeps
    have opened := service.perform_opening keeps running.plain lasting opens
      (running.fresh keeps (distinct.of_prefix begins) opens)
    have fits := within _ begins
    rw [after_append_singleton, opened, Finset.card_insert_of_notMem absent] at fits
    omega
  · intro free earlier begins
    have kept : Within service start earlier := by
      induction earlier using List.reverseRecOn with
      | nil => exact .nil written vacant limited
      | append_singleton earlier call ih =>
        obtain ⟨later, rfl⟩ := begins
        have before : earlier <+: earlier ++ [call] ++ later := ⟨call :: later, by simp⟩
        have running := Running.of_steady written vacant plain (steady.of_prefix before)
        exact (ih before).append_singleton running limited lasting
          (steady earlier call later (by simp)) (distinct.of_prefix ⟨later, rfl⟩)
          (free earlier call later (by simp))
    exact kept.limit

/-! A second device redeems a challenge that the first has overtaken. -/

namespace Sample

/-- A state without records and with a license for one device. -/
def licensed : State Storage :=
  { vacant with
    license := .enabled
      ⟨⟨[], Ed25519.Point.base⟩, second, .loaded ⟨"license", 1, epoch⟩⟩ }

/-- The credential of another device. -/
def otherDevice : Credential :=
  { device with deviceId := "other" }

/-- Both devices get a challenge while nobody holds a session, and then both redeem theirs. -/
def crowding : List Call := [
  .enroll device,
  .enroll otherDevice,
  .issueChallenge "first" (.ofNat 2) "device",
  .issueChallenge "second" (.ofNat 3) "other",
  .submitProof "a" "device" "first" [1] (values 2),
  .submitProof "b" "other" "second" [1]
    { values 3 with deviceId := .ofNat (Bytes.toNatBE (Bytes.ofText "other")) }]

end Sample

open Sample in
theorem within_quota_iff_crowding :
    (Sample.service.after crowding licensed).live.card = 2 ∧
      ((∀ earlier, earlier <+: crowding →
          (Sample.service.after earlier licensed).live.card ≤
            licensed.license.maxDevices.toNat) ↔
        ∀ earlier call later, crowding = earlier ++ call :: later →
          ¬ Overdraws Sample.service licensed earlier call) := by
  have written : licensed.store.Written := .vacant trivial (.inl rfl)
  have vacant : ∀ sessionId deviceId, ¬ (ledger licensed.store).sessions sessionId deviceId :=
    blank_vacant.sessions
  refine ⟨by decide +kernel, within_quota_iff Sample.service (by decide) written vacant
    (by decide) (by decide) crowding ?_ ?_⟩
  · intro earlier call later split
    have member : call ∈ crowding := split ▸ List.mem_append_right _ List.mem_cons_self
    simp only [crowding, List.mem_cons, List.not_mem_nil, or_false] at member
    rcases member with rfl | rfl | rfl | rfl | rfl | rfl <;> trivial
  · unfold DistinctSessions
    decide +kernel

end DeviceAuth
