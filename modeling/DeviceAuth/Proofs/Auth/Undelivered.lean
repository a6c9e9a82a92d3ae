import DeviceAuth.Proofs.Auth.Outcome

/-!
**A session that is not delivered.** A verification uses its challenge up and forgets the failures
of its device before it opens the session, and takes neither back. If all checks pass and no session
comes of it, the challenge is lost wherever records can be changed at all.

* `Storage.Holds`: a storage keeps some records, in a place that may be open for reading only.
* `Storage.Holds.spendChallenge_readOnly`: there no challenge can be used up.
* `undelivered_verification`: what is left of a verification that passes without a session, over
  storages of either kind.
-/

namespace DeviceAuth

open Operation LedgerStore

namespace Storage

/-- **A storage holds exactly these records,** whether or not they can be changed. -/
structure Holds (resolution : Resolution) (records : MemoryStore) (storage : Storage) : Prop where
  tidy : records.Tidy
  contents : ∃ logged, storage.contents = some (resolution.write logged records)

namespace Holds

variable {resolution : Resolution} {records : MemoryStore} {storage : Storage}

/-- Records that can be changed are kept. -/
theorem keeps (holds : storage.Holds resolution records) (writable : storage.Writable) :
    storage.Keeps resolution records :=
  ⟨holds.tidy, writable, holds.contents⟩

/-- No challenge is used up in a place that is open for reading only. -/
theorem spendChallenge_readOnly (holds : storage.Holds resolution records)
    (unwritable : ¬ storage.Writable) (challengeId : String) :
    RecordStore.spendChallenge challengeId storage = .error readOnly := by
  obtain ⟨logged, inside⟩ := holds.contents
  obtain ⟨place, disk⟩ := storage
  cases place with
  | memory _ | unnamed _ | named _ => exact absurd trivial unwritable
  | file location may =>
    obtain rfl : may = false := Bool.eq_false_iff.mpr unwritable
    simp only [Storage.contents] at inside
    split at inside
    · next entry =>
      simp only [RecordStore.spendChallenge, change, entry]
      rfl
    · cases inside

end Holds

theorem Keeps.holds {resolution : Resolution} {records : MemoryStore} {storage : Storage}
    (keeps : storage.Keeps resolution records) : storage.Holds resolution records :=
  ⟨keeps.tidy, keeps.contents⟩

end Storage

namespace Service

variable {service : Service} {sessionId deviceId challengeId : String} {proof : Bytes}
  {values : PublicValues} {state after : State Storage} {resolution : Resolution}
  {records : MemoryStore} {challenge : Challenge} {device : Credential} {failure : Failure}

/-- Where records can be changed, the challenge is used up and the failures are forgotten. -/
theorem submitProof_loses (keeps : state.store.Keeps resolution records)
    (passes : Passes service deviceId challengeId proof values state challenge device)
    (fails : (service.submitProof sessionId deviceId challengeId proof values).run state =
      (.error failure, after)) :
    failure.isFault = true ∧ ∃ store : Storage, store.Keeps resolution
        { records with
          challenges := records.challenges.update challengeId fun challenge =>
            { challenge with used := true } } ∧
      after = { state with store, counters := state.counters.forget deviceId } := by
  obtain ⟨spent, keepsThen, spends⟩ := spendChallenge_of_passes keeps passes
  have redeemable : Redeemable service deviceId challengeId proof values state :=
    ⟨challenge, device, spent, passes, spends⟩
  refine ⟨submitProof_fault redeemable (by rw [fails]), spent, keepsThen, ?_⟩
  have submitted := service.submitProof_run sessionId deviceId challengeId proof values state
  rw [fails] at submitted
  cases submitted with
  | refused _ _ _ _ never _ => exact absurd redeemable never
  | lost _ _ _ store _ spendsToo =>
    rw [spends] at spendsToo
    cases spendsToo
    rfl

/-- Where they cannot, nothing is changed. -/
theorem submitProof_readOnly (holds : state.store.Holds resolution records)
    (unwritable : ¬ state.store.Writable)
    (passes : Passes service deviceId challengeId proof values state challenge device) :
    (service.submitProof sessionId deviceId challengeId proof values).run state =
      (.error (.refused Storage.readOnly), state) := by
  unfold submitProof
  rw [run_onRefusal]
  rcases attempt_run service sessionId deviceId challengeId proof values state with
    ⟨_, _, never⟩ | ⟨_, _, _, goes⟩
  · exact absurd passes (never challenge device)
  · have refused := holds.spendChallenge_readOnly unwritable challengeId
    rw [goes]
    simp only [redeem, run_bind, run_spendChallenge, refused, holdAgainst_eq]
    rw [State.counts, show AuthError.countsAgainstDevice Storage.readOnly = false from rfl,
      Bool.and_false]
    rfl

end Service

/-- **What is left of a verification that passes all checks and opens no session.** In a place that
is open for reading only nothing is changed. Everywhere else the challenge stays used and the
failures of the device stay forgotten; all else is as it was. -/
theorem undelivered_verification (service : Service) (sessionId : String)
    {deviceId challengeId : String} {proof : Bytes} {values : PublicValues}
    {state after : State Storage} {resolution : Resolution} {records : MemoryStore}
    {challenge : Challenge} {device : Credential} {failure : Failure}
    (holds : state.store.Holds resolution records)
    (passes : service.Passes deviceId challengeId proof values state challenge device)
    (fails : (service.submitProof sessionId deviceId challengeId proof values).run state =
      (.error failure, after)) :
    (¬ state.store.Writable → failure = .refused Storage.readOnly ∧ after = state) ∧
      (state.store.Writable → failure.isFault = true ∧
        (∀ found, RecordStore.challenge challengeId after.store = .ok (some found) →
          found.used = true) ∧
        after.counters.count deviceId = 0 ∧
        ∃ store : Storage, store.Keeps resolution
            { records with
              challenges := records.challenges.update challengeId fun challenge =>
                { challenge with used := true } } ∧
          after = { state with store, counters := state.counters.forget deviceId }) := by
  constructor
  · intro unwritable
    rw [Service.submitProof_readOnly holds unwritable passes] at fails
    cases fails
    exact ⟨rfl, rfl⟩
  · intro writable
    obtain ⟨fault, store, kept, rfl⟩ :=
      Service.submitProof_loses (holds.keeps writable) passes fails
    refine ⟨fault, fun found held => ?_, ?_, store, kept, rfl⟩
    · obtain ⟨stored, inside, read⟩ :=
        Dictionary.exists_of_read ((kept.challenge challengeId).symm.trans held)
      rw [Resolution.used_of_readChallenge read]
      rw [Dictionary.get?_update, if_pos rfl] at inside
      obtain ⟨_, _, rfl⟩ := Option.map_eq_some_iff.mp inside
      rfl
    · exact (FailureCounters.count_forget ..).trans (if_pos rfl)

/-! A session that would outlast the calendar costs its device the challenge. -/

namespace Sample

/-- Settings that are accepted, with the longest sessions that there can be. -/
def lasting : AuthSettings :=
  { sessionLifetime := 9223372036854775, tokenSecret := some "0123456789abcdef0123456789abcdef" }

/-- The service with these settings. -/
def everlasting : Service :=
  (Service.ofSettings service.checker lasting none []).toOption.getD service

/-- The state in which the device has been offered the challenge, and has failed once. -/
def mistaken : State Storage :=
  ((Request.countFailure "device").perform challenged).2

/-- The state after its verification. -/
def bereft : State Storage :=
  ((everlasting.submitProof "session" "device" "challenge" [1] (values 2)).run mistaken).2

end Sample

open Sample in
theorem undelivered_verification_lasting :
    ∃ resolution records, mistaken.store.Holds resolution records ∧ mistaken.store.Writable ∧
      everlasting.Passes "device" "challenge" [1] (values 2) mistaken pending device ∧
      (everlasting.submitProof "session" "device" "challenge" [1] (values 2)).run mistaken =
        (.error .overflow, bereft) ∧
      (∀ found, RecordStore.challenge "challenge" bereft.store = .ok (some found) →
        found.used = true) ∧
      bereft.counters.count "device" = 0 := by
  have passes : everlasting.Passes "device" "challenge" [1] (values 2) mistaken pending device :=
    ⟨rfl, rfl, rfl, rfl, rfl, rfl, rfl⟩
  have fails : (everlasting.submitProof "session" "device" "challenge" [1] (values 2)).run
      mistaken = (.error .overflow, bereft) := rfl
  obtain ⟨resolution, records, keeps⟩ := written_challenged.keeps
  have holds : mistaken.store.Holds resolution records := keeps.holds
  obtain ⟨_, used, forgotten, _⟩ :=
    (undelivered_verification everlasting "session" holds passes fails).2 keeps.writable
  exact ⟨resolution, records, holds, keeps.writable, passes, fails, used, forgotten⟩

open Sample in
/-- **A verification without a session can cost the challenge and the count of failures**: both are
gone after a call that passes all checks and is abandoned when the end of its session is computed. -/
theorem challenge_lost_without_session :
    Service.ofSettings service.checker lasting none [] = .ok everlasting ∧
      everlasting.Passes "device" "challenge" [1] (values 2) mistaken pending device ∧
      (everlasting.submitProof "session" "device" "challenge" [1] (values 2)).run mistaken =
        (.error .overflow, bereft) ∧
      RecordStore.challenge "challenge" mistaken.store = .ok (some pending) ∧
      RecordStore.challenge "challenge" bereft.store = .ok (some { pending with used := true }) ∧
      mistaken.counters.count "device" = 1 ∧ bereft.counters.count "device" = 0 :=
  ⟨rfl, ⟨rfl, rfl, rfl, rfl, rfl, rfl, rfl⟩, rfl, rfl, rfl, rfl, rfl⟩

end DeviceAuth
