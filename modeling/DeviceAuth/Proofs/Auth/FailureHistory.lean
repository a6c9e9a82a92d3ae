import DeviceAuth.Proofs.Auth.Enrollment
import DeviceAuth.Proofs.Auth.History
import Mathlib.Data.List.Perm.Subperm

/-!
**The failures that are counted are those of the history.** A device's counter stands for the
verifications that named it and failed, for a cause that counts and while it was enrolled, since its
failures were last forgotten: by a verification that succeeded, or by a reset.

* `Moment.failures`: what a history says of a device. `Service.moments`: the history of a run.
* `Service.perform_tally`: a call counts one failure, or forgets those of one device, or leaves the
  counters, as its moment says.
* `failures_counted`: after every run the counters are those of the history, and only devices that
  are enrolled have one.
-/

namespace DeviceAuth

open Operation Service

variable {σ : Type}

/-! ### What a history says -/

/-- The device that a call verifies. -/
def Call.verifies? : Call → Option String
  | .submitProof _ deviceId _ _ _ => some deviceId
  | .submit _ request => some request.deviceId
  | _ => none

/-- The device whose failures a call forgets, whatever comes of it. -/
def Call.forgives? : Call → Option String
  | .forgetFailures deviceId => some deviceId
  | _ => none

/-- The error that a result is refused with. -/
def Failure.refusal? {α : Type} : Except Failure α → Option AuthError
  | .error (.refused error) => some error
  | _ => none

/-- Whether a store fails, or an instant lies beyond the last one. -/
def Failure.isFault : Failure → Bool
  | .overflow | .refused (.storage _) => true
  | _ => false

/-- Whether an event ends in a fault. -/
def Event.isFault (event : Event) : Bool :=
  match event.result with
  | .ok _ => false
  | .error failure => failure.isFault

section Moments

variable [RecordStore σ]

/-- Whether the store knows a device. -/
def State.knows (state : State σ) (deviceId : String) : Bool :=
  match RecordStore.device deviceId state.store with
  | .ok (some _) => true
  | _ => false

/-- A call, the state in which it is made, and what comes of it. -/
structure Moment (σ : Type) where
  state : State σ
  event : Event

namespace Moment

/-- Whether a verification of an enrolled device fails for a cause that counts. -/
def fails (deviceId : String) (moment : Moment σ) : Bool :=
  moment.event.call.verifies? == some deviceId &&
    (Failure.refusal? moment.event.result).any AuthError.countsAgainstDevice &&
    moment.state.knows deviceId

/-- Whether a device is verified or forgiven. -/
def clears (deviceId : String) (moment : Moment σ) : Bool :=
  moment.event.call.forgives? == some deviceId ||
    moment.event.call.verifies? == some deviceId && moment.event.result.isOk

/-- **How often a device has failed** since it was last verified or forgiven. -/
def failures (deviceId : String) (moments : List (Moment σ)) : Nat :=
  (moments.reverse.takeWhile fun moment => !moment.clears deviceId).countP (fails deviceId)

theorem failures_append (deviceId : String) (moments : List (Moment σ)) (moment : Moment σ) :
    failures deviceId (moments ++ [moment]) =
      if moment.clears deviceId then 0
      else if moment.fails deviceId then failures deviceId moments + 1
      else failures deviceId moments := by
  simp only [failures, List.reverse_append, List.reverse_singleton, List.singleton_append,
    List.takeWhile_cons]
  cases moment.clears deviceId
  · simp [List.countP_cons]
    split <;> simp_all
  · simp

end Moment

/-- The moments of a run. -/
def Service.moments (service : Service) : List Call → State σ → List (Moment σ)
  | [], _ => []
  | call :: rest, state =>
    ⟨state, ⟨call, (service.perform call state).1⟩⟩ ::
      service.moments rest (service.perform call state).2

/-- **What every call keeps of the history so far, every run keeps.** -/
theorem Service.moments_induction {service : Service} (keeps : List (Moment σ) → State σ → Prop)
    (step : ∀ moments state call, keeps moments state →
      keeps (moments ++ [⟨state, ⟨call, (service.perform call state).1⟩⟩])
        (service.perform call state).2)
    {start : State σ} (atStart : keeps [] start) (calls : List Call) :
    keeps (service.moments calls start) (service.after calls start) := by
  have goesOn : ∀ seen state, keeps seen state →
      keeps (seen ++ service.moments calls state) (service.after calls state) := by
    induction calls with
    | nil =>
      intro seen state kept
      simpa [moments, after] using kept
    | cons call rest ih =>
      intro seen state kept
      have next := ih _ _ (step seen state call kept)
      rwa [List.append_assoc] at next
  exact goesOn [] start atStart

end Moments

/-! ### What a call does to the counters -/

/-- **What a moment does to the counters:** nothing, or it counts a failure of one device that is
enrolled, or it forgets the failures of one device. -/
inductive Moment.Tally [RecordStore σ] (moment : Moment σ) : FailureCounters → Prop
  | same : (∀ deviceId, moment.fails deviceId = false ∧ moment.clears deviceId = false) →
      Tally moment moment.state.counters
  | counted (holder : String) : DeviceId.encodable holder = true →
      moment.state.knows holder = true →
      (∀ deviceId, moment.fails deviceId = (holder == deviceId)) →
      (∀ deviceId, moment.clears deviceId = false) →
      Tally moment (moment.state.counters.countFailure holder).2
  | cleared (holder : String) :
      (∀ deviceId, moment.fails deviceId = false) →
      (∀ deviceId, moment.clears deviceId = (holder == deviceId)) →
      Tally moment (moment.state.counters.forget holder)

/-- Whether a failure of a device with some cause is counted. -/
def State.counts [RecordStore σ] (state : State σ) (deviceId : String) (error : AuthError) : Bool :=
  DeviceId.encodable deviceId && state.knows deviceId && error.countsAgainstDevice

theorem State.mem_deviceIds_of_knows {state : State Storage} {deviceId : String}
    (known : state.knows deviceId = true) : deviceId ∈ state.store.deviceIds := by
  unfold State.knows at known
  split at known
  · next found => exact Storage.mem_deviceIds found
  · cases known

/-- What a failed verification leaves: one failure more, if it counts. -/
theorem Service.holdAgainst_eq [RecordStore σ] (deviceId : String) (error : AuthError)
    (state : State σ) :
    (holdAgainst deviceId error).run state =
      (.error (.refused error),
        if state.counts deviceId error then
          { state with counters := (state.counters.countFailure deviceId).2 }
        else state) := by
  unfold holdAgainst State.counts State.knows
  cases DeviceId.encodable deviceId
  · rfl
  simp only [if_true, run_bind, run_knows]
  rcases RecordStore.device deviceId state.store with _ | (_ | _)
  · rfl
  · rfl
  · cases error.countsAgainstDevice <;> rfl

/-- A session that cannot be opened is no client's fault. -/
theorem SessionPolicy.create_fault {policy : SessionPolicy} {sessionId holder : String}
    {state after : State Storage} {failure : Failure}
    (failed : (policy.create sessionId holder).run state = (.error failure, after)) :
    failure.isFault = true := by
  unfold create at failed
  simp only [run_bind, run_now, run_later] at failed
  rcases overflows : Failure.later state.now policy.lifetime with cause | expiresAt
  · simp only [overflows] at failed
    unfold Failure.later at overflows
    split at overflows <;> cases overflows
    cases failed
    rfl
  simp only [overflows, run_addSession, run_pure] at failed
  rcases added : RecordStore.addSession
    ⟨sessionId, holder, policy.tokenFor holder sessionId state.now expiresAt, state.now, expiresAt,
      state.now⟩ state.store with error | store <;> rw [added] at failed <;> cases failed
  obtain ⟨detail, rfl⟩ := Storage.addSession_error added
  rfl

/-- **What a verification does to the counters.** -/
inductive Service.Settled (deviceId : String) (state : State Storage) :
    Except Failure Session → FailureCounters → Prop
  | failed (error : AuthError) :
      Settled deviceId state (.error (.refused error))
        (if state.counts deviceId error then (state.counters.countFailure deviceId).2
          else state.counters)
  | opened (session : Session) :
      Settled deviceId state (.ok session) (state.counters.forget deviceId)
  | faulty (failure : Failure) (counters : FailureCounters) : failure.isFault = true →
      Settled deviceId state (.error failure) counters

namespace Service

variable {service : Service}

/-- A refusal is held against a device as it is enrolled now, wherever the attempt stopped. -/
theorem settled_of_refusal {operation : Operation Session} {state after : State Storage}
    {deviceId : String} {error : AuthError}
    (refused : operation.run state = (.error (.refused error), after))
    (devices : after.store.deviceTable = state.store.deviceTable)
    (counters : after.counters = state.counters) :
    Settled deviceId state ((operation.onRefusal (holdAgainst deviceId)).run state).1
      ((operation.onRefusal (holdAgainst deviceId)).run state).2.counters := by
  have counted : after.counts deviceId error = state.counts deviceId error := by
    simp only [State.counts, State.knows, Storage.device_eq, devices]
  have settled : Settled deviceId state _ _ := .failed error
  rw [run_onRefusal, refused]
  simp only [holdAgainst_eq, counted]
  cases counts : state.counts deviceId error <;>
    simpa only [counts, counters, if_true, Bool.false_eq_true, if_false] using settled

variable (service) in
theorem submitProof_settled (sessionId deviceId challengeId : String) (proof : Bytes)
    (values : PublicValues) (state : State Storage) :
    Settled deviceId state
      ((service.submitProof sessionId deviceId challengeId proof values).run state).1
      ((service.submitProof sessionId deviceId challengeId proof values).run state).2.counters := by
  unfold submitProof
  rcases attempt_run service sessionId deviceId challengeId proof values state with
    ⟨error | _, stops, _⟩ | ⟨challenge, device, _, goes⟩
  · exact settled_of_refusal stops rfl rfl
  · rw [run_onRefusal, stops]
    exact .faulty .overflow _ rfl
  -- A challenge may be used up before the refusal. That leaves the devices alone.
  have devices := Storage.perform_deviceTable (.spendChallenge challengeId) state nofun
  unfold redeem at goes
  simp only [run_bind, run_spendChallenge] at goes
  simp only [Request.perform, State.change] at devices
  rcases spent : RecordStore.spendChallenge challengeId state.store with error | ⟨_ | _, store⟩ <;>
    simp only [spent] at goes devices
  · exact settled_of_refusal goes rfl rfl
  · exact settled_of_refusal goes devices rfl
  simp only [if_true, run_bind, run_forgetFailures] at goes
  rw [run_onRefusal, goes]
  have created := create_run service.sessions sessionId device.deviceId
    { state with store, counters := state.counters.forget deviceId }
  rcases created with ⟨session, kept, _, _, _, ran⟩ | ran | ⟨error, _, ran⟩ <;> rw [ran]
  · exact .opened session
  · exact .faulty .overflow _ rfl
  · simp only [holdAgainst_eq]
    exact .faulty _ _ (SessionPolicy.create_fault ran)

variable (service) in
theorem submit_settled (sessionId : String) (request : ProofSubmission) (state : State Storage) :
    Settled request.deviceId state ((service.submit sessionId request).run state).1
      ((service.submit sessionId request).run state).2.counters := by
  unfold submit
  rcases request.proof.decodedProof with error | proof
  · have refused : (refuse (.ofZkp error) : Operation Session).run state =
        (.error (.refused (.ofZkp error)), state) := rfl
    exact settled_of_refusal refused rfl rfl
  · exact service.submitProof_settled sessionId _ _ proof _ state

/-- A verification does to the counters what its moment says. -/
theorem Settled.tally {holder : String} {state : State Storage} {result : Except Failure Session}
    {counters : FailureCounters} (settled : Settled holder state result counters) (event : Event)
    (verifies : event.call.verifies? = some holder) (forgives : event.call.forgives? = none)
    (succeeds : event.result.isOk = result.isOk)
    (refusal : Failure.refusal? event.result = Failure.refusal? result)
    (sound : ∀ failure, result = .error failure → failure.isFault = false)
    (encodable : state.knows holder = true → DeviceId.encodable holder = true) :
    Moment.Tally ⟨state, event⟩ counters := by
  cases settled with
  | failed error =>
    have fails : event.result.isOk = false := succeeds
    have refused : Failure.refusal? event.result = some error := refusal
    have unclear : ∀ deviceId, Moment.clears deviceId ⟨state, event⟩ = false := by
      intro deviceId
      simp only [Moment.clears, forgives, fails, Bool.and_false, Bool.or_false]
      rfl
    cases counts : state.counts holder error
    · refine .same fun deviceId => ⟨?_, unclear deviceId⟩
      by_cases own : holder = deviceId
      · subst own
        simp only [State.counts] at counts
        cases known : state.knows holder
        · simp [Moment.fails, known]
        -- The id of a known device can be encoded, so only the cause can be the reason.
        · simp only [known, encodable known, Bool.and_true, Bool.true_and] at counts
          simp [Moment.fails, refused, counts]
      · simp [Moment.fails, verifies, own]
    · simp only [State.counts, Bool.and_eq_true] at counts
      obtain ⟨⟨encodes, known⟩, guilty⟩ := counts
      refine .counted holder encodes known (fun deviceId => ?_) unclear
      by_cases own : holder = deviceId
      · subst own
        simp [Moment.fails, verifies, refused, known, guilty]
      · have other : (holder == deviceId) = false := by simpa using own
        simp [Moment.fails, verifies, other]
  | opened session =>
    have succeeds : event.result.isOk = true := succeeds
    have unrefused : Failure.refusal? event.result = none := refusal
    refine .cleared holder (fun deviceId => ?_) fun deviceId => ?_
    · simp [Moment.fails, unrefused]
    · simp [Moment.clears, verifies, forgives, succeeds]
  | faulty failure counters fault =>
    rw [sound failure rfl] at fault
    cases fault

/-- **A call does to the counters what its moment says.** -/
theorem perform_tally (service : Service) (call : Call) (state : State Storage)
    (encodable : ∀ id ∈ state.store.deviceIds, DeviceId.encodable id = true)
    (sound : Event.isFault ⟨call, (service.perform call state).1⟩ = false) :
    Moment.Tally ⟨state, ⟨call, (service.perform call state).1⟩⟩
      (service.perform call state).2.counters := by
  have encodes : ∀ holder, state.knows holder = true → DeviceId.encodable holder = true :=
    fun holder known => encodable holder (State.mem_deviceIds_of_knows known)
  cases call with
  | submitProof sessionId holder challengeId proof values =>
    have settled := service.submitProof_settled sessionId holder challengeId proof values
      state
    simp only [perform] at sound ⊢
    generalize (service.submitProof sessionId holder challengeId proof values).run state = outcome
      at settled sound ⊢
    exact settled.tally _ rfl rfl rfl rfl (fun failure failed => by rwa [failed] at sound)
      (encodes holder)
  | submit sessionId request =>
    have settled := service.submit_settled sessionId request state
    simp only [perform] at sound ⊢
    generalize (service.submit sessionId request).run state = outcome at settled sound ⊢
    exact settled.tally _ rfl rfl rfl rfl (fun failure failed => by rwa [failed] at sound)
      (encodes request.deviceId)
  | forgetFailures holder =>
    refine .cleared holder (fun _ => rfl) fun deviceId => ?_
    simp [Moment.clears, Call.forgives?, Call.verifies?]
  | issueChallenge challengeId nonce holder =>
    have unchanged : (service.perform (.issueChallenge challengeId nonce holder) state).2.counters =
        state.counters := by
      have issued := service.issueChallenge_run challengeId nonce holder state
      simp only [perform]
      generalize (service.issueChallenge challengeId nonce holder).run state = outcome at issued ⊢
      cases issued <;> rfl
    rw [unchanged]
    exact .same fun _ => ⟨rfl, rfl⟩
  | acceptToken _ | extendSession _ | endSession _ | endByToken _ | removeExpired | enroll _
  | replaceLicense _ | setClock _ =>
    rw [State.Upkeep.counters (service.perform_upkeep _ state ?_)]
    · exact .same fun _ => ⟨rfl, rfl⟩
    · trivial

end Service

/-! ### All calls -/

/-- A call keeps all devices, and ids that can be encoded. -/
theorem Service.perform_deviceIds (service : Service) (call : Call) (state : State Storage)
    (encodable : ∀ id ∈ state.store.deviceIds, DeviceId.encodable id = true) :
    (∀ id ∈ state.store.deviceIds, id ∈ (service.perform call state).2.store.deviceIds) ∧
      ∀ id ∈ (service.perform call state).2.store.deviceIds, DeviceId.encodable id = true := by
  refine service.perform_store (fun store => (∀ id ∈ state.store.deviceIds, id ∈ store.deviceIds) ∧
    ∀ id ∈ store.deviceIds, DeviceId.encodable id = true) ?_ call state ⟨fun _ => id, encodable⟩
  rintro request now ⟨stays, encodes⟩
  obtain ⟨more, kept⟩ := Storage.perform_deviceIds request now
  exact ⟨fun id member => more id (stays id member), kept encodes⟩

/-- The counters stand for a history: what every call keeps. -/
structure Counted (moments : List (Moment Storage)) (state : State Storage) : Prop where
  counts : ∀ deviceId, (state.counters.count deviceId).toNat =
    min 4294967295 (Moment.failures deviceId moments)
  /-- No counter stands at zero. -/
  positive : ∀ deviceId count, state.counters.counts.get? deviceId = some count → 0 < count.toNat
  distinct : state.counters.counts.Distinct
  enrolled : ∀ deviceId ∈ state.counters.counts.keys, deviceId ∈ state.store.deviceIds
  encodable : ∀ deviceId ∈ state.store.deviceIds, DeviceId.encodable deviceId = true

theorem FailureCounters.toNat_successor (count : UInt32) :
    (successor count).toNat = min 4294967295 (count.toNat + 1) := by
  have bound := count.toNat_lt
  unfold successor
  split
  · next largest =>
    rw [largest]
    rfl
  · next small =>
    have below : count.toNat ≠ 4294967295 := fun same => small (UInt32.toNat_inj.mp same)
    have one : (1 : UInt32).toNat = 1 := rfl
    rw [UInt32.toNat_add, one]
    omega

namespace Counted

variable {moments : List (Moment Storage)} {state : State Storage} {counters : FailureCounters}
  {event : Event}

/-- The counters after a moment stand for the history with it. -/
theorem counts_step (counted : Counted moments state)
    (tally : Moment.Tally ⟨state, event⟩ counters) (deviceId : String) :
    (counters.count deviceId).toNat =
      min 4294967295 (Moment.failures deviceId (moments ++ [⟨state, event⟩])) := by
  have before := counted.counts deviceId
  rw [Moment.failures_append]
  cases tally with
  | same silent =>
    obtain ⟨innocent, unclear⟩ := silent deviceId
    simpa only [innocent, unclear, Bool.false_eq_true, if_false] using before
  | counted holder _ _ fails unclear =>
    rw [FailureCounters.count_countFailure]
    simp only [fails, unclear, Bool.false_eq_true, if_false, beq_iff_eq]
    by_cases own : holder = deviceId
    · subst own
      simp only [if_true, FailureCounters.toNat_successor, before]
      omega
    · simp only [own, Ne.symm own, if_false, before]
  | cleared holder innocent clears =>
    rw [FailureCounters.count_forget]
    simp only [innocent, clears, Bool.false_eq_true, if_false, beq_iff_eq]
    by_cases own : holder = deviceId
    · subst own
      simp
    · simp only [own, Ne.symm own, if_false, before]

/-- A counter after a moment stood before it, or is one of an enrolled device. -/
theorem entry_step {deviceId : String} {count : UInt32}
    (tally : Moment.Tally ⟨state, event⟩ counters)
    (found : counters.counts.get? deviceId = some count) :
    state.counters.counts.get? deviceId = some count ∨
      0 < count.toNat ∧ state.knows deviceId = true := by
  cases tally with
  | same _ => exact .inl found
  | counted holder _ known _ _ =>
    simp only [FailureCounters.countFailure, Dictionary.get?_put] at found
    split at found
    · next own =>
      cases found
      refine .inr ⟨?_, own ▸ known⟩
      rw [FailureCounters.toNat_successor]
      omega
    · exact .inl found
  | cleared holder _ _ =>
    simp only [FailureCounters.forget, Dictionary.get?_erase] at found
    split at found
    · cases found
    · exact .inl found

theorem distinct_step (distinct : state.counters.counts.Distinct)
    (tally : Moment.Tally ⟨state, event⟩ counters) : counters.counts.Distinct := by
  cases tally with
  | same _ => exact distinct
  | counted holder _ _ _ _ => exact distinct.put holder _
  | cleared holder _ _ => exact distinct.erase holder

theorem step {call : Call} {service : Service} (counted : Counted moments state)
    (sound : Event.isFault ⟨call, (service.perform call state).1⟩ = false) :
    Counted (moments ++ [⟨state, ⟨call, (service.perform call state).1⟩⟩])
      (service.perform call state).2 := by
  have tally := service.perform_tally call state counted.encodable sound
  obtain ⟨stays, encodable⟩ := service.perform_deviceIds call state counted.encodable
  refine ⟨counted.counts_step tally, fun deviceId count found => ?_,
    distinct_step counted.distinct tally, fun deviceId member => ?_, encodable⟩
  · rcases entry_step tally found with before | ⟨positive, _⟩
    · exact counted.positive deviceId count before
    · exact positive
  · obtain ⟨count, entry⟩ := Dictionary.mem_keys_iff.mp member
    have found := (distinct_step counted.distinct tally).get?_eq_some_iff.mpr entry
    rcases entry_step tally found with before | ⟨_, known⟩
    · exact stays deviceId (counted.enrolled deviceId (Dictionary.mem_keys_of_get? before))
    · exact stays deviceId (State.mem_deviceIds_of_knows known)

end Counted

/-- **The counters of a state are those of a history.** -/
structure CountersMatch (moments : List (Moment Storage)) (state : State Storage) : Prop where
  /-- A counter is the number of failures, and stops at the largest word of 32 bits. -/
  counts : ∀ deviceId, (state.counters.count deviceId).toNat =
    min 4294967295 (Moment.failures deviceId moments)
  /-- Who has not failed has no counter. -/
  entries : ∀ deviceId, (state.counters.counts.get? deviceId).isSome ↔
    0 < Moment.failures deviceId moments
  /-- Who has a counter is enrolled, under an id that can be encoded. -/
  enrolled : ∀ deviceId, (state.counters.counts.get? deviceId).isSome →
    DeviceId.encodable deviceId = true ∧ deviceId ∈ state.store.deviceIds
  /-- There are no more counters than devices. -/
  size : state.counters.size ≤ state.store.deviceIds.length

/-- **Failures are counted exactly,** over every run of every service that starts without failures
and in which no storage fails and no instant overflows. The storage may hold devices at first, under
ids that can be encoded, as enrolling sees to. -/
theorem failures_counted (service : Service) {start : State Storage}
    (unfailed : start.counters = .empty)
    (encodable : ∀ id ∈ start.store.deviceIds, DeviceId.encodable id = true) (calls : List Call)
    (sound : ∀ moment ∈ service.moments calls start, moment.event.isFault = false) :
    CountersMatch (service.moments calls start) (service.after calls start) := by
  have atStart : Counted [] start :=
    { counts := fun deviceId => by rw [unfailed]; rfl
      positive := fun deviceId count found => by rw [unfailed] at found; cases found
      distinct := by rw [unfailed]; exact Dictionary.distinct_nil
      enrolled := fun deviceId member => by rw [unfailed] at member; cases member
      encodable }
  have counted : Counted (service.moments calls start) (service.after calls start) := by
    -- A beginning of a run without faults has none, so their absence is part of what is kept.
    refine moments_induction (fun moments state =>
      (∀ moment ∈ moments, moment.event.isFault = false) → Counted moments state) ?_
      (fun _ => atStart) calls sound
    intro moments state call before soundly
    have earlier := before fun moment member => soundly moment (List.mem_append_left _ member)
    exact earlier.step (soundly _ (List.mem_append_right _ List.mem_cons_self))
  refine ⟨counted.counts, fun deviceId => ?_, fun deviceId found => ?_, ?_⟩
  · have number := counted.counts deviceId
    rw [FailureCounters.count] at number
    rcases entry : (service.after calls start).counters.counts.get? deviceId with _ | count <;>
      rw [entry] at number
    · have none : (0 : UInt32).toNat = 0 := rfl
      simp only [Option.getD_none, none] at number
      simp only [Option.isSome_none, Bool.false_eq_true, false_iff]
      omega
    · have positive := counted.positive deviceId count entry
      simp only [Option.getD_some] at number
      simp only [Option.isSome_some, true_iff]
      omega
  · obtain ⟨count, entry⟩ := Option.isSome_iff_exists.mp found
    have enrolled := counted.enrolled deviceId (Dictionary.mem_keys_of_get? entry)
    exact ⟨counted.encodable deviceId enrolled, enrolled⟩
  · have fits := (List.subperm_of_subset counted.distinct counted.enrolled).length_le
    simpa only [FailureCounters.size, Dictionary.keys, List.length_map] using fits

/-! A stranger and an enrolled device fail, and the device succeeds. -/

namespace Sample

/-- Only the last failure of the device is still counted at the end. -/
def failingAgain : List Call := [
  .submitProof "a" "device" "none" [1] (values 2),
  .enroll device,
  .submitProof "b" "stranger" "none" [1] (values 2),
  .issueChallenge "challenge" (.ofNat 2) "device",
  .submitProof "c" "device" "challenge" [] (values 2),
  .submitProof "d" "device" "challenge" [1] (values 2),
  .submitProof "e" "device" "challenge" [1] (values 2)]

end Sample

open Sample in
theorem failures_counted_failingAgain :
    Moment.failures "device" (Sample.service.moments failingAgain vacant) = 1 ∧
      CountersMatch (Sample.service.moments failingAgain vacant)
        (Sample.service.after failingAgain vacant) :=
  ⟨by decide +kernel, failures_counted Sample.service rfl (fun _ member => by cases member)
    failingAgain (by decide +kernel)⟩

end DeviceAuth
