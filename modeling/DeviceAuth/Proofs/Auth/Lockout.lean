import DeviceAuth.Proofs.Auth.History

/-!
**What ends a lockout.** A device that has failed too often gets no more challenges. Verifications
do not look at the failures, so a challenge that the device still holds can be redeemed, and then
its failures are forgotten.

* `Service.perform_locked`: a call keeps a lockout and does not serve the device, unless it forgets
  the failures or `Redeems` a challenge of the device. `Redeems.ends_lockout`: the latter ends it.
* `staysLocked_iff`: over any further calls without a reset a lockout stays exactly if none of them
  redeems a challenge that was outstanding when it began.
-/

namespace DeviceAuth

open Event LedgerStore Service

variable {σ : Type}

/-- A device has failed too often to get another challenge. -/
def Locked (service : Service) (deviceId : String) (state : State σ) : Prop :=
  service.failureLimit ≤ state.counters.count deviceId

/-- An event serves a device: the device gets a challenge or a session. -/
def Event.Serves (deviceId : String) (event : Event) : Prop :=
  (∃ offer, event.offer? = some offer ∧ offer.deviceId = deviceId) ∨
    ∃ opening, event.opening? = some opening ∧ opening.deviceId = deviceId

theorem Locked.mono {service : Service} {deviceId : String} {state after : State σ}
    (locked : Locked service deviceId state)
    (larger : state.counters.count deviceId ≤ after.counters.count deviceId) :
    Locked service deviceId after :=
  UInt32.le_trans locked larger

theorem Locked.of_counters {service : Service} {deviceId : String} {state after : State σ}
    (locked : Locked service deviceId state)
    (same : after.counters = state.counters) : Locked service deviceId after :=
  locked.mono (by rw [same]; exact UInt32.le_refl _)

variable [RecordStore σ]

/-- **A lockout holds over calls**: after each of them the device is locked out, and none of them
serves it. -/
structure StaysLocked (service : Service) (deviceId : String) (state : State σ)
    (calls : List Call) : Prop where
  locked : ∀ earlier, earlier <+: calls → Locked service deviceId (service.after earlier state)
  unserved : ∀ event ∈ service.events calls state, ¬ event.Serves deviceId

/-- **A call redeems a challenge of a device**: it is a verification for the device, all of its
checks pass, and it uses the challenge up. The failures of the device play no part. -/
def Redeems (service : Service) (deviceId challengeId : String) (state : State σ) : Call → Prop
  | .submitProof _ device challenge proof values =>
    device = deviceId ∧ challenge = challengeId ∧
      Redeemable service deviceId challengeId proof values state
  | .submit _ request =>
    request.deviceId = deviceId ∧ request.challengeId = challengeId ∧
      ∃ proof, request.proof.decodedProof = .ok proof ∧
        Redeemable service deviceId challengeId proof request.proof.publicValues state
  | _ => False

variable {service : Service} {deviceId : String} {state : State σ} {call : Call}

/-! ### One call -/

/-- What offers nothing and opens nothing serves nobody. -/
theorem Event.not_serves {event : Event} (noOffer : event.offer? = none)
    (noOpening : event.opening? = none) : ¬ event.Serves deviceId := by
  rintro (⟨_, shows, _⟩ | ⟨_, shows, _⟩)
  · rw [noOffer] at shows; cases shows
  · rw [noOpening] at shows; cases shows

theorem count_le_countFailure (holder : String) (counters : FailureCounters) :
    counters.count deviceId ≤ (counters.countFailure holder).2.count deviceId := by
  rw [FailureCounters.count_countFailure]
  split
  · next same =>
    rw [same]
    exact FailureCounters.le_successor _
  · exact UInt32.le_refl _

/-- A verification leaves a lockout as it is, and the device unserved, unless it redeems a challenge
of the device. -/
theorem Service.Verified.locked {sessionId holder challengeId : String} {proof : Bytes}
    {values : PublicValues} {outcome : Except Failure Session × State σ} {event : Event}
    (verified : Verified service sessionId holder challengeId proof values state outcome)
    (locked : Locked service deviceId state) (noOffer : event.offer? = none)
    (opens : event.opening? =
      outcome.1.toOption.map fun session => ⟨holder, challengeId, session⟩)
    (free : holder = deviceId → ¬ Redeemable service holder challengeId proof values state) :
    Locked service deviceId outcome.2 ∧ ¬ event.Serves deviceId := by
  cases verified with
  | refused failure store counters kept _ counted =>
    refine ⟨locked.mono ?_, Event.not_serves noOffer opens⟩
    rcases counted with rfl | rfl
    · exact UInt32.le_refl _
    · exact count_le_countFailure holder _
  | lost challenge device failure store passes spent =>
    have other : deviceId ≠ holder := fun same =>
      free same.symm ⟨challenge, device, store, passes, spent⟩
    refine ⟨locked.mono ?_, Event.not_serves noOffer opens⟩
    simp only [FailureCounters.count_forget, other, if_false]
    exact UInt32.le_refl _
  | opened challenge device session spent store passes spends added named owned =>
    have other : deviceId ≠ holder := fun same =>
      free same.symm ⟨challenge, device, spent, passes, spends⟩
    refine ⟨locked.mono ?_, ?_⟩
    · simp only [FailureCounters.count_forget, other, if_false]
      exact UInt32.le_refl _
    · rintro (⟨_, shows, _⟩ | ⟨_, shows, rfl⟩)
      · rw [noOffer] at shows; cases shows
      · rw [opens] at shows
        cases shows
        exact other rfl

/-- A verification that can redeem a challenge ends the lockout of its device. -/
theorem Service.Verified.ends_lockout {sessionId challengeId : String} {proof : Bytes}
    {values : PublicValues} {outcome : Except Failure Session × State σ} {event : Event}
    (verified : Verified service sessionId deviceId challengeId proof values state outcome)
    (redeemable : Redeemable service deviceId challengeId proof values state)
    (positive : 0 < service.failureLimit)
    (opens : event.opening? =
      outcome.1.toOption.map fun session => ⟨deviceId, challengeId, session⟩) :
    ¬ (Locked service deviceId outcome.2 ∧ ¬ event.Serves deviceId) := by
  rintro ⟨locked, unserved⟩
  cases verified with
  | refused failure store counters kept fails counted => exact fails redeemable
  | lost challenge device failure store passes spent =>
    simp only [Locked, FailureCounters.count_forget, if_true] at locked
    exact absurd locked (UInt32.not_le.mpr positive)
  | opened challenge device session spent store passes spends added named owned =>
    exact unserved (.inr ⟨_, opens, rfl⟩)

variable [LedgerStore σ]

/-- A challenge that is redeemed was outstanding. -/
theorem Redeems.held {challengeId : String} (filed : (ledger state.store).filed)
    (redeems : Redeems service deviceId challengeId state call) :
    (ledger state.store).challenges challengeId deviceId false := by
  cases call with
  | submitProof sessionId device challenge proof values =>
    obtain ⟨rfl, rfl, _, _, _, passes, _⟩ := redeems
    exact (passes.held filed).2
  | submit sessionId request =>
    obtain ⟨rfl, rfl, _, _, _, _, _, passes, _⟩ := redeems
    exact (passes.held filed).2
  | _ => cases redeems

/-- **A call leaves a lockout as it is**, and the device unserved, unless it forgets the failures of
the device or redeems one of its challenges. -/
theorem Service.perform_locked (locked : Locked service deviceId state)
    (unforgiven : call ≠ .forgetFailures deviceId)
    (free : ∀ challengeId, ¬ Redeems service deviceId challengeId state call) :
    Locked service deviceId (service.perform call state).2 ∧
      ¬ Event.Serves deviceId ⟨call, (service.perform call state).1⟩ := by
  cases call with
  | issueChallenge challengeId nonce holder =>
    have issued := service.issueChallenge_run challengeId nonce holder state
    simp only [perform]
    generalize (service.issueChallenge challengeId nonce holder).run state = outcome at issued ⊢
    cases issued with
    | refused failure => exact ⟨locked, Event.not_serves rfl rfl⟩
    | issued device expiresAt store known active unlocked added =>
      refine ⟨locked.of_counters rfl, ?_⟩
      rintro (⟨_, shows, rfl⟩ | ⟨_, shows, _⟩)
      · cases shows
        exact unlocked locked
      · cases shows
  | submitProof sessionId holder challengeId proof values =>
    have submitted := service.submitProof_run sessionId holder challengeId proof values state
    exact submitted.locked locked rfl (Event.opening?_submitProof ..) fun own redeemable =>
      free challengeId ⟨own, rfl, own ▸ redeemable⟩
  | submit sessionId request =>
    have submitted := service.submit_run sessionId request state
    simp only [perform]
    generalize (service.submit sessionId request).run state = outcome at submitted ⊢
    rcases submitted with ⟨failure, counters, counted, _, rfl⟩ | ⟨proof, decoded, verified⟩
    · refine ⟨locked.mono ?_, Event.not_serves rfl rfl⟩
      rcases counted with rfl | rfl
      · exact UInt32.le_refl _
      · exact count_le_countFailure request.deviceId _
    · exact verified.locked locked rfl (Event.opening?_submit ..) fun own redeemable =>
        free request.challengeId ⟨own, rfl, proof, decoded, own ▸ redeemable⟩
  | forgetFailures holder =>
    have other : deviceId ≠ holder := fun same => unforgiven (by rw [same])
    refine ⟨locked.mono ?_, Event.not_serves rfl rfl⟩
    simp only [perform, Operation.run_forgetFailures, FailureCounters.count_forget, other, if_false]
    exact UInt32.le_refl _
  | acceptToken _ | extendSession _ | endSession _ | endByToken _ | removeExpired | enroll _
  | replaceLicense _ | setClock _ =>
    refine ⟨locked.of_counters (service.perform_upkeep _ state ?_).counters,
      Event.not_serves rfl rfl⟩
    trivial

/-- **A call that redeems a challenge of a device ends its lockout,** or serves it. -/
theorem Redeems.ends_lockout {challengeId : String}
    (redeems : Redeems service deviceId challengeId state call)
    (positive : 0 < service.failureLimit) :
    ¬ (Locked service deviceId (service.perform call state).2 ∧
      ¬ Event.Serves deviceId ⟨call, (service.perform call state).1⟩) := by
  cases call with
  | submitProof sessionId holder challenge proof values =>
    obtain ⟨rfl, rfl, redeemable⟩ := redeems
    exact (service.submitProof_run sessionId holder challenge proof values state).ends_lockout
      redeemable positive (Event.opening?_submitProof ..)
  | submit sessionId request =>
    obtain ⟨rfl, rfl, proof, decoded, redeemable⟩ := redeems
    have submitted := service.submit_run sessionId request state
    simp only [perform]
    generalize (service.submit sessionId request).run state = outcome at submitted ⊢
    rcases submitted with ⟨_, _, _, broken, _⟩ | ⟨other, decodedToo, verified⟩
    · rw [decoded] at broken
      cases broken
    · rw [decoded] at decodedToo
      cases decodedToo
      exact verified.ends_lockout redeemable positive (Event.opening?_submit ..)
  | _ => cases redeems

/-- An outstanding challenge of a device that is not served was outstanding before. -/
theorem Service.perform_outstanding (filed : (ledger state.store).filed)
    (unserved : ¬ Event.Serves deviceId ⟨call, (service.perform call state).1⟩)
    {challengeId : String}
    (held : (ledger (service.perform call state).2.store).challenges challengeId deviceId false) :
    (ledger state.store).challenges challengeId deviceId false := by
  cases service.perform_effect call filed with
  | upkeep noOffer noOpening shrinks => exact shrinks.unused held
  | offers challenge offer noOpening offers =>
    rcases offers.challenges _ _ _ held with same | ⟨rfl, rfl, _⟩
    · exact same
    · exact absurd (.inl ⟨_, offer, rfl⟩) unserved
  | opens opening spent noOffer opens unused shrinks closed owned added =>
    exact shrinks.unused (added.challenges _ _ _ held)

/-! ### All calls from then on -/

/-- A lockout holds over calls that redeem none of the challenges that are outstanding. -/
theorem staysLocked_of_free (locked : Locked service deviceId state)
    (filed : (ledger state.store).filed) (calls : List Call)
    (unforgiven : ∀ call ∈ calls, call ≠ .forgetFailures deviceId)
    (free : ∀ earlier call later, calls = earlier ++ call :: later → ∀ challengeId,
      (ledger state.store).challenges challengeId deviceId false →
        ¬ Redeems service deviceId challengeId (service.after earlier state) call) :
    StaysLocked service deviceId state calls := by
  induction calls generalizing state with
  | nil =>
    refine ⟨fun earlier begins => ?_, fun event member => absurd member List.not_mem_nil⟩
    cases List.prefix_nil.mp begins
    exact locked
  | cons call rest ih =>
    obtain ⟨lockedNext, unserved⟩ := service.perform_locked locked
      (unforgiven call List.mem_cons_self) fun challengeId redeems =>
        free [] call rest rfl challengeId (redeems.held filed) redeems
    have filedNext : (ledger (service.perform call state).2.store).filed :=
      (service.perform_effect call filed).filed filed
    have stays := ih lockedNext filedNext
      (fun other member => unforgiven other (List.mem_cons_of_mem _ member))
      fun earlier other later split challengeId held =>
        free (call :: earlier) other later (congrArg (call :: ·) split) challengeId
          (service.perform_outstanding filed unserved held)
    refine ⟨fun earlier begins => ?_, fun event member => ?_⟩
    · rcases List.prefix_cons_iff.mp begins with rfl | ⟨more, rfl, beginsLater⟩
      · exact locked
      · exact stays.locked more beginsLater
    · rcases List.mem_cons.mp member with rfl | later
      · exact unserved
      · exact stays.unserved event later

/-- **When a lockout is final**: from any state that a service comes to, a lockout of a device holds
over further calls, in which nobody resets its failures, exactly if none of them redeems a challenge
that the device still held when it was locked out. So it is final if the device held none. A limit
of zero is refused by `Service.ofSettings`. -/
theorem staysLocked_iff (service : Service) (positive : 0 < service.failureLimit)
    {start : State Storage} (blank : (ledger start.store).Blank) (before further : List Call)
    (deviceId : String) (locked : Locked service deviceId (service.after before start))
    (unforgiven : ∀ call ∈ further, call ≠ .forgetFailures deviceId) :
    StaysLocked service deviceId (service.after before start) further ↔
      ∀ earlier call later, further = earlier ++ call :: later → ∀ challengeId,
        (ledger (service.after before start).store).challenges challengeId deviceId false →
          ¬ Redeems service deviceId challengeId
            (service.after (before ++ earlier) start) call := by
  have filed := filed_after service before blank.filed
  constructor
  · rintro stays earlier call later rfl challengeId _ redeems
    rw [after_append] at redeems
    refine redeems.ends_lockout positive ⟨?_, stays.unserved _ ?_⟩
    · have now := stays.locked (earlier ++ [call]) ⟨later, by simp⟩
      rwa [after_append] at now
    · rw [events_append]
      exact List.mem_append_right _ List.mem_cons_self
  · intro free
    refine staysLocked_of_free locked filed further unforgiven fun earlier call later split => ?_
    rw [← after_append]
    exact free earlier call later split

/-! A device is locked out while it holds a challenge, and comes back with it. -/

namespace Sample

/-- The device gets a challenge and fails as often as it may. -/
def failing : List Call := [
  .enroll device,
  .issueChallenge "challenge" (.ofNat 2) "device",
  .submitProof "failure" "device" "challenge" [] (values 2)]

/-- The device redeems the challenge that it holds. -/
def comingBack : List Call := [
  .submitProof "session" "device" "challenge" [1] (values 2)]

end Sample

open Sample in
theorem staysLocked_iff_comingBack :
    ¬ StaysLocked Sample.service "device" (Sample.service.after failing vacant) comingBack ∧
      (StaysLocked Sample.service "device" (Sample.service.after failing vacant) comingBack ↔
        ∀ earlier call later, comingBack = earlier ++ call :: later → ∀ challengeId,
          (ledger (Sample.service.after failing vacant).store).challenges challengeId "device"
              false →
            ¬ Redeems Sample.service "device" challengeId
              (Sample.service.after (failing ++ earlier) vacant) call) := by
  refine ⟨fun stays => ?_,
    staysLocked_iff Sample.service (by decide) blank_vacant failing comingBack "device" ?_ ?_⟩
  · have locked := stays.locked comingBack (List.prefix_refl _)
    unfold Locked at locked
    exact absurd locked (by decide +kernel)
  · unfold Locked
    decide +kernel
  · intro call member
    rw [List.mem_singleton.mp member]
    nofun

end DeviceAuth
