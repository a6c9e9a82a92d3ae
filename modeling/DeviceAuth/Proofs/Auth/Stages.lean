import DeviceAuth.Proofs.Auth.Upkeep

/-!
**The stages of a verification,** request by request, whatever the requests are answered with.

* `Guarded`: until its challenge is spent, a verification only checks, and when it ends it has
  failed. Only the answer that its own request has spent the challenge lets it go on, to forget the
  failures of the device and then to open a session (`opening`).
* `Undecided`: not yet at the opening of a session. One request later it is undecided still, or has
  come to the opening (`Undecided.step`).
* `Operation.Within`: how many requests an operation makes at most; nine for a verification
  (`within_beginning`).
-/

namespace DeviceAuth

open Operation

/-- What a call to verify a proof is given. -/
structure Submission where
  sessionId : String
  deviceId : String
  challengeId : String
  proof : Bytes
  values : PublicValues

/-- Whether a request only checks, or counts a failure. -/
def Request.IsCheck : Request → Prop
  | device _ | challenge _ | countFailure _ => True
  | _ => False

/-- A check adds no challenge. -/
theorem Request.offered?_of_isCheck (request : Request) (check : request.IsCheck) :
    request.offered? = none := by
  cases request <;> first | rfl | cases check

namespace Service

variable (service : Service) (submission : Submission)

/-- A verification before its first request. -/
def beginning : Operation Session :=
  service.submitProof submission.sessionId submission.deviceId submission.challengeId
    submission.proof submission.values

/-- What is left of a verification when its session is opened, for a holder. -/
def opening (holder : String) : Operation Session :=
  (service.sessions.create submission.sessionId holder).onRefusal (holdAgainst submission.deviceId)

/-- What is left of a verification when it has spent the challenge. -/
def spent (holder : String) : Operation Session :=
  .ask (.forgetFailures submission.deviceId) fun _ => service.opening submission holder

/-- **A verification that has not spent its challenge.** It checks, and ends with a failure, unless
its challenge is spent by its own request. -/
inductive Guarded : Operation Session → Prop
  | failed (failure : Failure) : Guarded (.done (.error failure))
  | ask (request : Request) (next : request.Answer → Operation Session) :
      request.IsCheck → (∀ answer, Guarded (next answer)) → Guarded (.ask request next)
  | spend (holder : String) (next : Except AuthError Bool → Operation Session) :
      next (.ok true) = service.spent submission holder →
      (∀ answer, answer ≠ .ok true → Guarded (next answer)) →
      Guarded (.ask (.spendChallenge submission.challengeId) next)

variable {service submission}

/-! ### Until the challenge is spent -/

namespace Guarded

theorem holdAgainst (error : AuthError) :
    Guarded service submission (Service.holdAgainst submission.deviceId error) := by
  unfold Service.holdAgainst
  split
  · refine .ask (.device submission.deviceId) _ trivial fun answer => ?_
    rcases answer with _ | (_ | _)
    · exact .failed _
    · exact .failed _
    · show Guarded service submission (if error.countsAgainstDevice = true then _ else _)
      split
      · exact .ask (.countFailure submission.deviceId) _ trivial fun _ => .failed _
      · exact .failed _
  · exact .failed _

/-- Checks before a guarded rest are guarded: a refusal is held against the device. -/
theorem bind {α : Type} {first : Operation α} {rest : α → Operation Session}
    (checks : Only Request.IsCheck first)
    (goesOn : ∀ value, Guarded service submission
      ((rest value).onRefusal (Service.holdAgainst submission.deviceId))) :
    Guarded service submission
      ((first >>= rest).onRefusal (Service.holdAgainst submission.deviceId)) := by
  induction checks with
  | done result =>
    rcases result with (error | _) | value
    · exact .holdAgainst error
    · exact .failed .overflow
    · exact goesOn value
  | ask request next check _ ih => exact .ask request _ check ih

end Guarded

theorem checks_openChallenge (challengeId : String) (moment : Instant) :
    Only Request.IsCheck (openChallenge challengeId moment) := by
  refine .bind (.request (.challenge challengeId) _ trivial) fun found => ?_
  rcases found with _ | challenge
  · exact .refuse _
  · exact .ite (.refuse _) (.ite (.refuse _) (.pure _))

theorem checks_credentialOf (deviceId : String) : Only Request.IsCheck (credentialOf deviceId) := by
  refine .bind (.request (.device deviceId) _ trivial) fun found => ?_
  rcases found with _ | device
  · exact .refuse _
  · exact .ite (.pure _) (.refuse _)

variable (service submission) in
/-- A verification reads the clock, and is guarded from then on. -/
theorem guarded_beginning : ∃ next, service.beginning submission = .ask .now next ∧
    ∀ moment, Guarded service submission (next moment) := by
  refine ⟨_, rfl, fun moment => .bind (.pure moment) fun now => ?_⟩
  refine .bind (checks_openChallenge submission.challengeId now) fun challenge => ?_
  refine .bind (checks_credentialOf submission.deviceId) fun device => ?_
  refine .bind (.ofResult _) fun _ => .bind (.ofResult _) fun valid => ?_
  cases valid
  · exact .holdAgainst .invalidProof
  · refine .spend device.deviceId _ rfl fun answer lost => ?_
    rcases answer with error | (_ | _)
    · exact .holdAgainst error
    · exact .holdAgainst (.challengeAlreadyUsed submission.challengeId)
    · exact absurd rfl lost

/-! ### Stages -/

/-- **A verification that has not won its challenge.** -/
inductive Pending (service : Service) (submission : Submission) : Operation Session → Prop
  | beginning : Pending service submission (service.beginning submission)
  | guarded {call : Operation Session} : Guarded service submission call →
      Pending service submission call

/-- **A verification that has not come to the opening of a session.** -/
inductive Undecided (service : Service) (submission : Submission) : Operation Session → Prop
  | pending {call : Operation Session} : Pending service submission call →
      Undecided service submission call
  | spent (holder : String) : Undecided service submission (service.spent submission holder)

variable {call : Operation Session} {σ : Type} [RecordStore σ]

/-- A pending verification stays pending, or its own request has spent the challenge. -/
theorem Pending.step [LedgerStore σ] (pending : Pending service submission call)
    (state : State σ) :
    Guarded service submission (call.step state).1 ∨
      (∃ holder, (call.step state).1 = service.spent submission holder) ∧
        ¬ (LedgerStore.ledger state.store).Closed submission.challengeId ∧
        (LedgerStore.ledger (call.step state).2.store).Closed submission.challengeId := by
  cases pending with
  | beginning =>
    obtain ⟨next, begins, guarded⟩ := guarded_beginning service submission
    rw [begins]
    exact .inl (guarded state.now)
  | guarded guarded =>
    cases guarded with
    | failed failure => exact .inl (.failed failure)
    | ask request next _ goesOn => exact .inl (goesOn _)
    | spend holder next won lost =>
      simp only [Operation.step, Request.perform]
      rcases answered : RecordStore.spendChallenge submission.challengeId state.store with
        error | ⟨_ | _, store⟩
      · exact .inl (lost (.error error) fun same => by cases same)
      · exact .inl (lost (.ok false) fun same => by cases same)
      · exact .inr ⟨⟨holder, won⟩, LedgerStore.spend_closes answered⟩

/-- After the clock, a verification that begins looks for its challenge, and one that opens its
session adds it or overflows. -/
theorem beginning_ne_opening (holder : String) :
    service.beginning submission ≠ service.opening submission holder := by
  intro same
  obtain ⟨moment⟩ : Nonempty Instant := ⟨⟨0, 0, by decide, by decide, by decide, by decide⟩⟩
  have afterClock := congrFun (eq_of_heq (Operation.ask.inj same).2) moment
  simp only [Operation.later, Failure.later, pure, andThen] at afterClock
  rcases later : moment.add? service.sessions.lifetime with _ | expiresAt <;>
    rw [later] at afterClock <;> cases afterClock

/-- A pending verification does not open a session. -/
theorem Pending.ne_opening (pending : Pending service submission call) (holder : String) :
    call ≠ service.opening submission holder := by
  intro same
  cases pending with
  | beginning => exact beginning_ne_opening holder same
  | guarded guarded =>
    rw [same] at guarded
    obtain ⟨next, opens⟩ : ∃ next, service.opening submission holder = .ask .now next := ⟨_, rfl⟩
    rw [opens] at guarded
    cases guarded with
    | ask _ _ check _ => exact check

/-- **One request later** a verification is undecided still, or comes to the opening. -/
theorem Undecided.step [LedgerStore σ] (undecided : Undecided service submission call)
    (state : State σ) :
    Undecided service submission (call.step state).1 ∨
      ∃ holder, (call.step state).1 = service.opening submission holder := by
  cases undecided with
  | spent holder => exact .inr ⟨holder, rfl⟩
  | pending pending =>
    rcases pending.step state with guarded | ⟨⟨holder, won⟩, _⟩
    · exact .inl (.pending (.guarded guarded))
    · rw [won]
      exact .inl (.spent holder)

/-- An undecided verification does not add a session. -/
theorem Undecided.ne_addSession {session : Session}
    {next : Request.Answer (.addSession session) → Operation Session}
    (undecided : Undecided service submission call) : call ≠ .ask (.addSession session) next := by
  rintro rfl
  generalize adds : Operation.ask (.addSession session) next = call at undecided
  cases undecided with
  | spent holder => cases adds
  | pending pending =>
    cases pending with
    | beginning =>
      obtain ⟨next, begins, _⟩ := guarded_beginning service submission
      rw [begins] at adds
      cases adds
    | guarded guarded =>
      cases guarded with
      | failed _ => cases adds
      | ask request next check _ =>
        cases adds
        exact check
      | spend _ _ _ _ => cases adds

/-- An undecided verification can only end with a failure. -/
theorem Undecided.failed {result : Except Failure Session}
    (undecided : Undecided service submission (.done result)) :
    ∃ failure, result = .error failure := by
  generalize same : Operation.done result = call at undecided
  cases undecided with
  | spent holder => cases same
  | pending pending =>
    cases pending with
    | beginning =>
      obtain ⟨next, begins, _⟩ := guarded_beginning service submission
      rw [begins] at same
      cases same
    | guarded guarded =>
      cases guarded with
      | failed failure => exact ⟨failure, Operation.done.inj same⟩
      | ask _ _ _ _ => cases same
      | spend _ _ _ _ => cases same

/-! ### What a verification never does, and how long it takes -/

theorem checks_holdAgainst (deviceId : String) (error : AuthError) :
    Only Request.IsCheck (Service.holdAgainst deviceId error) := by
  refine .ite (.bind (.ask (.device deviceId) _ trivial fun answer => ?_) fun known => ?_)
    (.refuse _)
  · rcases answer with _ | (_ | _)
    · exact .pure _
    · exact .pure _
    · exact .pure _
  · refine .ite (.ite ?_ (.refuse _)) (.refuse _)
    exact .bind (.request (.countFailure deviceId) _ trivial) fun _ => .refuse _

variable (service submission) in
/-- A verification never adds a challenge. -/
theorem offersNothing_beginning :
    Only (fun request => request.offered? = none) (service.beginning submission) := by
  refine .onRefusal ?_ fun error => (checks_holdAgainst _ error).mono Request.offered?_of_isCheck
  refine .bind (.request .now _ rfl) fun moment => ?_
  refine .bind ((checks_openChallenge _ moment).mono Request.offered?_of_isCheck) fun _ => ?_
  refine .bind ((checks_credentialOf _).mono Request.offered?_of_isCheck) fun device => ?_
  refine .bind (.ofResult _) fun _ => .bind (.ofResult _) fun valid => .ite ?_ (.refuse _)
  refine .bind (.request (.spendChallenge _) _ rfl) fun spent => .ite ?_ (.refuse _)
  refine .bind (.request (.forgetFailures _) _ rfl) fun _ => ?_
  refine .bind (.request .now _ rfl) fun now => .bind (.later _ _) fun expiresAt => ?_
  exact .bind (.request (.addSession _) _ rfl) fun _ => .pure _

theorem within_knows (deviceId : String) : Within 1 (knows deviceId) := by
  refine .ask (.device deviceId) _ fun answer => ?_
  rcases answer with _ | (_ | _) <;> exact .done 0 _

theorem within_holdAgainst (deviceId : String) (error : AuthError) :
    Within 2 (Service.holdAgainst deviceId error) := by
  show Within (1 + (1 + 0)) _
  refine .ite (.bind (within_knows deviceId) fun known => ?_) (.done _ _)
  refine .ite (.ite ?_ (.done _ _)) (.done _ _)
  exact .bind (.request (.countFailure deviceId) _) fun _ => .done _ _

theorem within_openChallenge (challengeId : String) (moment : Instant) :
    Within 1 (openChallenge challengeId moment) := by
  show Within (1 + 0) _
  refine .bind (.request (.challenge challengeId) _) fun found => ?_
  rcases found with _ | challenge
  · exact .done _ _
  · exact .ite (.done _ _) (.ite (.done _ _) (.done _ _))

theorem within_credentialOf (deviceId : String) : Within 1 (credentialOf deviceId) := by
  show Within (1 + 0) _
  refine .bind (.request (.device deviceId) _) fun found => ?_
  rcases found with _ | device
  · exact .done _ _
  · exact .ite (.done _ _) (.done _ _)

theorem within_create (policy : SessionPolicy) (sessionId holder : String) :
    Within 2 (policy.create sessionId holder) := by
  show Within (1 + (0 + (1 + 0))) _
  refine .bind (.request .now _) fun now => .bind (.done _ _) fun expiresAt => ?_
  exact .bind (.request (.addSession _) _) fun _ => .done _ _

variable (service submission) in
/-- **A verification makes nine requests at most**: seven of its own, if its session is opened, and
two if it is refused. -/
theorem within_beginning : Within 9 (service.beginning submission) := by
  -- The clock, the challenge, the device, spending, forgetting, and opening; a refusal.
  show Within ((1 + (1 + (1 + (0 + (0 + (1 + (1 + 2))))))) + 2) _
  refine .onRefusal ?_ (within_holdAgainst _)
  refine .bind (.request .now _) fun moment => ?_
  refine .bind (within_openChallenge _ moment) fun challenge => ?_
  refine .bind (within_credentialOf _) fun device => ?_
  refine .bind (.done _ _) fun _ => .bind (.done _ _) fun valid => .ite ?_ (.done _ _)
  refine .bind (.request (.spendChallenge _) _) fun spent => .ite ?_ (.done _ _)
  exact .bind (.request (.forgetFailures _) _) fun _ => within_create _ _ _

end Service

end DeviceAuth
