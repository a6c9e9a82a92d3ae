import DeviceAuth.Proofs.Auth.Footprint
import DeviceAuth.Proofs.Auth.Ledger

/-!
**Upkeep.** Most requests neither add a record of a verification nor touch the failures: they read,
they enroll, they use up, they remove. What the service does apart from issuing challenges and
verifying proofs consists of such requests.

* `Request.perform_shrinks`: a request that adds neither a challenge nor a session brings nothing
  new into the ledger. `Request.perform_counters`: the failures change only where one is counted or
  where they are forgotten.
* `Operation.Only.upkeep`: both for a whole operation of upkeep, and the operations that are.
-/

namespace DeviceAuth

open LedgerStore

variable {σ : Type}

/-! ### Requests -/

/-- Whether a request adds a challenge or a session. -/
def Request.Adds : Request → Prop
  | addChallenge _ | addSession _ => True
  | _ => False

/-- Whether a request changes the failures of a device. -/
def Request.Counts : Request → Prop
  | countFailure _ | forgetFailures _ => True
  | _ => False

/-- Whether a request does neither. -/
def Request.IsUpkeep (request : Request) : Prop :=
  ¬ request.Adds ∧ ¬ request.Counts

theorem State.change_counters {α : Type} (state : State σ) (result : Except AuthError (α × σ)) :
    (state.change result).2.counters = state.counters := by
  rcases result with _ | ⟨_, _⟩ <;> rfl

/-- A store is as before where it could not be written. -/
theorem State.write_store (state : State σ) (result : Except AuthError σ) :
    (state.write result).2.store =
      match result with
      | .ok store => store
      | .error _ => state.store := by
  cases result <;> rfl

variable [RecordStore σ]

theorem Request.perform_counters (request : Request) (state : State σ) (counts : ¬ request.Counts) :
    (request.perform state).2.counters = state.counters := by
  cases request with
  | countFailure _ | forgetFailures _ => exact absurd trivial counts
  | enroll _ | addChallenge _ | spendChallenge _ | dropChallenges _ | addSession _ | noteUse _ _
  | prolongSession _ _ _ | removeSession _ | dropSessions _ => exact State.change_counters state _
  | now | device _ | challenge _ | session _ | liveDevices _ | failures _ | license => rfl

variable [LedgerStore σ]

/-- What a change does to the ledger, if it succeeds, it does in any case. -/
theorem State.change_shrinks {α : Type} {state : State σ} {result : Except AuthError (α × σ)}
    (shrinks : ∀ answer store, result = .ok (answer, store) →
      (ledger state.store).Shrinks (ledger store)) :
    (ledger state.store).Shrinks (ledger (state.change result).2.store) := by
  rcases result with error | ⟨answer, store⟩
  · exact .refl _
  · exact shrinks answer store rfl

theorem Request.perform_shrinks (request : Request) (state : State σ) (adds : ¬ request.Adds) :
    (ledger state.store).Shrinks (ledger (request.perform state).2.store) := by
  cases request with
  | addChallenge _ | addSession _ => exact absurd trivial adds
  | enroll device =>
    simp only [perform, State.write_store]
    rcases enrolled : RecordStore.enroll device state.store with _ | store
    · exact .refl _
    · exact enroll_shrinks enrolled
  | spendChallenge _ => exact State.change_shrinks fun _ _ => spend_shrinks
  | dropChallenges _ => exact State.change_shrinks fun _ _ => dropChallenges_shrinks
  | noteUse _ _ => exact State.change_shrinks fun _ _ => noteUse_shrinks
  | prolongSession _ _ _ => exact State.change_shrinks fun _ _ => prolongSession_shrinks
  | removeSession _ => exact State.change_shrinks fun _ _ => removeSession_shrinks
  | dropSessions _ => exact State.change_shrinks fun _ _ => dropSessions_shrinks
  | now | device _ | challenge _ | session _ | liveDevices _ | failures _ | countFailure _
  | forgetFailures _ | license => exact .refl _

/-- The id of the challenge that a request adds. -/
def Request.offered? : Request → Option String
  | addChallenge added => some added.challengeId
  | _ => none

/-- A challenge was there, or has been used up since, or is the one that is added. -/
theorem Request.perform_challenges (request : Request) (state : State σ)
    {challengeId deviceId : String} {used : Bool}
    (held : (ledger (request.perform state).2.store).challenges challengeId deviceId used) :
    (ledger state.store).challenges challengeId deviceId used ∨
      used = true ∧ (ledger state.store).challenges challengeId deviceId false ∨
      request.offered? = some challengeId := by
  cases request with
  | addChallenge challenge =>
    simp only [perform, State.write_store] at held
    rcases added : RecordStore.addChallenge challenge state.store with _ | store <;>
      simp only [added] at held
    · exact .inl held
    · rcases (addChallenge_offers added).challenges _ _ _ held with before | ⟨rfl, _, _⟩
      · exact .inl before
      · exact .inr (.inr rfl)
  | addSession session =>
    simp only [perform, State.write_store] at held
    rcases added : RecordStore.addSession session state.store with _ | store <;>
      simp only [added] at held
    · exact .inl held
    · exact .inl ((addSession_opens added).challenges _ _ _ held)
  | _ =>
    rcases (perform_shrinks _ state id).challenges _ _ _ held with before | spent
    · exact .inl before
    · exact .inr (.inl spent)

/-! ### Operations -/

/-- A state after upkeep: nothing new in the ledger, and the same failures. -/
structure State.Upkeep (before after : State σ) : Prop where
  shrinks : (ledger before.store).Shrinks (ledger after.store)
  counters : after.counters = before.counters

namespace Operation

/-- A run of an operation of upkeep is upkeep. -/
theorem Only.upkeep {α : Type} {operation : Operation α} (only : Only Request.IsUpkeep operation)
    (state : State σ) : state.Upkeep (operation.run state).2 := by
  refine only.run_preserves (fun request now upkeep kept => ⟨?_, ?_⟩) state ⟨.refl _, rfl⟩
  · exact kept.shrinks.trans (request.perform_shrinks now upkeep.1)
  · exact (request.perform_counters now upkeep.2).trans kept.counters

end Operation

open Operation

theorem Request.IsRead.isUpkeep {request : Request} (read : request.IsRead) : request.IsUpkeep := by
  cases request <;> first | exact ⟨id, id⟩ | cases read

theorem SessionPolicy.upkeep_accept (policy : SessionPolicy) (token : String) :
    Only Request.IsUpkeep (policy.accept token) :=
  policy.only_accept (fun _ => Request.IsRead.isUpkeep) token fun _ _ => ⟨id, id⟩

theorem SessionPolicy.upkeep_extend (policy : SessionPolicy) (token : String) :
    Only Request.IsUpkeep (policy.extend token) :=
  policy.only_extend (fun _ => Request.IsRead.isUpkeep) token (fun _ _ => ⟨id, id⟩)
    fun _ _ _ => ⟨id, id⟩

theorem SessionPolicy.upkeep_close (sessionId : String) :
    Only Request.IsUpkeep (SessionPolicy.close sessionId) :=
  only_close (fun _ => ⟨id, id⟩) sessionId

theorem Service.upkeep_endByToken (service : Service) (token : String) :
    Only Request.IsUpkeep (service.endByToken token) :=
  service.only_endByToken (fun _ => Request.IsRead.isUpkeep) token (fun _ _ => ⟨id, id⟩)
    fun _ => ⟨id, id⟩

theorem Service.upkeep_removeExpired : Only Request.IsUpkeep Service.removeExpired :=
  only_removeExpired (fun _ => Request.IsRead.isUpkeep) (fun _ => ⟨id, id⟩) fun _ => ⟨id, id⟩

theorem upkeep_enroll (device : Credential) : Only Request.IsUpkeep (Operation.enroll device) :=
  .request (.enroll device) _ ⟨id, id⟩

end DeviceAuth
