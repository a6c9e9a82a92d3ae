import DeviceAuth.Auth.Service

/-!
**What operations ask for, and how they run.**

* `Only allowed operation`: every request on every path of an operation is allowed. It is closed
  under sequencing and under the handling of errors, so it is read off an operation's definition.
* `Only.run_preserves`: what allowed requests keep, a run of the operation keeps. No request moves
  the clock or replaces the license (`run_sameTerms`).
* `Within bound operation`: no path of an operation has more requests than the bound.
* The `run_` lemmas run each building block of an operation, so that a run is computed from the
  answers of the store.
-/

namespace DeviceAuth

@[simp] theorem Failure.lift_ok {α : Type} (value : α) : lift (.ok value) = .ok value := rfl

@[simp] theorem Failure.lift_error {α : Type} (error : AuthError) :
    (lift (.error error) : Except Failure α) = .error (.refused error) := rfl

@[simp] theorem AuthError.liftZkp_ok {α : Type} (value : α) : liftZkp (.ok value) = .ok value := rfl

theorem Failure.later_eq_ok {now later : Instant} {duration : Duration}
    (moved : Failure.later now duration = .ok later) : now.add? duration = some later := by
  unfold Failure.later at moved
  split at moved <;> cases moved
  assumption

/-- Whether a request changes nothing. -/
def Request.IsRead : Request → Prop
  | now | device _ | challenge _ | session _ | liveDevices _ | failures _ | license => True
  | _ => False

namespace Operation

variable {α β : Type} {σ : Type} [RecordStore σ]

/-! ### Running the building blocks -/

@[simp] theorem run_bind (first : Operation α) (rest : α → Operation β) (state : State σ) :
    (first >>= rest).run state =
      match first.run state with
      | (.ok value, after) => (rest value).run after
      | (.error failure, after) => (.error failure, after) :=
  run_andThen first rest state

@[simp] theorem run_pure (value : α) (state : State σ) :
    (pure value : Operation α).run state = (.ok value, state) := rfl

@[simp] theorem run_refuse (error : AuthError) (state : State σ) :
    (refuse error : Operation α).run state = (.error (.refused error), state) := rfl

@[simp] theorem run_ofResult (result : Except AuthError α) (state : State σ) :
    (ofResult result).run state = (Failure.lift result, state) := rfl

@[simp] theorem run_later (instant : Instant) (duration : Duration) (state : State σ) :
    (later instant duration).run state = (Failure.later instant duration, state) := rfl

@[simp] theorem run_now (state : State σ) : now.run state = (.ok state.now, state) := rfl

@[simp] theorem run_device (deviceId : String) (state : State σ) :
    (device deviceId).run state = (Failure.lift (RecordStore.device deviceId state.store), state) :=
  rfl

@[simp] theorem run_challenge (challengeId : String) (state : State σ) :
    (challenge challengeId).run state =
      (Failure.lift (RecordStore.challenge challengeId state.store), state) := rfl

@[simp] theorem run_failures (deviceId : String) (state : State σ) :
    (failures deviceId).run state = (.ok (state.counters.count deviceId), state) := rfl

@[simp] theorem run_license (state : State σ) : license.run state = (.ok state.license, state) :=
  rfl

@[simp] theorem run_liveDevices (moment : Instant) (state : State σ) :
    (liveDevices moment).run state =
      (Failure.lift (RecordStore.liveDevices moment state.store), state) := rfl

@[simp] theorem run_forgetFailures (deviceId : String) (state : State σ) :
    (forgetFailures deviceId).run state =
      (.ok (), { state with counters := state.counters.forget deviceId }) := rfl

@[simp] theorem run_addChallenge (added : Challenge) (state : State σ) :
    (addChallenge added).run state =
      match RecordStore.addChallenge added state.store with
      | .ok store => (.ok (), { state with store })
      | .error error => (.error (.refused error), state) := by
  show (Failure.lift (State.write state _).1, (State.write state _).2) = _
  cases RecordStore.addChallenge added state.store <;> rfl

@[simp] theorem run_addSession (added : Session) (state : State σ) :
    (addSession added).run state =
      match RecordStore.addSession added state.store with
      | .ok store => (.ok (), { state with store })
      | .error error => (.error (.refused error), state) := by
  show (Failure.lift (State.write state _).1, (State.write state _).2) = _
  cases RecordStore.addSession added state.store <;> rfl

@[simp] theorem run_spendChallenge (challengeId : String) (state : State σ) :
    (spendChallenge challengeId).run state =
      match RecordStore.spendChallenge challengeId state.store with
      | .ok (spent, store) => (.ok spent, { state with store })
      | .error error => (.error (.refused error), state) := by
  show (Failure.lift (State.change state _).1, (State.change state _).2) = _
  cases RecordStore.spendChallenge challengeId state.store <;> rfl

@[simp] theorem run_session (sessionId : String) (state : State σ) :
    (session sessionId).run state =
      (Failure.lift (RecordStore.session sessionId state.store), state) := rfl

@[simp] theorem run_noteUse (sessionId : String) (usedAt : Instant) (state : State σ) :
    (noteUse sessionId usedAt).run state =
      match RecordStore.noteUse sessionId usedAt state.store with
      | .ok (found, store) => (.ok found, { state with store })
      | .error error => (.error (.refused error), state) := by
  show (Failure.lift (State.change state _).1, (State.change state _).2) = _
  cases RecordStore.noteUse sessionId usedAt state.store <;> rfl

@[simp] theorem run_prolongSession (sessionId : String) (expiresAt : Instant) (token : String)
    (state : State σ) :
    (prolongSession sessionId expiresAt token).run state =
      match RecordStore.prolongSession sessionId expiresAt token state.store with
      | .ok (found, store) => (.ok found, { state with store })
      | .error error => (.error (.refused error), state) := by
  show (Failure.lift (State.change state _).1, (State.change state _).2) = _
  cases RecordStore.prolongSession sessionId expiresAt token state.store <;> rfl

@[simp] theorem run_removeSession (sessionId : String) (state : State σ) :
    (removeSession sessionId).run state =
      match RecordStore.removeSession sessionId state.store with
      | .ok (found, store) => (.ok found, { state with store })
      | .error error => (.error (.refused error), state) := by
  show (Failure.lift (State.change state _).1, (State.change state _).2) = _
  cases RecordStore.removeSession sessionId state.store <;> rfl

@[simp] theorem run_dropChallenges (moment : Instant) (state : State σ) :
    (dropChallenges moment).run state =
      match RecordStore.dropChallenges moment state.store with
      | .ok (count, store) => (.ok count, { state with store })
      | .error error => (.error (.refused error), state) := by
  show (Failure.lift (State.change state _).1, (State.change state _).2) = _
  cases RecordStore.dropChallenges moment state.store <;> rfl

@[simp] theorem run_dropSessions (moment : Instant) (state : State σ) :
    (dropSessions moment).run state =
      match RecordStore.dropSessions moment state.store with
      | .ok (count, store) => (.ok count, { state with store })
      | .error error => (.error (.refused error), state) := by
  show (Failure.lift (State.change state _).1, (State.change state _).2) = _
  cases RecordStore.dropSessions moment state.store <;> rfl

@[simp] theorem run_enroll (device : Credential) (state : State σ) :
    (enroll device).run state =
      match RecordStore.enroll device state.store with
      | .ok store => (.ok (), { state with store })
      | .error error => (.error (.refused error), state) := by
  show (Failure.lift (State.write state _).1, (State.write state _).2) = _
  cases RecordStore.enroll device state.store <;> rfl

/-- The store knows a device if it answers with a credential. -/
@[simp] theorem run_knows (deviceId : String) (state : State σ) :
    (knows deviceId).run state =
      (.ok (match RecordStore.device deviceId state.store with
        | .ok (some _) => true
        | _ => false), state) := by
  simp only [knows, run_ask, Request.perform]
  rcases RecordStore.device deviceId state.store with _ | (_ | _) <;> rfl

/-- An error that is refused is handled in the state that it left. -/
theorem run_onRefusal (operation : Operation α) (handle : AuthError → Operation α)
    (state : State σ) :
    (operation.onRefusal handle).run state =
      match operation.run state with
      | (.error (.refused error), after) => (handle error).run after
      | (result, after) => (result, after) := by
  induction operation generalizing state with
  | done result =>
    rcases result with (error | _) | value <;> rfl
  | ask request next ih => simp only [onRefusal, run_ask, ih]

/-! ### The requests of an operation -/

/-- **Every request of an operation is allowed,** whatever the requests before it are answered
with. -/
inductive Only (allowed : Request → Prop) {α : Type} : Operation α → Prop
  | done (result : Except Failure α) : Only allowed (.done result)
  | ask (request : Request) (next : request.Answer → Operation α) :
      allowed request → (∀ answer, Only allowed (next answer)) → Only allowed (.ask request next)

namespace Only

variable {allowed : Request → Prop}

theorem pure (value : α) : Only allowed (Pure.pure value : Operation α) := .done _

theorem refuse (error : AuthError) : Only allowed (Operation.refuse error : Operation α) := .done _

theorem ofResult (result : Except AuthError α) : Only allowed (Operation.ofResult result) := .done _

theorem later (instant : Instant) (duration : Duration) :
    Only allowed (Operation.later instant duration) := .done _

/-- A request whose answer ends the operation, or fails. -/
theorem request (request : Request) (next : request.Answer → Except Failure α)
    (here : allowed request) : Only allowed (.ask request fun answer => .done (next answer)) :=
  .ask request _ here fun _ => .done _

theorem bind {first : Operation α} {rest : α → Operation β} (begins : Only allowed first)
    (goesOn : ∀ value, Only allowed (rest value)) : Only allowed (first >>= rest) := by
  induction begins with
  | done result =>
    rcases result with failure | value
    · exact .done _
    · exact goesOn value
  | ask request next here _ ih => exact .ask request _ here ih

theorem ite {condition : Prop} [Decidable condition] {first second : Operation α}
    (yes : Only allowed first) (no : Only allowed second) :
    Only allowed (if condition then first else second) := by
  split
  · exact yes
  · exact no

theorem onRefusal {operation : Operation α} {handle : AuthError → Operation α}
    (begins : Only allowed operation) (handled : ∀ error, Only allowed (handle error)) :
    Only allowed (operation.onRefusal handle) := by
  induction begins with
  | done result =>
    rcases result with (error | _) | value
    · exact handled error
    · exact .done _
    · exact .done _
  | ask request next here _ ih => exact .ask request _ here ih

theorem mono {permitted : Request → Prop} {operation : Operation α} (only : Only allowed operation)
    (wider : ∀ request, allowed request → permitted request) : Only permitted operation := by
  induction only with
  | done result => exact .done result
  | ask request next here _ ih => exact .ask request next (wider request here) ih

/-- One request later the requests that are left are allowed. -/
theorem step {operation : Operation α} (only : Only allowed operation) (state : State σ) :
    Only allowed (operation.step state).1 := by
  cases only with
  | done result => exact .done result
  | ask request next _ rest => exact rest _

/-- **What allowed requests keep, a run keeps.** -/
theorem run_preserves {operation : Operation α} (only : Only allowed operation)
    {keeps : State σ → Prop}
    (step : ∀ request state, allowed request → keeps state → keeps (request.perform state).2)
    (state : State σ) (before : keeps state) : keeps (operation.run state).2 := by
  induction only generalizing state with
  | done _ => exact before
  | ask request next here _ ih => exact ih _ _ (step request state here before)

/-- An operation that only reads changes nothing. -/
theorem run_of_reads {operation : Operation α} (reads : Only Request.IsRead operation)
    (state : State σ) : ∃ result, operation.run state = (result, state) := by
  have unchanged : ∀ (request : Request) (before : State σ), request.IsRead →
      (request.perform before).2 = before := by
    intro request before read
    cases request <;> first | rfl | cases read
  have same : (operation.run state).2 = state :=
    reads.run_preserves (fun request before read kept => (unchanged request before read).trans kept)
      state rfl
  exact ⟨_, Prod.ext rfl same⟩

/-- If every request is allowed, every operation is. -/
theorem any (operation : Operation α) : Only (fun _ => True) operation := by
  induction operation with
  | done result => exact .done result
  | ask request next ih => exact .ask request next trivial ih

end Only

end Operation

/-! ### What no request changes -/

/-- The same time and license. -/
structure State.SameTerms {σ : Type} (before after : State σ) : Prop where
  now : after.now = before.now
  license : after.license = before.license

section SameTerms

variable {σ : Type} [RecordStore σ]

/-- No request moves the clock or replaces the license. -/
theorem Request.perform_sameTerms (request : Request) (state : State σ) :
    state.SameTerms (request.perform state).2 := by
  cases request with
  | enroll _ | addChallenge _ | spendChallenge _ | dropChallenges _ | addSession _ | noteUse _ _
  | prolongSession _ _ _ | removeSession _ | dropSessions _ =>
    simp only [Request.perform, State.write, State.change]
    split <;> exact ⟨rfl, rfl⟩
  | _ => exact ⟨rfl, rfl⟩

theorem Operation.run_sameTerms {α : Type} (operation : Operation α) (state : State σ) :
    state.SameTerms (operation.run state).2 := by
  refine (Only.any operation).run_preserves (fun request before _ kept => ?_) state ⟨rfl, rfl⟩
  have same := request.perform_sameTerms before
  exact ⟨same.now.trans kept.now, same.license.trans kept.license⟩

end SameTerms

namespace Operation

variable {α β : Type} {σ : Type} [RecordStore σ]

/-! ### How many requests an operation makes -/

/-- **An operation makes at most so many requests,** whatever they are answered with. -/
inductive Within {α : Type} : Nat → Operation α → Prop
  | done (bound : Nat) (result : Except Failure α) : Within bound (.done result)
  | ask {bound : Nat} (request : Request) (next : request.Answer → Operation α) :
      (∀ answer, Within bound (next answer)) → Within (bound + 1) (.ask request next)

namespace Within

variable {bound more : Nat}

/-- A request whose answer ends the operation, or fails. -/
theorem request (request : Request) (next : request.Answer → Except Failure α) :
    Within 1 (.ask request fun answer => .done (next answer)) :=
  .ask request _ fun _ => .done 0 _

theorem mono {operation : Operation α} (within : Within bound operation) (larger : bound ≤ more) :
    Within more operation := by
  induction within generalizing more with
  | done _ result => exact .done more result
  | ask request next _ ih =>
    obtain ⟨rest, rfl⟩ := Nat.exists_eq_add_of_le' larger
    exact .ask request next fun answer => ih answer (Nat.le_add_left _ _)

theorem bind {first : Operation α} {rest : α → Operation β} (begins : Within bound first)
    (goesOn : ∀ value, Within more (rest value)) : Within (bound + more) (first >>= rest) := by
  induction begins with
  | done bound result =>
    rcases result with failure | value
    · exact .done _ _
    · exact (goesOn value).mono (Nat.le_add_left _ _)
  | @ask bound request next _ ih =>
    rw [Nat.add_right_comm]
    exact .ask request _ ih

theorem onRefusal {operation : Operation α} {handle : AuthError → Operation α}
    (begins : Within bound operation) (handled : ∀ error, Within more (handle error)) :
    Within (bound + more) (operation.onRefusal handle) := by
  induction begins with
  | done bound result =>
    rcases result with (error | _) | value
    · exact (handled error).mono (Nat.le_add_left _ _)
    · exact .done _ _
    · exact .done _ _
  | @ask bound request next _ ih =>
    rw [Nat.add_right_comm]
    exact .ask request _ ih

theorem ite {condition : Prop} [Decidable condition] {first second : Operation α}
    (yes : Within bound first) (no : Within bound second) :
    Within bound (if condition then first else second) := by
  split
  · exact yes
  · exact no

/-- One request is made at a time. -/
theorem step {operation : Operation α} (within : Within bound operation) (state : State σ) :
    Within (bound - 1) (operation.step state).1 := by
  cases within with
  | done _ result => exact .done _ result
  | ask request next rest => exact rest _

/-- Without requests there is only a result. -/
theorem eq_done {operation : Operation α} (within : Within 0 operation) :
    ∃ result, operation = .done result := by
  cases within with
  | done _ result => exact ⟨result, rfl⟩

end Within

end Operation

end DeviceAuth
