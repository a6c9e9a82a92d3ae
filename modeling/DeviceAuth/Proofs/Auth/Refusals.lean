import DeviceAuth.Proofs.Auth.Requests

/-!
**Which failures an operation can end with,** if its requests are answered as it is presumed.

* `Operation.Meets presumed`: along a run every answer is as presumed. What the clock and the
  license gate answer never changes within one operation (`Operation.meets_asOf`).
* `FailsOnly presumed allowed operation`: if every answer is as presumed, the operation ends with a
  value or with an allowed failure. Like `Only` it is closed under sequencing and under the handling
  of errors, so it is read off an operation's definition (`FailsOnly.run`).
* `Request.Settled`: a store answers a request without an error of its own.
-/

namespace DeviceAuth

/-! ### What is presumed of answers -/

namespace Request

/-- The error that a store answers with. -/
def errorOf? {α : Type} : Except AuthError α → Option AuthError
  | .error error => some error
  | .ok _ => none

theorem errorOf?_eq_none {α : Type} {result : Except AuthError α} :
    errorOf? result = none ↔ ∃ value, result = .ok value := by
  cases result <;> simp [errorOf?]

theorem errorOf?_of_eq_error {α : Type} {result : Except AuthError α} {error : AuthError}
    (failed : result = .error error) : errorOf? result = some error := by
  rw [failed]
  rfl

/-- The error that a request is answered with. -/
def error? : (request : Request) → request.Answer → Option AuthError
  | device _, answer => errorOf? answer
  | enroll _, answer => errorOf? answer
  | addChallenge _, answer => errorOf? answer
  | challenge _, answer => errorOf? answer
  | spendChallenge _, answer => errorOf? answer
  | dropChallenges _, answer => errorOf? answer
  | addSession _, answer => errorOf? answer
  | session _, answer => errorOf? answer
  | noteUse _ _, answer => errorOf? answer
  | prolongSession _ _ _, answer => errorOf? answer
  | removeSession _, answer => errorOf? answer
  | dropSessions _, answer => errorOf? answer
  | liveDevices _, answer => errorOf? answer
  | now, _ | failures _, _ | countFailure _, _ | forgetFailures _, _ | license, _ => none

/-- The answer to a request is no error of the store. -/
def Settled (request : Request) (answer : request.Answer) : Prop :=
  request.error? answer = none

/-- The clock shows a moment, and the gate is this one. -/
def AsOf (moment : Instant) (gate : LicenseGate) : (request : Request) → request.Answer → Prop
  | now, answer => answer = moment
  | license, answer => answer = gate
  | _, _ => True

/-- The clock shows a moment, the gate is this one, and no store fails. -/
def SettledAt (moment : Instant) (gate : LicenseGate) (request : Request)
    (answer : request.Answer) : Prop :=
  request.Settled answer ∧ request.AsOf moment gate answer

end Request

namespace Operation

variable {α β : Type}

/-! ### Runs along which answers are as presumed -/

section Meets

variable {σ : Type} [RecordStore σ] {presumed : (request : Request) → request.Answer → Prop}

/-- **Every request of a run is answered as presumed.** -/
inductive Meets {α : Type} (presumed : (request : Request) → request.Answer → Prop) :
    Operation α → State σ → Prop
  | done (result : Except Failure α) (state : State σ) : Meets presumed (.done result) state
  | ask {request : Request} {next : request.Answer → Operation α} {state : State σ} :
      presumed request (request.perform state).1 →
      Meets presumed (next (request.perform state).1) (request.perform state).2 →
      Meets presumed (.ask request next) state

/-- No store fails along a run. -/
abbrev Answered (operation : Operation α) (state : State σ) : Prop :=
  operation.Meets Request.Settled state

/-- The first request of a run is answered as presumed, and so are the others. -/
theorem Meets.of_ask {request : Request} {next : request.Answer → Operation α} {state : State σ}
    (meets : (Operation.ask request next).Meets presumed state) :
    presumed request (request.perform state).1 ∧
      (next (request.perform state).1).Meets presumed (request.perform state).2 := by
  cases meets with
  | ask here rest => exact ⟨here, rest⟩

/-- What comes first in a run is answered as presumed if the whole is. -/
theorem Meets.of_bind {first : Operation α} {rest : α → Operation β} {state : State σ}
    (meets : (first >>= rest).Meets presumed state) : first.Meets presumed state := by
  induction first generalizing state with
  | done result => exact .done result state
  | ask request next ih =>
    obtain ⟨here, goesOn⟩ := Meets.of_ask meets
    exact .ask here (ih _ goesOn)

theorem Meets.of_outcome {operation : Operation α} {state : State σ}
    (meets : operation.outcome.Meets presumed state) : operation.Meets presumed state := by
  induction operation generalizing state with
  | done result => exact .done result state
  | ask request next ih =>
    obtain ⟨here, goesOn⟩ := Meets.of_ask meets
    exact .ask here (ih _ goesOn)

theorem Meets.and {other : (request : Request) → request.Answer → Prop} {operation : Operation α}
    {state : State σ} (meets : operation.Meets presumed state)
    (meetsToo : operation.Meets other state) :
    operation.Meets (fun request answer => presumed request answer ∧ other request answer)
      state := by
  induction operation generalizing state with
  | done result => exact .done result state
  | ask request next ih =>
    obtain ⟨here, goesOn⟩ := meets.of_ask
    obtain ⟨hereToo, goesOnToo⟩ := meetsToo.of_ask
    exact .ask ⟨here, hereToo⟩ (ih _ goesOn goesOnToo)

/-- **Allowed requests are answered as presumed,** if something that they all keep sees to it. -/
theorem Only.meets {allowed : Request → Prop} {operation : Operation α}
    (only : Only allowed operation) (keeps : State σ → Prop)
    (step : ∀ request state, allowed request → keeps state →
      presumed request (request.perform state).1 ∧ keeps (request.perform state).2)
    {state : State σ} (before : keeps state) : operation.Meets presumed state := by
  induction only generalizing state with
  | done result => exact .done result state
  | ask request next here _ ih =>
    obtain ⟨answered, after⟩ := step request state here before
    exact .ask answered (ih _ after)

/-- **The clock and the license gate answer throughout a run as they did at its start.** -/
theorem meets_asOf (operation : Operation α) (state : State σ) :
    operation.Meets (Request.AsOf state.now state.license) state := by
  refine (Only.any operation).meets
    (fun present => present.now = state.now ∧ present.license = state.license)
    (fun request present _ same => ?_) ⟨rfl, rfl⟩
  have stays := request.perform_sameTerms present
  refine ⟨?_, stays.now.trans same.1, stays.license.trans same.2⟩
  cases request with
  | now => exact same.1
  | license => exact same.2
  | _ => trivial

/-- A run in which no store fails, with its clock and its gate. -/
theorem Meets.settledAt {operation : Operation α} {state : State σ}
    (answered : operation.Answered state) :
    operation.Meets (Request.SettledAt state.now state.license) state :=
  answered.and (operation.meets_asOf state)

end Meets

/-! ### Allowed failures -/

/-- **Every failure of an operation is allowed,** if every answer is as presumed. -/
inductive FailsOnly {α : Type} (presumed : (request : Request) → request.Answer → Prop)
    (allowed : Failure → Prop) : Operation α → Prop
  | succeeds (value : α) : FailsOnly presumed allowed (.done (.ok value))
  | fails (failure : Failure) : allowed failure →
      FailsOnly presumed allowed (.done (.error failure))
  | ask (request : Request) (next : request.Answer → Operation α) :
      (∀ answer, presumed request answer → FailsOnly presumed allowed (next answer)) →
      FailsOnly presumed allowed (.ask request next)

/-- The errors that stores answer with, where they are presumed to, are allowed. -/
def Tolerates (presumed : (request : Request) → request.Answer → Prop)
    (allowed : Failure → Prop) : Prop :=
  ∀ request answer error, presumed request answer → request.error? answer = some error →
    allowed (.refused error)

/-- Where no store fails, there are none. -/
theorem tolerates_settledAt (moment : Instant) (gate : LicenseGate) (allowed : Failure → Prop) :
    Tolerates (Request.SettledAt moment gate) allowed := by
  intro request answer error answered failed
  have settled : request.error? answer = none := answered.1
  rw [settled] at failed
  cases failed

namespace FailsOnly

variable {presumed : (request : Request) → request.Answer → Prop} {allowed : Failure → Prop}

theorem pure (value : α) : FailsOnly presumed allowed (Pure.pure value : Operation α) :=
  .succeeds value

theorem refuse {error : AuthError} (fits : allowed (.refused error)) :
    FailsOnly presumed allowed (Operation.refuse error : Operation α) :=
  .fails _ fits

theorem done {result : Except Failure α}
    (fits : ∀ failure, result = .error failure → allowed failure) :
    FailsOnly presumed allowed (.done result) := by
  rcases result with failure | value
  · exact .fails _ (fits failure rfl)
  · exact .succeeds value

theorem ofResult {result : Except AuthError α}
    (fits : ∀ error, result = .error error → allowed (.refused error)) :
    FailsOnly presumed allowed (Operation.ofResult result) := by
  rcases result with error | value
  · exact .fails _ (fits error rfl)
  · exact .succeeds value

/-- An instant that can be moved by a duration. -/
theorem later {moment end_ : Instant} {duration : Duration}
    (inRange : moment.add? duration = some end_) :
    FailsOnly presumed allowed (Operation.later moment duration) := by
  simp only [Operation.later, Failure.later, inRange]
  exact .succeeds end_

theorem bind {first : Operation α} {rest : α → Operation β}
    (begins : FailsOnly presumed allowed first)
    (goesOn : ∀ value, FailsOnly presumed allowed (rest value)) :
    FailsOnly presumed allowed (first >>= rest) := by
  induction begins with
  | succeeds value => exact goesOn value
  | fails failure fits => exact .fails failure fits
  | ask request next _ ih => exact .ask request _ ih

theorem ite {condition : Prop} [Decidable condition] {first second : Operation α}
    (yes : condition → FailsOnly presumed allowed first)
    (no : ¬ condition → FailsOnly presumed allowed second) :
    FailsOnly presumed allowed (if condition then first else second) := by
  split
  · next holds => exact yes holds
  · next fails => exact no fails

theorem onRefusal {operation : Operation α} {handle : AuthError → Operation α}
    (begins : FailsOnly presumed allowed operation)
    (handled : ∀ error, allowed (.refused error) → FailsOnly presumed allowed (handle error)) :
    FailsOnly presumed allowed (operation.onRefusal handle) := by
  induction begins with
  | succeeds value => exact .succeeds value
  | fails failure fits =>
    rcases failure with error | _
    · exact handled error fits
    · exact .fails _ fits
  | ask request next _ ih => exact .ask request _ ih

/-- **A run fails only as it may.** -/
theorem run {σ : Type} [RecordStore σ] {operation : Operation α}
    (only : FailsOnly presumed allowed operation) {state : State σ}
    (meets : operation.Meets presumed state) :
    ∀ failure, (operation.run state).1 = .error failure → allowed failure := by
  induction only generalizing state with
  | succeeds value => exact fun _ failed => nomatch failed
  | fails failure fits =>
    intro other failed
    cases failed
    exact fits
  | ask request next _ ih => exact ih _ meets.of_ask.1 meets.of_ask.2

/-! ### Requests -/

/-- A request whose answer is the result, if the errors of the store are allowed. -/
theorem request {request : Request} {next : request.Answer → Except AuthError α}
    (tolerates : Tolerates presumed allowed)
    (faithful : ∀ answer error, next answer = .error error →
      request.error? answer = some error) :
    FailsOnly presumed allowed (.ask request fun answer => Operation.ofResult (next answer)) :=
  .ask request _ fun answer answered => .ofResult fun error failed =>
    tolerates request answer error answered (faithful answer error failed)

section Stores

variable (tolerates : Tolerates presumed allowed)
include tolerates

theorem device (deviceId : String) : FailsOnly presumed allowed (Operation.device deviceId) :=
  request tolerates fun _ _ => Request.errorOf?_of_eq_error

theorem addChallenge (added : Challenge) :
    FailsOnly presumed allowed (Operation.addChallenge added) :=
  request tolerates fun _ _ => Request.errorOf?_of_eq_error

theorem challenge (challengeId : String) :
    FailsOnly presumed allowed (Operation.challenge challengeId) :=
  request tolerates fun _ _ => Request.errorOf?_of_eq_error

theorem spendChallenge (challengeId : String) :
    FailsOnly presumed allowed (Operation.spendChallenge challengeId) :=
  request tolerates fun _ _ => Request.errorOf?_of_eq_error

theorem addSession (added : Session) :
    FailsOnly presumed allowed (Operation.addSession added) :=
  request tolerates fun _ _ => Request.errorOf?_of_eq_error

theorem session (sessionId : String) :
    FailsOnly presumed allowed (Operation.session sessionId) :=
  request tolerates fun _ _ => Request.errorOf?_of_eq_error

theorem noteUse (sessionId : String) (usedAt : Instant) :
    FailsOnly presumed allowed (Operation.noteUse sessionId usedAt) :=
  request tolerates fun _ _ => Request.errorOf?_of_eq_error

theorem prolongSession (sessionId : String) (expiresAt : Instant) (token : String) :
    FailsOnly presumed allowed (Operation.prolongSession sessionId expiresAt token) :=
  request tolerates fun _ _ => Request.errorOf?_of_eq_error

theorem liveDevices (moment : Instant) :
    FailsOnly presumed allowed (Operation.liveDevices moment) :=
  request tolerates fun _ _ => Request.errorOf?_of_eq_error

end Stores

theorem failures (deviceId : String) :
    FailsOnly presumed allowed (Operation.failures deviceId) :=
  .ask _ _ fun _ _ => .succeeds _

theorem forgetFailures (deviceId : String) :
    FailsOnly presumed allowed (Operation.forgetFailures deviceId) :=
  .ask _ _ fun _ _ => .succeeds ()

theorem countFailure (deviceId : String) :
    FailsOnly presumed allowed (Operation.countFailure deviceId) :=
  .ask _ _ fun count _ => .succeeds count

theorem knows (deviceId : String) : FailsOnly presumed allowed (Operation.knows deviceId) := by
  refine .ask _ _ fun found _ => ?_
  rcases found with _ | _ | _ <;> exact .succeeds _

/-- Reading the clock. -/
theorem now_bind {moment : Instant} {rest : Instant → Operation α}
    (shows : ∀ answer, presumed .now answer → answer = moment)
    (goesOn : FailsOnly presumed allowed (rest moment)) :
    FailsOnly presumed allowed (Operation.now >>= rest) :=
  .ask _ _ fun answer answered => by
    obtain rfl := shows answer answered
    exact goesOn

/-- Reading the license gate. -/
theorem license_bind {gate : LicenseGate} {rest : LicenseGate → Operation α}
    (shows : ∀ answer, presumed .license answer → answer = gate)
    (goesOn : FailsOnly presumed allowed (rest gate)) :
    FailsOnly presumed allowed (Operation.license >>= rest) :=
  .ask _ _ fun answer answered => by
    obtain rfl := shows answer answered
    exact goesOn

end FailsOnly

end Operation

end DeviceAuth
