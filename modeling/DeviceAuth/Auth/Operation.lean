import DeviceAuth.Auth.LicenseGate
import DeviceAuth.Auth.FailureCounters
import DeviceAuth.Auth.Store

/-!
**Operations as trees of requests.** What the service does is written once, as a tree: each node is
one request to a store, the counters, the gate or the clock, and the rest of the operation depends
on the answer. `run` performs all requests of an operation in one go, `step` performs the first one
only, so that the requests of several operations can be interleaved.

Main statement: two operations in a row run one after the other (`run_andThen`).
-/

namespace DeviceAuth

/-- One atomic request. -/
inductive Request where
  /-- Reads the clock. -/
  | now
  | device (deviceId : String)
  | enroll (device : Credential)
  | addChallenge (challenge : Challenge)
  | challenge (challengeId : String)
  | spendChallenge (challengeId : String)
  | dropChallenges (now : Instant)
  | addSession (session : Session)
  | session (sessionId : String)
  | noteUse (sessionId : String) (usedAt : Instant)
  | prolongSession (sessionId : String) (expiresAt : Instant) (token : String)
  | removeSession (sessionId : String)
  | dropSessions (now : Instant)
  | liveDevices (now : Instant)
  | failures (deviceId : String)
  | countFailure (deviceId : String)
  | forgetFailures (deviceId : String)
  /-- Reads the license gate. -/
  | license

/-- What a request is answered with; stores may answer with an error. -/
abbrev Request.Answer : Request → Type
  | now => Instant
  | device _ => Except AuthError (Option Credential)
  | enroll _ => Except AuthError Unit
  | addChallenge _ => Except AuthError Unit
  | challenge _ => Except AuthError (Option Challenge)
  | spendChallenge _ => Except AuthError Bool
  | dropChallenges _ => Except AuthError Nat
  | addSession _ => Except AuthError Unit
  | session _ => Except AuthError (Option Session)
  | noteUse _ _ => Except AuthError Bool
  | prolongSession _ _ _ => Except AuthError Bool
  | removeSession _ => Except AuthError Bool
  | dropSessions _ => Except AuthError Nat
  | liveDevices _ => Except AuthError (List String)
  | failures _ => UInt32
  | countFailure _ => UInt32
  | forgetFailures _ => Unit
  | license => LicenseGate

/-- All that requests read and change. -/
structure State (σ : Type) where
  store : σ
  counters : FailureCounters
  license : LicenseGate
  now : Instant

namespace State

variable {σ : Type}

/-- The answer of the store and the state after a change, which an error does not make. -/
def change {α : Type} (state : State σ) (result : Except AuthError (α × σ)) :
    Except AuthError α × State σ :=
  match result with
  | .ok (answer, store) => (.ok answer, { state with store })
  | .error error => (.error error, state)

/-- The state after a change of the store that has no other answer. -/
def write (state : State σ) (result : Except AuthError σ) : Except AuthError Unit × State σ :=
  state.change (result.map fun store => ((), store))

end State

/-- The answer to a request, and the state after it. -/
def Request.perform {σ : Type} [RecordStore σ] (state : State σ) :
    (request : Request) → request.Answer × State σ
  | now => (state.now, state)
  | device deviceId => (RecordStore.device deviceId state.store, state)
  | enroll credential => state.write (RecordStore.enroll credential state.store)
  | addChallenge added => state.write (RecordStore.addChallenge added state.store)
  | challenge challengeId => (RecordStore.challenge challengeId state.store, state)
  | spendChallenge challengeId => state.change (RecordStore.spendChallenge challengeId state.store)
  | dropChallenges moment => state.change (RecordStore.dropChallenges moment state.store)
  | addSession added => state.write (RecordStore.addSession added state.store)
  | session sessionId => (RecordStore.session sessionId state.store, state)
  | noteUse sessionId usedAt =>
    state.change (RecordStore.noteUse sessionId usedAt state.store)
  | prolongSession sessionId expiresAt token =>
    state.change (RecordStore.prolongSession sessionId expiresAt token state.store)
  | removeSession sessionId => state.change (RecordStore.removeSession sessionId state.store)
  | dropSessions moment => state.change (RecordStore.dropSessions moment state.store)
  | liveDevices moment => (RecordStore.liveDevices moment state.store, state)
  | failures deviceId => (state.counters.count deviceId, state)
  | countFailure deviceId =>
    let (count, counters) := state.counters.countFailure deviceId
    (count, { state with counters })
  | forgetFailures deviceId => ((), { state with counters := state.counters.forget deviceId })
  | license => (state.license, state)

/-- A program over requests that ends with a value or a failure. -/
inductive Operation (α : Type) where
  | done (result : Except Failure α)
  | ask (request : Request) (next : request.Answer → Operation α)

namespace Operation

variable {α β : Type}

/-- Continues with the value of an operation; a failure ends both. -/
def andThen (first : Operation α) (rest : α → Operation β) : Operation β :=
  match first with
  | done (.ok value) => rest value
  | done (.error failure) => done (.error failure)
  | ask request next => ask request fun answer => andThen (next answer) rest

instance : Monad Operation where
  pure value := done (.ok value)
  bind := andThen

/-- Ends with an error. -/
def refuse (error : AuthError) : Operation α :=
  done (.error (.refused error))

/-- Ends with an error, or goes on with a value. -/
def ofResult (result : Except AuthError α) : Operation α :=
  done (Failure.lift result)

/-- Replaces an operation's error, by way of another operation; an overflow is not replaced. -/
def onRefusal (operation : Operation α) (handle : AuthError → Operation α) : Operation α :=
  match operation with
  | done (.error (.refused error)) => handle error
  | done result => done result
  | ask request next => ask request fun answer => onRefusal (next answer) handle

/-- The result of an operation as a value, so that nothing fails. -/
def outcome (operation : Operation α) : Operation (Except Failure α) :=
  match operation with
  | done result => done (.ok result)
  | ask request next => ask request fun answer => outcome (next answer)

/-! ### The requests as operations -/

/-- The clock. -/
def now : Operation Instant :=
  ask .now pure

/-- The credential of a device. -/
def device (deviceId : String) : Operation (Option Credential) :=
  ask (.device deviceId) ofResult

/-- Whether the store knows a device; a store that fails does not. -/
def knows (deviceId : String) : Operation Bool :=
  ask (.device deviceId) fun answer =>
    match answer with
    | .ok (some _) => pure true
    | _ => pure false

/-- Enrolls a device. -/
def enroll (device : Credential) : Operation Unit :=
  ask (.enroll device) ofResult

/-- Adds a challenge. -/
def addChallenge (challenge : Challenge) : Operation Unit :=
  ask (.addChallenge challenge) ofResult

/-- The challenge with an id. -/
def challenge (challengeId : String) : Operation (Option Challenge) :=
  ask (.challenge challengeId) ofResult

/-- Marks a challenge as used. -/
def spendChallenge (challengeId : String) : Operation Bool :=
  ask (.spendChallenge challengeId) ofResult

/-- Removes expired challenges. -/
def dropChallenges (now : Instant) : Operation Nat :=
  ask (.dropChallenges now) ofResult

/-- Adds a session. -/
def addSession (session : Session) : Operation Unit :=
  ask (.addSession session) ofResult

/-- The session with an id. -/
def session (sessionId : String) : Operation (Option Session) :=
  ask (.session sessionId) ofResult

/-- Records the use of a session. -/
def noteUse (sessionId : String) (usedAt : Instant) : Operation Bool :=
  ask (.noteUse sessionId usedAt) ofResult

/-- Extends a session. -/
def prolongSession (sessionId : String) (expiresAt : Instant) (token : String) : Operation Bool :=
  ask (.prolongSession sessionId expiresAt token) ofResult

/-- Removes a session. -/
def removeSession (sessionId : String) : Operation Bool :=
  ask (.removeSession sessionId) ofResult

/-- Removes expired sessions. -/
def dropSessions (now : Instant) : Operation Nat :=
  ask (.dropSessions now) ofResult

/-- The devices that hold a session. -/
def liveDevices (now : Instant) : Operation (List String) :=
  ask (.liveDevices now) ofResult

/-- How often a device has failed in a row. -/
def failures (deviceId : String) : Operation UInt32 :=
  ask (.failures deviceId) pure

/-- Counts a failure of a device. -/
def countFailure (deviceId : String) : Operation UInt32 :=
  ask (.countFailure deviceId) pure

/-- Forgets the failures of a device. -/
def forgetFailures (deviceId : String) : Operation Unit :=
  ask (.forgetFailures deviceId) pure

/-- The license gate. -/
def license : Operation LicenseGate :=
  ask .license pure

/-- The instant a duration later. -/
def later (instant : Instant) (duration : Duration) : Operation Instant :=
  done (Failure.later instant duration)

/-! ### Running -/

variable {σ : Type} [RecordStore σ]

/-- Performs all requests of an operation. -/
def run : Operation α → State σ → Except Failure α × State σ
  | done result, state => (result, state)
  | ask request next, state =>
    let (answer, after) := request.perform state
    run (next answer) after

/-- Performs the first request of an operation, if it has one. -/
def step : Operation α → State σ → Operation α × State σ
  | done result, state => (done result, state)
  | ask request next, state =>
    let (answer, after) := request.perform state
    (next answer, after)

@[simp] theorem run_done (result : Except Failure α) (state : State σ) :
    (done result).run state = (result, state) := rfl

@[simp] theorem run_ask (request : Request) (next : request.Answer → Operation α)
    (state : State σ) :
    (ask request next).run state
      = (next (request.perform state).1).run (request.perform state).2 := rfl

/-- Two operations in a row run one after the other. -/
theorem run_andThen (first : Operation α) (rest : α → Operation β) (state : State σ) :
    (first.andThen rest).run state =
      match first.run state with
      | (.ok value, after) => (rest value).run after
      | (.error failure, after) => (.error failure, after) := by
  induction first generalizing state with
  | done result => cases result <;> rfl
  | ask request next ih => simp only [andThen, run_ask, ih]

end Operation

end DeviceAuth
