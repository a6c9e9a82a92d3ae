import DeviceAuth.Auth.Store
import DeviceAuth.Dictionary

/-!
**The store in memory.** Records are kept as they are, with all of their nanoseconds.
-/

namespace DeviceAuth

/-- Records by id. -/
structure MemoryStore where
  devices : Dictionary Credential
  challenges : Dictionary Challenge
  sessions : Dictionary Session

namespace MemoryStore

/-- The store without records. -/
def empty : MemoryStore := ⟨[], [], []⟩

/-- Enrolls a device whose id is encodable. -/
def enroll (device : Credential) (store : MemoryStore) : Except AuthError MemoryStore := do
  let _ ← AuthError.liftZkp (DeviceId.encode device.deviceId)
  return { store with devices := store.devices.put device.deviceId device }

/-- Adds a challenge whose id is new. -/
def addChallenge (challenge : Challenge) (store : MemoryStore) : Except AuthError MemoryStore :=
  match store.challenges.get? challenge.challengeId with
  | some _ => .error (.storage ("duplicate challenge id " ++ challenge.challengeId))
  | none =>
    .ok { store with challenges := store.challenges.put challenge.challengeId challenge }

/-- Marks a challenge as used, if it was not. -/
def spendChallenge (challengeId : String) (store : MemoryStore) : Bool × MemoryStore :=
  match store.challenges.get? challengeId with
  | some challenge =>
    if challenge.used then (false, store)
    else
      (true, { store with challenges := store.challenges.update challengeId fun challenge =>
        { challenge with used := true } })
  | none => (false, store)

/-- The entries that have not expired, and the count of those that have. -/
def dropExpired {α : Type} (hasExpired : α → Bool) (entries : Dictionary α) :
    Nat × Dictionary α :=
  let kept := entries.filter fun entry => !hasExpired entry.2
  (entries.length - kept.length, kept)

/-- Changes a session, if it is there. -/
def updateSession (sessionId : String) (change : Session → Session) (store : MemoryStore) :
    Bool × MemoryStore :=
  match store.sessions.get? sessionId with
  | some _ => (true, { store with sessions := store.sessions.update sessionId change })
  | none => (false, store)

/-- Removes a session, if it is there. -/
def removeSession (sessionId : String) (store : MemoryStore) : Bool × MemoryStore :=
  match store.sessions.get? sessionId with
  | some _ => (true, { store with sessions := store.sessions.erase sessionId })
  | none => (false, store)

/-- The devices of the sessions that have not expired. -/
def liveDevices (now : Instant) (store : MemoryStore) : List String :=
  ((store.sessions.values.filter fun session => !session.hasExpired now).map
    Session.deviceId).eraseDups

end MemoryStore

instance : RecordStore MemoryStore where
  device deviceId store := .ok (store.devices.get? deviceId)
  enroll := MemoryStore.enroll
  addChallenge := MemoryStore.addChallenge
  challenge challengeId store := .ok (store.challenges.get? challengeId)
  spendChallenge challengeId store := .ok (store.spendChallenge challengeId)
  dropChallenges now store :=
    let (count, kept) := MemoryStore.dropExpired (fun challenge => challenge.hasExpired now)
      store.challenges
    .ok (count, { store with challenges := kept })
  addSession session store :=
    .ok { store with sessions := store.sessions.put session.sessionId session }
  session sessionId store := .ok (store.sessions.get? sessionId)
  noteUse sessionId usedAt store :=
    .ok (store.updateSession sessionId fun session => { session with lastUsedAt := usedAt })
  prolongSession sessionId expiresAt token store :=
    .ok (store.updateSession sessionId fun session => { session with expiresAt, token })
  removeSession sessionId store := .ok (store.removeSession sessionId)
  dropSessions now store :=
    let (count, kept) := MemoryStore.dropExpired (fun session => session.hasExpired now)
      store.sessions
    .ok (count, { store with sessions := kept })
  liveDevices now store := .ok (store.liveDevices now)

end DeviceAuth
