import DeviceAuth.Auth.Credential
import DeviceAuth.Auth.Session

/-!
**Stores of records.** A store keeps devices, challenges and sessions. Each operation is one atomic
step; those that change something give the store after the change.
-/

namespace DeviceAuth

/-- What a store of records can do. -/
class RecordStore (σ : Type) where
  /-- The credential of a device. -/
  device : String → σ → Except AuthError (Option Credential)
  /-- Enrolls a device or replaces its credential; the id must be encodable. -/
  enroll : Credential → σ → Except AuthError σ
  /-- Adds a challenge whose id is new. -/
  addChallenge : Challenge → σ → Except AuthError σ
  /-- The challenge with an id. -/
  challenge : String → σ → Except AuthError (Option Challenge)
  /-- Marks a challenge as used; true only if it was there and had not been used. -/
  spendChallenge : String → σ → Except AuthError (Bool × σ)
  /-- Removes the challenges that have expired and counts them. -/
  dropChallenges : Instant → σ → Except AuthError (Nat × σ)
  /-- Adds a session. -/
  addSession : Session → σ → Except AuthError σ
  /-- The session with an id. -/
  session : String → σ → Except AuthError (Option Session)
  /-- Records when a session was last used; false if it is gone. -/
  noteUse : String → Instant → σ → Except AuthError (Bool × σ)
  /-- Gives a session a new expiry and token; false if it is gone. -/
  prolongSession : String → Instant → String → σ → Except AuthError (Bool × σ)
  /-- Removes a session; false if it is gone. -/
  removeSession : String → σ → Except AuthError (Bool × σ)
  /-- Removes the sessions that have expired and counts them. -/
  dropSessions : Instant → σ → Except AuthError (Nat × σ)
  /-- The devices that hold a session at an instant, each once. -/
  liveDevices : Instant → σ → Except AuthError (List String)

end DeviceAuth
