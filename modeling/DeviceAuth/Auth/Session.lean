import DeviceAuth.Auth.Challenge

/-!
**Sessions.** A session is opened by a successful verification and carries the latest token issued
for it.
-/

namespace DeviceAuth

/-- The session of an authenticated device. -/
structure Session where
  sessionId : String
  deviceId : String
  token : String
  createdAt : Instant
  expiresAt : Instant
  lastUsedAt : Instant
  deriving DecidableEq

namespace Session

/-- Whether a session has expired; at its very end it has not. -/
def hasExpired (session : Session) (now : Instant) : Bool :=
  session.expiresAt < now

/-- A session as a JSON value. -/
def toJson (session : Session) : Json :=
  Json.ofMembers [
    ("session_id", Json.ofText session.sessionId),
    ("device_id", Json.ofText session.deviceId),
    ("token", Json.ofText session.token),
    ("created_at", session.createdAt.toJson),
    ("expires_at", session.expiresAt.toJson),
    ("last_used_at", session.lastUsedAt.toJson)]

/-- The session of a JSON value. -/
def ofJson? (value : Json) : Option Session := do
  match ← value.fields?
      ["session_id", "device_id", "token", "created_at", "expires_at", "last_used_at"] with
  | [sessionId, deviceId, token, createdAt, expiresAt, lastUsedAt] =>
    return {
      sessionId := ← Json.required? Json.text? sessionId
      deviceId := ← Json.required? Json.text? deviceId
      token := ← Json.required? Json.text? token
      createdAt := ← Json.required? Instant.ofJson? createdAt
      expiresAt := ← Json.required? Instant.ofJson? expiresAt
      lastUsedAt := ← Json.required? Instant.ofJson? lastUsedAt }
  | _ => none

end Session

end DeviceAuth
