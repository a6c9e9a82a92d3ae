import DeviceAuth.Auth.Operation
import DeviceAuth.Auth.Token

/-!
**The life of a session.** The record in the store decides: a token counts only while the record of
its session is there and has not expired, so ending a session is removing its record.
-/

namespace DeviceAuth

/-- How sessions are opened and extended. -/
structure SessionPolicy where
  /-- What the tags of tokens are made with. -/
  tokenKey : TokenKey
  /-- How long a session lives after it was opened or extended. -/
  lifetime : Duration

namespace SessionPolicy

open Operation

/-- The token of a session, issued and expiring at these instants. -/
def tokenFor (policy : SessionPolicy) (deviceId sessionId : String) (issued expires : Instant) :
    String :=
  policy.tokenKey.sign (.make deviceId sessionId issued expires)

/-- Opens a session with a given id. -/
def create (policy : SessionPolicy) (sessionId deviceId : String) : Operation Session := do
  let now ← Operation.now
  let expiresAt ← later now policy.lifetime
  let session : Session := {
    sessionId
    deviceId
    token := policy.tokenFor deviceId sessionId now expiresAt
    createdAt := now
    expiresAt
    lastUsedAt := now }
  addSession session
  return session

/-- The claims of a token and its session, which must be live and belong to the same device. -/
def recognize (policy : SessionPolicy) (token : String) (now : Instant) :
    Operation (TokenClaims × Session) := do
  let claims ← ofResult (policy.tokenKey.verify token)
  match ← Operation.session claims.sessionId with
  | none => refuse (.sessionNotFound claims.sessionId)
  | some session =>
    if session.hasExpired now then refuse (.sessionExpired session.sessionId)
    else if session.deviceId ≠ claims.deviceId then
      refuse (.invalidToken "token device does not match session")
    else
      ofResult (claims.checkPeriod now)
      return (claims, session)

/-- Checks a token and records the use of its session. -/
def accept (policy : SessionPolicy) (token : String) : Operation TokenClaims := do
  let now ← Operation.now
  let (claims, _) ← policy.recognize token now
  if ← noteUse claims.sessionId now then return claims
  else refuse (.sessionNotFound claims.sessionId)

/-- Extends a session and replaces its token. -/
def extend (policy : SessionPolicy) (token : String) : Operation Session := do
  let now ← Operation.now
  let (claims, session) ← policy.recognize token now
  let expiresAt ← later now policy.lifetime
  let renewed := policy.tokenFor session.deviceId session.sessionId now expiresAt
  if ← prolongSession session.sessionId expiresAt renewed then
    let _ ← noteUse session.sessionId now
    return { session with expiresAt, token := renewed, lastUsedAt := now }
  else refuse (.sessionNotFound claims.sessionId)

/-- Ends a session. -/
def close (sessionId : String) : Operation Unit := do
  if ← removeSession sessionId then return ()
  else refuse (.sessionNotFound sessionId)

/-- The devices that hold a session now. -/
def liveNow : Operation (List String) := do
  liveDevices (← Operation.now)

end SessionPolicy

end DeviceAuth
