import DeviceAuth.Auth.Message
import DeviceAuth.Auth.SessionPolicy
import DeviceAuth.Zkp.Checker

/-!
**The authentication service.** A device asks for a challenge, proves that it knows its secret, and
gets a session. A challenge is used up by the proof that verifies and by nothing else. Every failed
verification counts against the device it names, if that device is enrolled.

What is random, ids and nonces, is given to the operations.
-/

namespace DeviceAuth

/-- The fixed parts of a service. -/
structure Service where
  checker : ProofChecker
  sessions : SessionPolicy
  /-- How long a challenge lives. -/
  challengeLifetime : Duration
  /-- After how many failures in a row a device gets no more challenges. -/
  failureLimit : UInt32

namespace Service

open Operation

/-- The credential of a device that may authenticate. -/
def credentialOf (deviceId : String) : Operation Credential := do
  match ← device deviceId with
  | some credential =>
    if credential.isActive then return credential else refuse (.deviceNotFound deviceId)
  | none => refuse (.deviceNotFound deviceId)

/-- Refuses a device without session when as many others as the license allows hold one. -/
def checkQuota (deviceId : String) (maxDevices : UInt32) : Operation Unit := do
  if maxDevices = 0 then return ()
  else
    let live ← SessionPolicy.liveNow
    if ¬ live.contains deviceId ∧ maxDevices.toNat ≤ live.length then
      refuse (.licenseDenied ("license allows " ++ toString maxDevices.toNat
        ++ " concurrently authenticated devices"))
    else return ()

/-- Refuses what the license does not cover. -/
def checkLicense (deviceId : String) : Operation Unit := do
  let gate ← license
  if gate.isEnabled then
    let now ← Operation.now
    done (gate.check now)
    checkQuota deviceId gate.maxDevices
  else return ()

/-- Issues a challenge with a given id and nonce. -/
def issueChallenge (service : Service) (challengeId : String) (nonce : Word256)
    (deviceId : String) : Operation Challenge := do
  let _ ← credentialOf deviceId
  let failures ← Operation.failures deviceId
  if service.failureLimit ≤ failures then refuse (.lockedOut deviceId failures)
  else
    checkLicense deviceId
    let now ← Operation.now
    let expiresAt ← later now service.challengeLifetime
    let challenge : Challenge :=
      { challengeId, deviceId, nonce, createdAt := now, expiresAt, used := false }
    addChallenge challenge
    return challenge

/-- The challenge with an id, which must be live and unused. -/
def openChallenge (challengeId : String) (now : Instant) : Operation Challenge := do
  match ← Operation.challenge challengeId with
  | none => refuse (.challengeNotFound challengeId)
  | some challenge =>
    if challenge.hasExpired now then refuse (.challengeExpired challengeId)
    else if challenge.used then refuse (.challengeAlreadyUsed challengeId)
    else return challenge

/-- Refuses public values that are not those of the challenge and the device. -/
def checkValues (challenge : Challenge) (device : Credential) (values : PublicValues) :
    Except AuthError Unit :=
  if challenge.deviceId ≠ device.deviceId then
    .error (.witnessMismatch "challenge was issued to another device")
  else do
    let encoded ← AuthError.liftZkp (DeviceId.encode device.deviceId)
    if values.deviceId ≠ encoded then .error (.witnessMismatch "device_id")
    else if values.challenge ≠ challenge.nonce then .error (.witnessMismatch "challenge")
    else if values.commitment ≠ device.commitment then .error (.witnessMismatch "commitment")
    else .ok ()

/-- Checks a proof for a challenge, uses the challenge up, and opens a session with a given id. -/
def attempt (service : Service) (sessionId deviceId challengeId : String) (proof : Bytes)
    (values : PublicValues) : Operation Session := do
  let now ← Operation.now
  let challenge ← openChallenge challengeId now
  let device ← credentialOf deviceId
  ofResult (checkValues challenge device values)
  if ← ofResult (AuthError.liftZkp (service.checker.check proof values)) then
    if ← spendChallenge challengeId then
      forgetFailures deviceId
      service.sessions.create sessionId device.deviceId
    else refuse (.challengeAlreadyUsed challengeId)
  else refuse .invalidProof

/-- Counts a failed verification against an enrolled device, if its cause counts, and ends with the
cause. -/
def holdAgainst (deviceId : String) (error : AuthError) : Operation Session := do
  if DeviceId.encodable deviceId then
    if ← knows deviceId then
      if error.countsAgainstDevice then
        let _ ← countFailure deviceId
        refuse error
      else refuse error
    else refuse error
  else refuse error

/-- Verifies a proof and opens a session. -/
def submitProof (service : Service) (sessionId deviceId challengeId : String) (proof : Bytes)
    (values : PublicValues) : Operation Session :=
  (service.attempt sessionId deviceId challengeId proof values).onRefusal
    (holdAgainst deviceId)

/-- Decodes the proof of a request and verifies it. -/
def submit (service : Service) (sessionId : String) (request : ProofSubmission) :
    Operation Session :=
  match request.proof.decodedProof with
  | .ok proof =>
    service.submitProof sessionId request.deviceId request.challengeId proof
      request.proof.publicValues
  | .error error => holdAgainst request.deviceId (.ofZkp error)

/-- Checks a token and records the use of its session. -/
def acceptToken (service : Service) (token : String) : Operation TokenClaims :=
  service.sessions.accept token

/-- Extends a session and replaces its token. -/
def extendSession (service : Service) (token : String) : Operation Session :=
  service.sessions.extend token

/-- Ends a session. -/
def endSession (sessionId : String) : Operation Unit :=
  SessionPolicy.close sessionId

/-- Ends the session of a token. -/
def endByToken (service : Service) (token : String) : Operation TokenClaims := do
  let claims ← service.acceptToken token
  endSession claims.sessionId
  return claims

/-- Removes expired challenges and sessions, and counts them. -/
def removeExpired : Operation (Nat × Nat) := do
  let now ← Operation.now
  let challenges ← dropChallenges now
  let sessions ← dropSessions now
  return (challenges, sessions)

/-! ### Settings -/

/-- A lifetime of so many seconds, which must be positive and a signed word. -/
def lifetime (seconds : UInt64) (name : String) : Except Failure Duration :=
  if 0 < seconds.toNat ∧ seconds.toNat < Nat.pow 2 63 then Failure.duration seconds.toNat
  else .error (.refused (.config (name ++ " must be a positive number of seconds")))

/-- The token secret that settings ask for, unless one is given; `material` is used if it has to be
drawn at random. -/
def chooseSecret (settings : AuthSettings) (given : Option TokenSecret) (material : Bytes) :
    Except AuthError TokenSecret :=
  match given, settings.tokenSecret with
  | some secret, _ => .ok secret
  | none, some text => .ok (.configured (Bytes.ofText text))
  | none, none =>
    if settings.allowEphemeralSecret then .ok (.ephemeral material)
    else
      .error (.config "no token secret configured and ephemeral secrets are not allowed")

/-- The service with these settings. -/
def ofSettings (checker : ProofChecker) (settings : AuthSettings) (given : Option TokenSecret)
    (material : Bytes) : Except Failure Service := do
  let challengeLifetime ← lifetime settings.challengeLifetime "challenge_ttl_secs"
  let lifetime ← lifetime settings.sessionLifetime "session_ttl_secs"
  if settings.failureLimit = 0 then
    .error (.refused (.config "max_retry must be greater than 0"))
  else
    let secret ← Failure.lift (chooseSecret settings given material)
    return {
      checker
      sessions := ⟨.ofSecret secret, lifetime⟩
      challengeLifetime
      failureLimit := settings.failureLimit }

end Service

end DeviceAuth
