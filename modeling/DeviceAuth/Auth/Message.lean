import DeviceAuth.Auth.Session

/-!
**Messages** between devices and the service, and their JSON forms. A device asks for a challenge,
gets an offer, submits a proof and gets a notice about its session. Fields of a notice that are
absent are left out when it is written.
-/

namespace DeviceAuth

/-- Asks for a challenge. -/
structure ChallengeRequest where
  deviceId : String
  deriving DecidableEq

namespace ChallengeRequest

/-- A request as a JSON value. -/
def toJson (request : ChallengeRequest) : Json :=
  Json.ofMembers [("device_id", Json.ofText request.deviceId)]

/-- The request of a JSON value. -/
def ofJson? (value : Json) : Option ChallengeRequest := do
  match ← value.fields? ["device_id"] with
  | [deviceId] => return ⟨← Json.required? Json.text? deviceId⟩
  | _ => none

end ChallengeRequest

/-- What a device is told of its challenge. -/
structure ChallengeOffer where
  challengeId : String
  nonce : Word256
  expiresAt : Instant
  deriving DecidableEq

namespace ChallengeOffer

/-- The offer of a challenge. -/
def ofChallenge (challenge : Challenge) : ChallengeOffer :=
  ⟨challenge.challengeId, challenge.nonce, challenge.expiresAt⟩

/-- An offer as a JSON value. -/
def toJson (offer : ChallengeOffer) : Json :=
  Json.ofMembers [
    ("challenge_id", Json.ofText offer.challengeId),
    ("nonce", offer.nonce.toJson),
    ("expires_at", offer.expiresAt.toJson)]

/-- The offer of a JSON value. -/
def ofJson? (value : Json) : Option ChallengeOffer := do
  match ← value.fields? ["challenge_id", "nonce", "expires_at"] with
  | [challengeId, nonce, expiresAt] =>
    return ⟨← Json.required? Json.text? challengeId, ← Json.required? Word256.ofJson? nonce,
      ← Json.required? Instant.ofJson? expiresAt⟩
  | _ => none

end ChallengeOffer

/-- Submits a proof for a challenge. -/
structure ProofSubmission where
  deviceId : String
  challengeId : String
  proof : ProofDocument
  deriving DecidableEq

namespace ProofSubmission

/-- A submission as a JSON value. -/
def toJson (submission : ProofSubmission) : Json :=
  Json.ofMembers [
    ("device_id", Json.ofText submission.deviceId),
    ("challenge_id", Json.ofText submission.challengeId),
    ("proof", submission.proof.toJson)]

/-- The submission of a JSON value. -/
def ofJson? (value : Json) : Option ProofSubmission := do
  match ← value.fields? ["device_id", "challenge_id", "proof"] with
  | [deviceId, challengeId, proof] =>
    return ⟨← Json.required? Json.text? deviceId, ← Json.required? Json.text? challengeId,
      ← Json.required? ProofDocument.ofJson? proof⟩
  | _ => none

end ProofSubmission

/-- The answer of every endpoint that opens, extends or ends a session. -/
structure SessionNotice where
  success : Bool
  sessionId : Option String
  token : Option String
  expiresAt : Option Instant
  message : Option String
  deriving DecidableEq

namespace SessionNotice

/-- The notice that a request is refused. -/
def failure (message : String) : SessionNotice :=
  { success := false, sessionId := none, token := none, expiresAt := none, message := some message }

/-- The notice that hands out a session. -/
def ofSession (session : Session) : SessionNotice :=
  { success := true
    sessionId := some session.sessionId
    token := some session.token
    expiresAt := some session.expiresAt
    message := none }

/-- The notice that a session has ended. -/
def ended (sessionId : String) : SessionNotice :=
  { success := true, sessionId := some sessionId, token := none, expiresAt := none,
    message := none }

/-- A member for a value that is present. -/
def optionalMember {α : Type} (name : String) (write : α → Json) :
    Option α → List (String × Json)
  | some value => [(name, write value)]
  | none => []

/-- A notice as a JSON value. -/
def toJson (notice : SessionNotice) : Json :=
  Json.ofMembers (
    [("success", .boolean notice.success)]
      ++ optionalMember "session_id" Json.ofText notice.sessionId
      ++ optionalMember "token" Json.ofText notice.token
      ++ optionalMember "expires_at" Instant.toJson notice.expiresAt
      ++ optionalMember "message" Json.ofText notice.message)

/-- The notice of a JSON value. -/
def ofJson? (value : Json) : Option SessionNotice := do
  match ← value.fields? ["success", "session_id", "token", "expires_at", "message"] with
  | [success, sessionId, token, expiresAt, message] =>
    return {
      success := ← Json.required? Json.boolean? success
      sessionId := ← Json.defaulted? none (Json.nullable? Json.text?) sessionId
      token := ← Json.defaulted? none (Json.nullable? Json.text?) token
      expiresAt := ← Json.defaulted? none (Json.nullable? Instant.ofJson?) expiresAt
      message := ← Json.defaulted? none (Json.nullable? Json.text?) message }
  | _ => none

end SessionNotice

end DeviceAuth
