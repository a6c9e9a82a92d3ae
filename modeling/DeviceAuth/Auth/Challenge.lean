import DeviceAuth.Time.Rfc3339
import DeviceAuth.Zkp.StatedProof

/-!
**Challenges.** A challenge is a nonce issued to one device for a limited time; it can be used once.
-/

namespace DeviceAuth

/-- The instant that a JSON string spells. -/
def Instant.ofJson? (value : Json) : Option Instant :=
  (Json.text? value).bind Rfc3339.parse?

/-- An instant as a JSON string. -/
def Instant.toJson (instant : Instant) : Json :=
  Json.ofText (Rfc3339.render instant)

/-- A nonce issued to one device. -/
structure Challenge where
  challengeId : String
  deviceId : String
  nonce : Word256
  createdAt : Instant
  expiresAt : Instant
  /-- Whether a verification has consumed the challenge. -/
  used : Bool
  deriving DecidableEq

namespace Challenge

/-- Whether a challenge has expired; at its very end it has not. -/
def hasExpired (challenge : Challenge) (now : Instant) : Bool :=
  challenge.expiresAt < now

/-- A challenge as a JSON value. -/
def toJson (challenge : Challenge) : Json :=
  Json.ofMembers [
    ("challenge_id", Json.ofText challenge.challengeId),
    ("device_id", Json.ofText challenge.deviceId),
    ("nonce", challenge.nonce.toJson),
    ("created_at", challenge.createdAt.toJson),
    ("expires_at", challenge.expiresAt.toJson),
    ("used", .boolean challenge.used)]

/-- The challenge of a JSON value. -/
def ofJson? (value : Json) : Option Challenge := do
  match ← value.fields?
      ["challenge_id", "device_id", "nonce", "created_at", "expires_at", "used"] with
  | [challengeId, deviceId, nonce, createdAt, expiresAt, used] =>
    return {
      challengeId := ← Json.required? Json.text? challengeId
      deviceId := ← Json.required? Json.text? deviceId
      nonce := ← Json.required? Word256.ofJson? nonce
      createdAt := ← Json.required? Instant.ofJson? createdAt
      expiresAt := ← Json.required? Instant.ofJson? expiresAt
      used := ← Json.required? Json.boolean? used }
  | _ => none

end Challenge

end DeviceAuth
