import DeviceAuth.Auth.Error
import DeviceAuth.Zkp.StatedProof

/-!
**Enrolled devices.** A credential ties a device id to a commitment; the device can authenticate
while its standing is active. Only credentials whose id can be encoded are ever stored.
-/

namespace DeviceAuth

/-- Whether a device may authenticate. -/
inductive Standing where
  | active
  | inactive
  | revoked
  deriving DecidableEq, Repr

namespace Standing

/-- The name of a standing. -/
def name : Standing → String
  | active => "active"
  | inactive => "inactive"
  | revoked => "revoked"

/-- The standing with a name. -/
def ofName? : String → Option Standing
  | "active" => some active
  | "inactive" => some inactive
  | "revoked" => some revoked
  | _ => none

/-- The standing with a name; other texts are a fault of the store. -/
def ofName (text : String) : Except AuthError Standing :=
  match ofName? text with
  | some standing => .ok standing
  | none => .error (.storage ("unknown device status: " ++ text))

/-- The standing of a JSON value. -/
def ofJson? (value : Json) : Option Standing :=
  value.constructorName?.bind ofName?

@[simp] theorem ofName?_name (standing : Standing) :
    ofName? standing.name = some standing := by
  cases standing <;> rfl

end Standing

/-- What is known of an enrolled device. -/
structure Credential where
  deviceId : String
  /-- A public key, kept as it was given. -/
  publicKey : String
  /-- The hash of the device's secret and id. -/
  commitment : Word256
  standing : Standing
  deriving DecidableEq

namespace Credential

/-- The active credential of a device whose id can be encoded. -/
def make (deviceId publicKey : String) (commitment : Word256) :
    Except ZkpError Credential := do
  let _ ← DeviceId.encode deviceId
  return { deviceId, publicKey, commitment, standing := .active }

/-- Whether the device may authenticate. -/
def isActive (credential : Credential) : Bool :=
  credential.standing = .active

/-- A credential as a JSON value. -/
def toJson (credential : Credential) : Json :=
  Json.ofMembers [
    ("device_id", Json.ofText credential.deviceId),
    ("public_key", Json.ofText credential.publicKey),
    ("commitment", credential.commitment.toJson),
    ("status", Json.ofText credential.standing.name)]

/-- The credential of a JSON value. -/
def ofJson? (value : Json) : Option Credential := do
  match ← value.fields? ["device_id", "public_key", "commitment", "status"] with
  | [deviceId, publicKey, commitment, standing] =>
    return {
      deviceId := ← Json.required? Json.text? deviceId
      publicKey := ← Json.required? Json.text? publicKey
      commitment := ← Json.required? Word256.ofJson? commitment
      standing := ← Json.required? Standing.ofJson? standing }
  | _ => none

end Credential

end DeviceAuth
