import DeviceAuth.Circuit.Authentication
import DeviceAuth.DeviceId
import DeviceAuth.Json.Record
import DeviceAuth.Text.Base64

/-!
**What the prover needs and what it hands over.** A proof travels with the four public values of its
statement: in memory as bytes (`StatedProof`), in documents as a Base64 text (`ProofDocument`).
-/

namespace DeviceAuth

/-- The canonical word that a JSON string spells. -/
def Word256.ofJson? (value : Json) : Option Word256 :=
  (Json.text? value).bind fun text => (Word256.ofHex text).toOption

/-- A word as a JSON string. -/
def Word256.toJson (word : Word256) : Json :=
  Json.ofText word.toHex

/-- The public values of the statement, as words that may not be canonical. -/
structure PublicValues where
  deviceId : Word256
  challenge : Word256
  commitment : Word256
  response : Word256
  deriving DecidableEq

namespace PublicValues

/-- The statement with these values, all of which must be canonical. -/
def toStatement (values : PublicValues) : Except ZkpError Circuit.Statement := do
  let deviceId ← values.deviceId.toScalar
  let challenge ← values.challenge.toScalar
  let commitment ← values.commitment.toScalar
  let response ← values.response.toScalar
  return { deviceId, challenge, commitment, response }

/-- Public values as a JSON value. -/
def toJson (values : PublicValues) : Json :=
  Json.ofMembers [
    ("device_id", values.deviceId.toJson),
    ("challenge", values.challenge.toJson),
    ("commitment", values.commitment.toJson),
    ("response", values.response.toJson)]

/-- The public values of a JSON value. -/
def ofJson? (value : Json) : Option PublicValues := do
  match ← value.fields? ["device_id", "challenge", "commitment", "response"] with
  | [deviceId, challenge, commitment, response] =>
    return {
      deviceId := ← Json.required? Word256.ofJson? deviceId
      challenge := ← Json.required? Word256.ofJson? challenge
      commitment := ← Json.required? Word256.ofJson? commitment
      response := ← Json.required? Word256.ofJson? response }
  | _ => none

end PublicValues

/-- A proof and the public values that it is about. -/
structure StatedProof where
  proof : Bytes
  publicValues : PublicValues
  deriving DecidableEq

/-- A proof as it travels: its bytes as a Base64 text. -/
structure ProofDocument where
  proof : String
  publicValues : PublicValues
  deriving DecidableEq

namespace ProofDocument

/-- The document of a proof. -/
def ofStated (stated : StatedProof) : ProofDocument :=
  ⟨Base64.standard.encode stated.proof, stated.publicValues⟩

/-- The bytes of the proof; blanks around its text are passed over. -/
def decodedProof (document : ProofDocument) : Except ZkpError Bytes :=
  match Base64.standard.decode (Text.trimmed document.proof) with
  | .ok bytes => .ok bytes
  | .error fault => .error (.malformedProof ("invalid base64: " ++ fault.message))

/-- A document as a JSON value. -/
def toJson (document : ProofDocument) : Json :=
  Json.ofMembers [
    ("proof", Json.ofText document.proof),
    ("public_witness", document.publicValues.toJson)]

/-- The document of a JSON value. -/
def ofJson? (value : Json) : Option ProofDocument := do
  match ← value.fields? ["proof", "public_witness"] with
  | [proof, publicValues] =>
    return ⟨← Json.required? Json.text? proof, ← Json.required? PublicValues.ofJson? publicValues⟩
  | _ => none

end ProofDocument

/-- What a device proves with. -/
structure ProvingInputs where
  secret : Word256
  deviceId : String
  challenge : Word256
  commitment : Word256
  deriving DecidableEq

namespace ProvingInputs

/-- The inputs with these hexadecimal texts. -/
def ofHex (secret deviceId challenge commitment : String) : Except ZkpError ProvingInputs := do
  let secret ← Word256.ofHex secret
  let challenge ← Word256.ofHex challenge
  let commitment ← Word256.ofHex commitment
  return { secret, deviceId, challenge, commitment }

/-- Inputs as diagnostics show them, without the secret. -/
def diagnostic (inputs : ProvingInputs) : String :=
  "ProverInputs \x7b secret: \"<redacted>\", device_id: " ++ Text.quotedString inputs.deviceId
    ++ ", challenge: " ++ inputs.challenge.diagnostic
    ++ ", commitment: " ++ inputs.commitment.diagnostic ++ " \x7d"

end ProvingInputs

/-! ### Commitments and responses -/

/-- The hash of a secret and a device id, which is fixed when a device is enrolled. -/
def commitmentOf (secret : Word256) (deviceId : String) : Except ZkpError Word256 := do
  let device ← DeviceId.encode deviceId
  Mimc.hashWords secret device

/-- The hash of a secret and a challenge. -/
def responseTo (secret challenge : Word256) : Except ZkpError Word256 :=
  Mimc.hashWords secret challenge

end DeviceAuth
