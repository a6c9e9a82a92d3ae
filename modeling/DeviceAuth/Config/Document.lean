import DeviceAuth.Config.Settings
import DeviceAuth.Files.Tree
import DeviceAuth.Toml.Reader

/-!
**Settings in TOML.** A document has a table for each section; sections and fields that it does not
mention have their defaults, and names that are not known are passed over.
-/

namespace DeviceAuth

open Toml

/-- The listening settings of a TOML value. -/
def ServerSettings.ofToml? (value : Toml) : Option ServerSettings := do
  let fallback : ServerSettings := {}
  match ← value.fields? ["bind"] with
  | [bind] => return ⟨← defaulted? fallback.bind text? bind⟩
  | _ => none

/-- The storage settings of a TOML value. -/
def StorageSettings.ofToml? (value : Toml) : Option StorageSettings := do
  match ← value.fields? ["database_path"] with
  | [databasePath] => return ⟨← optional? text? databasePath⟩
  | _ => none

/-- The authentication settings of a TOML value. -/
def AuthSettings.ofToml? (value : Toml) : Option AuthSettings := do
  let fallback : AuthSettings := {}
  match ← value.fields? ["challenge_ttl_secs", "session_ttl_secs", "max_retry", "token_secret",
      "allow_ephemeral_secret"] with
  | [challengeLifetime, sessionLifetime, failureLimit, tokenSecret, allowEphemeralSecret] =>
    return {
      challengeLifetime := ← defaulted? fallback.challengeLifetime word64? challengeLifetime
      sessionLifetime := ← defaulted? fallback.sessionLifetime word64? sessionLifetime
      failureLimit := ← defaulted? fallback.failureLimit word32? failureLimit
      tokenSecret := ← optional? text? tokenSecret
      allowEphemeralSecret := ←
        defaulted? fallback.allowEphemeralSecret boolean? allowEphemeralSecret }
  | _ => none

/-- The backend of a TOML value. -/
def ProofBackend.ofToml? (value : Toml) : Option ProofBackend :=
  value.constructorName?.bind ProofBackend.ofName?

/-- The proof settings of a TOML value. -/
def ZkpSettings.ofToml? (value : Toml) : Option ZkpSettings := do
  let fallback : ZkpSettings := {}
  match ← value.fields? ["backend", "verifying_key_path", "allow_insecure_backend"] with
  | [backend, verifyingKeyPath, allowInsecureBackend] =>
    return {
      backend := ← defaulted? fallback.backend ProofBackend.ofToml? backend
      verifyingKeyPath := ← optional? text? verifyingKeyPath
      allowInsecureBackend := ←
        defaulted? fallback.allowInsecureBackend boolean? allowInsecureBackend }
  | _ => none

/-- The license settings of a TOML value. -/
def LicenseSettings.ofToml? (value : Toml) : Option LicenseSettings := do
  let fallback : LicenseSettings := {}
  match ← value.fields? ["enabled", "license_path", "issuer_public_key", "grace_period_secs"] with
  | [enabled, licensePath, issuerPublicKey, gracePeriod] =>
    return {
      enabled := ← defaulted? fallback.enabled boolean? enabled
      licensePath := ← optional? text? licensePath
      issuerPublicKey := ← optional? text? issuerPublicKey
      gracePeriod := ← defaulted? fallback.gracePeriod word64? gracePeriod }
  | _ => none

/-- The logging settings of a TOML value. -/
def LoggingSettings.ofToml? (value : Toml) : Option LoggingSettings := do
  match ← value.fields? ["json"] with
  | [json] => return ⟨← defaulted? false boolean? json⟩
  | _ => none

namespace Config

/-- The settings of a TOML value. -/
def ofToml? (value : Toml) : Option Config := do
  match ← value.fields? ["server", "storage", "auth", "zkp", "license", "logging"] with
  | [server, storage, auth, zkp, license, logging] =>
    return {
      server := ← defaulted? {} ServerSettings.ofToml? server
      storage := ← defaulted? {} StorageSettings.ofToml? storage
      auth := ← defaulted? {} AuthSettings.ofToml? auth
      zkp := ← defaulted? {} ZkpSettings.ofToml? zkp
      license := ← defaulted? {} LicenseSettings.ofToml? license
      logging := ← defaulted? {} LoggingSettings.ofToml? logging }
  | _ => none

/-- The settings of a document. -/
def ofText (document : String) : Except ConfigError Config :=
  match Toml.parse? document with
  | none => .error (.unreadable "not a TOML document")
  | some value =>
    match ofToml? value with
    | some config => .ok config
    | none => .error (.unreadable "a setting has a value of another kind")

/-- The settings of the document in a file. -/
def ofFile {δ : Type} (files : Files.Tree δ) (path : String) : Except ConfigError Config :=
  match files.readText path with
  | .ok document => ofText document
  | .error fault => .error (.inaccessible fault.message)

end Config

end DeviceAuth
