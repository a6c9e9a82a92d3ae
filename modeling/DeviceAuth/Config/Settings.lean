import DeviceAuth.Json.Record

/-!
**Settings.** Every section and every field has a default, which is also what a document that does
not mention it gets. `validate` refuses settings with which a gateway would be unsafe or useless,
`underEnvironment` lets an environment replace the secret, the address and the database.

Main statement: applying the same overrides twice changes nothing more (`underEnvironment_twice`).
-/

namespace DeviceAuth

/-- Where the gateway listens. -/
structure ServerSettings where
  bind : String := "0.0.0.0:8080"
  deriving DecidableEq, Repr

/-- Where records are kept; in memory if there is no path. -/
structure StorageSettings where
  databasePath : Option String := none
  deriving DecidableEq, Repr

/-- Lifetimes, limits and the token secret. -/
structure AuthSettings where
  /-- How long a challenge lives, in seconds. -/
  challengeLifetime : UInt64 := 300
  /-- How long a session lives after it was opened or extended, in seconds. -/
  sessionLifetime : UInt64 := 3600
  /-- After how many failures in a row a device gets no more challenges. -/
  failureLimit : UInt32 := 5
  tokenSecret : Option String := none
  /-- Whether a random secret may be drawn if none is set. -/
  allowEphemeralSecret : Bool := false
  deriving DecidableEq, Repr

/-- The ways to check proofs. -/
inductive ProofBackend where
  | groth16
  | acceptAll
  deriving DecidableEq, Repr

/-- The name of a backend. -/
def ProofBackend.name : ProofBackend → String
  | groth16 => "groth16"
  | acceptAll => "accept-all"

/-- The backend with a name. -/
def ProofBackend.ofName? : String → Option ProofBackend
  | "groth16" => some groth16
  | "accept-all" => some acceptAll
  | _ => none

/-- How proofs are checked. -/
structure ZkpSettings where
  backend : ProofBackend := .groth16
  verifyingKeyPath : Option String := none
  /-- Whether the backend that accepts everything may be used. -/
  allowInsecureBackend : Bool := false
  deriving DecidableEq, Repr

/-- Whether and how a license is required. -/
structure LicenseSettings where
  enabled : Bool := false
  licensePath : Option String := none
  /-- The issuer's public key in hexadecimal. -/
  issuerPublicKey : Option String := none
  /-- How long an expired license still serves, in seconds. -/
  gracePeriod : UInt64 := 604800
  deriving DecidableEq, Repr

/-- How the log is written. -/
structure LoggingSettings where
  json : Bool := false
  deriving DecidableEq, Repr

/-- All settings of a gateway. -/
structure Config where
  server : ServerSettings := {}
  storage : StorageSettings := {}
  auth : AuthSettings := {}
  zkp : ZkpSettings := {}
  license : LicenseSettings := {}
  logging : LoggingSettings := {}
  deriving DecidableEq, Repr

/-! ### Errors -/

/-- Why settings cannot be used. -/
inductive ConfigError where
  /-- The settings contradict a rule. -/
  | invalid (detail : String)
  /-- The document is not TOML, or not of the expected shape. -/
  | unreadable (detail : String)
  /-- The file cannot be read. -/
  | inaccessible (detail : String)
  deriving DecidableEq, Repr

/-- The wording of an error. -/
def ConfigError.message : ConfigError → String
  | invalid detail => "Invalid configuration: " ++ detail
  | unreadable detail => "Configuration parse error: " ++ detail
  | inaccessible detail => "IO error: " ++ detail

/-! ### Rules -/

/-- The fewest bytes of a configured token secret. -/
def minimumSecretLength : Nat := 32

namespace AuthSettings

/-- The rules for lifetimes and limits. -/
def validateLimits (settings : AuthSettings) : Except ConfigError Unit :=
  if settings.challengeLifetime = 0 then
    .error (.invalid "auth.challenge_ttl_secs must be greater than 0")
  else if settings.sessionLifetime = 0 then
    .error (.invalid "auth.session_ttl_secs must be greater than 0")
  else if settings.failureLimit = 0 then .error (.invalid "auth.max_retry must be greater than 0")
  else .ok ()

/-- The rules for the token secret. -/
def validateSecret (settings : AuthSettings) : Except ConfigError Unit :=
  match settings.tokenSecret with
  | some secret =>
    if secret.utf8ByteSize < minimumSecretLength then
      .error (.invalid "auth.token_secret must be at least 32 bytes")
    else .ok ()
  | none =>
    if settings.allowEphemeralSecret then .ok ()
    else
      .error (.invalid ("no token secret configured; set EDGEGUARD_TOKEN_SECRET or "
        ++ "auth.allow_ephemeral_secret = true"))

end AuthSettings

/-- The rules for the backend. -/
def ZkpSettings.validate (settings : ZkpSettings) : Except ConfigError Unit :=
  match settings.backend with
  | .groth16 =>
    if settings.verifyingKeyPath = none then
      .error (.invalid "zkp.verifying_key_path is required for the groth16 backend")
    else .ok ()
  | .acceptAll =>
    if settings.allowInsecureBackend then .ok ()
    else
      .error (.invalid
        "zkp.backend = \"accept-all\" requires zkp.allow_insecure_backend = true")

/-- The rules for the license. -/
def LicenseSettings.validate (settings : LicenseSettings) : Except ConfigError Unit :=
  if ¬ settings.enabled then .ok ()
  else if settings.licensePath = none then
    .error (.invalid "license.license_path is required when licensing is enabled")
  else if settings.issuerPublicKey = none then
    .error (.invalid "license.issuer_public_key is required when licensing is enabled")
  else .ok ()

namespace Config

/-- Refuses settings with which a gateway would be unsafe or useless. -/
def validate (config : Config) : Except ConfigError Unit := do
  config.auth.validateLimits
  config.auth.validateSecret
  config.zkp.validate
  config.license.validate

/-- The variables of an environment that replace settings. -/
def overrideNames : List String :=
  ["EDGEGUARD_TOKEN_SECRET", "EDGEGUARD_BIND", "EDGEGUARD_DATABASE"]

/-- The paths that settings name. -/
def paths (config : Config) : List String :=
  [config.storage.databasePath, config.zkp.verifyingKeyPath,
    config.license.licensePath].filterMap id

/-- A text of the environment, if it is set and not empty. -/
def override? (environment : String → Option String) (name : String) : Option String :=
  (environment name).filter fun value => value ≠ ""

/-- Lets an environment replace the secret, the address and the database. -/
def underEnvironment (environment : String → Option String) (config : Config) : Config :=
  let secret := override? environment "EDGEGUARD_TOKEN_SECRET"
  let bind := override? environment "EDGEGUARD_BIND"
  let database := override? environment "EDGEGUARD_DATABASE"
  { config with
    auth := { config.auth with tokenSecret := secret.or config.auth.tokenSecret }
    server := { config.server with bind := bind.getD config.server.bind }
    storage := { config.storage with databasePath := database.or config.storage.databasePath } }

/-- Applying the same overrides twice changes nothing more. -/
theorem underEnvironment_twice (environment : String → Option String) (config : Config) :
    underEnvironment environment (underEnvironment environment config)
      = underEnvironment environment config := by
  simp only [underEnvironment]
  cases override? environment "EDGEGUARD_TOKEN_SECRET" <;>
    cases override? environment "EDGEGUARD_BIND" <;>
    cases override? environment "EDGEGUARD_DATABASE" <;> simp

end Config

/-! ### Sections in JSON -/

/-- The authentication settings of a JSON value. -/
def AuthSettings.ofJson? (value : Json) : Option AuthSettings := do
  let default : AuthSettings := {}
  match ← value.fields? ["challenge_ttl_secs", "session_ttl_secs", "max_retry", "token_secret",
      "allow_ephemeral_secret"] with
  | [challengeLifetime, sessionLifetime, failureLimit, tokenSecret, allowEphemeralSecret] =>
    return {
      challengeLifetime :=
        ← Json.defaulted? default.challengeLifetime Json.word64? challengeLifetime
      sessionLifetime := ← Json.defaulted? default.sessionLifetime Json.word64? sessionLifetime
      failureLimit := ← Json.defaulted? default.failureLimit Json.word32? failureLimit
      tokenSecret := ← Json.defaulted? none (Json.nullable? Json.text?) tokenSecret
      allowEphemeralSecret := ← Json.defaulted? false Json.boolean? allowEphemeralSecret }
  | _ => none

/-- The proof settings of a JSON value. -/
def ZkpSettings.ofJson? (value : Json) : Option ZkpSettings := do
  match ← value.fields? ["backend", "verifying_key_path", "allow_insecure_backend"] with
  | [backend, verifyingKeyPath, allowInsecureBackend] =>
    return {
      backend := ← Json.defaulted? .groth16
        (fun value => value.constructorName?.bind ProofBackend.ofName?) backend
      verifyingKeyPath := ← Json.defaulted? none (Json.nullable? Json.text?) verifyingKeyPath
      allowInsecureBackend := ← Json.defaulted? false Json.boolean? allowInsecureBackend }
  | _ => none

/-- The license settings of a JSON value. -/
def LicenseSettings.ofJson? (value : Json) : Option LicenseSettings := do
  let default : LicenseSettings := {}
  match ← value.fields? ["enabled", "license_path", "issuer_public_key", "grace_period_secs"] with
  | [enabled, licensePath, issuerPublicKey, gracePeriod] =>
    return {
      enabled := ← Json.defaulted? false Json.boolean? enabled
      licensePath := ← Json.defaulted? none (Json.nullable? Json.text?) licensePath
      issuerPublicKey := ← Json.defaulted? none (Json.nullable? Json.text?) issuerPublicKey
      gracePeriod := ← Json.defaulted? default.gracePeriod Json.word64? gracePeriod }
  | _ => none

/-- Settings as a JSON value, which shows all of them but the token secret. -/
def Config.toJson (config : Config) : Json :=
  let nullable (value : Option String) : Json :=
    match value with
    | some text => Json.ofText text
    | none => .null
  Json.ofMembers [
    ("server", Json.ofMembers [("bind", Json.ofText config.server.bind)]),
    ("storage", Json.ofMembers [("database_path", nullable config.storage.databasePath)]),
    ("auth", Json.ofMembers [
      ("challenge_ttl_secs", Json.ofNat config.auth.challengeLifetime.toNat),
      ("session_ttl_secs", Json.ofNat config.auth.sessionLifetime.toNat),
      ("max_retry", Json.ofNat config.auth.failureLimit.toNat),
      ("allow_ephemeral_secret", .boolean config.auth.allowEphemeralSecret)]),
    ("zkp", Json.ofMembers [
      ("backend", Json.ofText config.zkp.backend.name),
      ("verifying_key_path", nullable config.zkp.verifyingKeyPath),
      ("allow_insecure_backend", .boolean config.zkp.allowInsecureBackend)]),
    ("license", Json.ofMembers [
      ("enabled", .boolean config.license.enabled),
      ("license_path", nullable config.license.licensePath),
      ("issuer_public_key", nullable config.license.issuerPublicKey),
      ("grace_period_secs", Json.ofNat config.license.gracePeriod.toNat)]),
    ("logging", Json.ofMembers [("json", .boolean config.logging.json)])]

end DeviceAuth
