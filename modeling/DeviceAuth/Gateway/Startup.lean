import DeviceAuth.Auth.Storage
import DeviceAuth.Config.Document
import DeviceAuth.Gateway.Router

/-!
**Starting a gateway.** Settings come from a document, if one is named, and from the environment,
and must be valid. Then the checker of proofs, the storage, the license gate and the service are
made in this order, and the first failure ends the start.
-/

namespace DeviceAuth

/-- The wording of an error, and of what caused it in turn. -/
def ConfigError.chain : ConfigError → List String
  | .inaccessible detail => [message (.inaccessible detail), detail]
  | error => [error.message]

namespace Gateway

/-- Why a gateway does not start. -/
inductive StartupError where
  /-- The settings at a path cannot be read. -/
  | settingsUnread (path : String) (cause : ConfigError)
  | settingsRefused (cause : ConfigError)
  | checker (cause : ZkpError)
  | database (cause : AuthError)
  | license (cause : AuthError)
  | service (cause : AuthError)
  /-- A lifetime in the settings is longer than the longest duration, or a key is too large for any
  memory; the start is abandoned. -/
  | overflow
  deriving DecidableEq

/-- What failed, and what caused it in turn. -/
def StartupError.chain : StartupError → List String
  | .settingsUnread path cause => ("reading configuration from " ++ path) :: cause.chain
  | .settingsRefused cause => "invalid configuration" :: cause.chain
  | .checker cause => ["initializing proof verifier", cause.message]
  | .database cause => ["opening auth database", cause.message]
  | .license cause => ["loading license", cause.message]
  | .service cause => ["building auth service", cause.message]
  | .overflow => ["a lifetime or a key is out of range"]

/-- A failure of a part of the start. -/
def StartupError.ofFailure (wrap : AuthError → StartupError) : Failure → StartupError
  | .refused error => wrap error
  | .overflow => .overflow

/-- The settings in a document, without one the defaults, under an environment; they are valid. -/
def loadSettings {δ : Type} (files : Files.Tree δ) (environment : String → Option String)
    (path : Option String) : Except StartupError Config := do
  let written ←
    match path with
    | some path => (Config.ofFile files path).mapError (.settingsUnread path)
    | none => .ok {}
  let config := written.underEnvironment environment
  config.validate.mapError .settingsRefused
  return config

/-- A gateway that has started. -/
structure Running where
  server : Server
  state : State Storage

/-- The place that settings name for records. -/
def openPlace (settings : StorageSettings) (disk : Disk) : Except AuthError Place × Disk :=
  match settings.databasePath with
  | some path => Storage.openPath disk path
  | none => (.ok (.memory .empty), disk)

/-- The gate that settings ask for. -/
def openGate (settings : LicenseSettings) (disk : Disk) : Except StartupError LicenseGate :=
  if settings.enabled then
    ((LicenseKeeper.ofSettings settings disk).map .enabled).mapError (.ofFailure .license)
  else .ok .disabled

/-- The gateway with a checker and a place for records. -/
def assemble (config : Config) (checker : ProofChecker) (place : Place) (disk : Disk)
    (now : Instant) (material : Bytes) : Except StartupError Running := do
  let license ← openGate config.license disk
  let service ←
    (Service.ofSettings checker config.auth none material).mapError (.ofFailure .service)
  return {
    server := { service, durable := config.storage.databasePath.isSome }
    state := { store := { place, disk }, counters := .empty, license, now } }

/-- The gateway with these settings; a token secret is made of `material` if it has to be drawn. -/
def start (config : Config) (disk : Disk) (now : Instant) (material : Bytes) :
    Except StartupError Running × Disk :=
  match config.zkp.checker disk with
  | .error .overflow => (.error .overflow, disk)
  | .error error => (.error (.checker error), disk)
  | .ok checker =>
    match openPlace config.storage disk with
    | (.error error, disk) => (.error (.database error), disk)
    | (.ok place, disk) => (assemble config checker place disk now material, disk)

/-- The answer to a request, and the gateway after it. -/
def Running.answer (gateway : Running) (fresh : Fresh) (request : Request) :
    Except Failure Response × Running :=
  let (response, state) := (respond gateway.server fresh request).run gateway.state
  (response, { gateway with state })

end Gateway

end DeviceAuth
