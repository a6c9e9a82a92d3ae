import DeviceAuth.Gateway.Startup
import DeviceAuth.Proofs.Auth.History
import DeviceAuth.Proofs.Config.Rules
import DeviceAuth.Proofs.Zkp.FirstKey

/-!
**What a gateway starts with.** Nothing insecure is used that has not been asked for: the checker
that accepts everything only where the settings allow it, a token secret that was drawn at random
only where there is no other and the settings allow that. Settings that have been loaded are valid,
so the later parts of the start, which check the same rules again, have nothing to refuse.

* `ZkpSettings.gives_of_checker`, `ZkpSettings.keyFault_of_checker`: the checker for settings, and
  what is at fault if there is none.
* `SecretFrom`: where a token secret comes from.
* `Gateway.starts`: how a start ends.
* `Gateway.startup_opts_in`: the choices of a gateway that starts from loaded settings.
-/

namespace DeviceAuth

/-! ### Checkers -/

section Checkers

variable {δ : Type} {settings : ZkpSettings} {files : Files.Tree δ}

/-- **The checkers that settings give**: one with the key in the file that they name, or the one
that accepts everything, which they allow. -/
inductive ZkpSettings.Gives (settings : ZkpSettings) (files : Files.Tree δ) : ProofChecker → Prop
  | groth16 (path : String) (key : Groth16.VerifyingKey) : settings.backend = .groth16 →
      settings.verifyingKeyPath = some path → verifyingKeyAt files path = .ok key → key.Fits →
      Gives settings files (Groth16Checker.mk (some key)).toChecker
  | permissive : settings.backend = .acceptAll → settings.allowInsecureBackend = true →
      Gives settings files ⟨"accept-all", acceptNonempty⟩

/-- A checker that is given a file takes the key in it, if that fits. -/
theorem Groth16Checker.load_keyless (files : Files.Tree δ) (path : String) :
    keyless.load files path = (verifyingKeyAt files path >>= checkKey).map fun key => ⟨some key⟩ :=
  take_keyless (.file files path)

theorem ZkpSettings.gives_of_checker {checker : ProofChecker}
    (given : settings.checker files = .ok checker) : settings.Gives files checker := by
  unfold ZkpSettings.checker at given
  split at given
  · next backend =>
    split at given
    · cases given
    · next path named =>
      rw [Groth16Checker.load_keyless] at given
      obtain ⟨loaded, taken, given⟩ := Except.of_bind_eq_ok given
      cases given
      obtain ⟨key, read, rfl⟩ := Except.of_map_eq_ok taken
      obtain ⟨found, foundRead, accepted⟩ := Except.of_bind_eq_ok read
      obtain ⟨fits, rfl⟩ := Groth16Checker.checkKey_eq_ok_iff.mp accepted
      exact .groth16 path key backend named foundRead fits
  · next backend =>
    unfold permissiveChecker at given
    split at given
    · next allowed =>
      cases given
      exact .permissive backend allowed
    · cases given

/-- **If valid settings give no checker, the key in the file that they name is at fault.** -/
theorem ZkpSettings.keyFault_of_checker
    (keyPath : settings.backend = .groth16 → ∃ path, settings.verifyingKeyPath = some path)
    (permissive : settings.backend = .acceptAll → settings.allowInsecureBackend = true)
    {error : ZkpError} (failed : settings.checker files = .error error) :
    ∃ path, settings.verifyingKeyPath = some path ∧
      (verifyingKeyAt files path >>= Groth16Checker.checkKey) = .error error := by
  unfold ZkpSettings.checker at failed
  split at failed
  · next backend =>
    obtain ⟨path, named⟩ := keyPath backend
    rw [named] at failed
    dsimp only at failed
    rw [Groth16Checker.load_keyless] at failed
    rcases Except.of_bind_eq_error failed with failed | ⟨_, -, failed⟩
    · exact ⟨path, named, Except.of_map_eq_error failed⟩
    · cases failed
  · next backend =>
    rw [permissive backend] at failed
    cases failed

end Checkers

/-- A key that cannot be used is missing, which is said in full, or cannot be decoded. -/
inductive ZkpError.IsKeyFault (path : String) : ZkpError → Prop
  | missing (fault : Files.Fault) :
      IsKeyFault path (.verificationKeyNotFound ("CRITICAL: verifying key missing at " ++ path
        ++ ". Deployment unsafe. Error: " ++ fault.message))
  | undecoded (detail : String) : IsKeyFault path (.keySerialization detail)
  | overlong : IsKeyFault path .overflow

theorem isKeyFault_of_verifyingKeyAt {δ : Type} {files : Files.Tree δ} {path : String}
    {error : ZkpError}
    (failed : (verifyingKeyAt files path >>= Groth16Checker.checkKey) = .error error) :
    error.IsKeyFault path := by
  rcases Except.of_bind_eq_error failed with failed | ⟨key, -, failed⟩
  · unfold verifyingKeyAt at failed
    split at failed
    · next bytes found =>
      unfold readVerifyingKey at failed
      rcases read : Groth16.VerifyingKey.read bytes with fault | key <;> rw [read] at failed
      · cases failed
        cases fault
        case overflow => exact .overlong
        all_goals exact .undecoded _
      · cases failed
    · cases failed
      exact .missing _
  · unfold Groth16Checker.checkKey at failed
    split at failed <;> cases failed
    exact .undecoded _

/-! ### Token secrets -/

/-- A variable that an environment does not set, or sets to nothing. -/
def IsUnset (environment : String → Option String) (name : String) : Prop :=
  ∀ text, environment name = some text → text = ""

/-- A variable replaces a setting with its text, which is not empty. -/
theorem Config.override?_eq_some_iff {environment : String → Option String} {name text : String} :
    override? environment name = some text ↔ environment name = some text ∧ text ≠ "" := by
  rw [override?, Option.filter_eq_some_iff, decide_eq_true_eq]

theorem Config.override?_eq_none_iff {environment : String → Option String} {name : String} :
    override? environment name = none ↔ IsUnset environment name := by
  simp [override?, Option.filter_eq_none_iff, IsUnset]

/-- **Where a token secret comes from**: from the environment if there is one, else from the
settings that are written, else it is drawn at random where these allow it. Secrets that are not
drawn have at least 32 bytes. -/
inductive SecretFrom (environment : String → Option String) (written : AuthSettings)
    (material : Bytes) : TokenSecret → Prop
  | environment (text : String) : environment "EDGEGUARD_TOKEN_SECRET" = some text → text ≠ "" →
      32 ≤ (Bytes.ofText text).length →
      SecretFrom environment written material (.configured (Bytes.ofText text))
  | written (text : String) : IsUnset environment "EDGEGUARD_TOKEN_SECRET" →
      written.tokenSecret = some text → 32 ≤ (Bytes.ofText text).length →
      SecretFrom environment written material (.configured (Bytes.ofText text))
  | drawn : IsUnset environment "EDGEGUARD_TOKEN_SECRET" → written.tokenSecret = none →
      written.allowEphemeralSecret = true →
      SecretFrom environment written material (.ephemeral material)

namespace Service

variable {written : Config} {environment : String → Option String} {material : Bytes}

/-- The secret that valid settings under an environment choose. -/
theorem secretFrom_of_chooseSecret (valid : (written.underEnvironment environment).Valid)
    {secret : TokenSecret}
    (chosen : chooseSecret (written.underEnvironment environment).auth none material = .ok secret) :
    SecretFrom environment written.auth material secret := by
  have long := valid.secret
  have allowed := valid.ephemeral
  have secretText : (written.underEnvironment environment).auth.tokenSecret =
      (Config.override? environment "EDGEGUARD_TOKEN_SECRET").or written.auth.tokenSecret := rfl
  unfold chooseSecret at chosen
  rw [secretText] at long allowed chosen
  rcases replaced : Config.override? environment "EDGEGUARD_TOKEN_SECRET" with _ | text
  · have unset := Config.override?_eq_none_iff.mp replaced
    rw [replaced, Option.none_or] at long allowed chosen
    rcases kept : written.auth.tokenSecret with _ | text <;> rw [kept] at long allowed chosen
    · dsimp only at chosen
      rw [if_pos (allowed rfl)] at chosen
      cases chosen
      exact .drawn unset kept (allowed rfl)
    · cases chosen
      exact .written text unset kept (long text rfl)
  · obtain ⟨given, filled⟩ := Config.override?_eq_some_iff.mp replaced
    rw [replaced, Option.some_or] at long chosen
    cases chosen
    exact .environment text given filled (long text rfl)

/-- A lifetime is refused with its name. -/
theorem refused_of_lifetime {seconds : UInt64} {name : String} {error : AuthError}
    (failed : lifetime seconds name = .error (.refused error)) :
    error = .config (name ++ " must be a positive number of seconds") := by
  unfold lifetime at failed
  by_cases signed : 0 < seconds.toNat ∧ seconds.toNat < Nat.pow 2 63
  · rw [if_pos signed, Failure.duration] at failed
    split at failed <;> cases failed
  · rw [if_neg signed] at failed
    injection failed with failed
    injection failed with failed
    exact failed.symm

variable {checker : ProofChecker} {settings : AuthSettings}

/-- Settings with a limit and a secret are refused for their lifetimes only. -/
theorem refused_of_ofSettings (limit : settings.failureLimit ≠ 0)
    (allowed : settings.tokenSecret = none → settings.allowEphemeralSecret = true)
    {error : AuthError}
    (failed : ofSettings checker settings none material = .error (.refused error)) :
    ∃ name, error = .config (name ++ " must be a positive number of seconds") := by
  obtain ⟨secret, chosen⟩ := exists_chooseSecret allowed none material
  rcases Except.of_bind_eq_error failed with failed | ⟨_, -, failed⟩
  · exact ⟨_, refused_of_lifetime failed⟩
  rcases Except.of_bind_eq_error failed with failed | ⟨_, -, failed⟩
  · exact ⟨_, refused_of_lifetime failed⟩
  · rw [if_neg limit, chosen] at failed
    cases failed

/-- A service has the checker that it is given, and signs tokens with the secret that is chosen. -/
theorem of_ofSettings {service : Service}
    (built : ofSettings checker settings none material = .ok service) :
    service.checker = checker ∧ ∃ secret, chooseSecret settings none material = .ok secret ∧
      service.sessions.tokenKey = .ofSecret secret := by
  obtain ⟨_, -, built⟩ := Except.of_bind_eq_ok built
  obtain ⟨_, -, built⟩ := Except.of_bind_eq_ok built
  split at built
  · cases built
  · rcases chosen : chooseSecret settings none material with error | secret <;>
      rw [chosen] at built <;> cases built
    exact ⟨rfl, secret, rfl, rfl⟩

end Service

/-! ### The start -/

namespace Gateway

/-- **How a start ends**: with the first part that fails, or with a gateway. -/
inductive Starts (config : Config) (disk : Disk) (material : Bytes) :
    Except StartupError Running → Prop
  | abandoned : Starts config disk material (.error .overflow)
  | checker (cause : ZkpError) : config.zkp.checker disk = .error cause →
      Starts config disk material (.error (.checker cause))
  | database (cause : AuthError) : Starts config disk material (.error (.database cause))
  | license (cause : AuthError) : Starts config disk material (.error (.license cause))
  | service (checker : ProofChecker) (cause : AuthError) :
      Service.ofSettings checker config.auth none material = .error (.refused cause) →
      Starts config disk material (.error (.service cause))
  | running (checker : ProofChecker) (gateway : Running) : config.zkp.checker disk = .ok checker →
      Service.ofSettings checker config.auth none material = .ok gateway.server.service →
      Starts config disk material (.ok gateway)

theorem starts (config : Config) (disk : Disk) (now : Instant) (material : Bytes) :
    Starts config disk material (start config disk now material).1 := by
  unfold start
  split
  · exact .abandoned
  · next cause _ failed => exact .checker cause failed
  · next checker given =>
    split
    · exact .database _
    · next place disk' _ =>
      dsimp only
      unfold assemble
      rcases gate : openGate config.license disk' with error | license
      · unfold openGate at gate
        split at gate
        · rcases opened : LicenseKeeper.ofSettings config.license disk' with failure | keeper <;>
            rw [opened] at gate <;> cases gate
          cases failure
          · exact .license _
          · exact .abandoned
        · cases gate
      · rcases built : Service.ofSettings checker config.auth none material with failure | service
        · cases failure with
          | refused cause => exact .service checker cause built
          | overflow => exact .abandoned
        · exact .running checker _ given built

/-- A refusal that the rules for settings were there to prevent. -/
inductive StartupError.IsRuled : StartupError → Prop
  | keyPath : IsRuled (.checker (.verificationKeyNotFound "zkp.verifying_key_path not set"))
  | permissive (detail : String) : IsRuled (.checker (.insecureBackendRefused detail))
  | secret : IsRuled (.service
      (.config "no token secret configured and ephemeral secrets are not allowed"))
  | limit : IsRuled (.service (.config "max_retry must be greater than 0"))

variable {config : Config} {disk : Disk} {material : Bytes}

/-- **Valid settings are not refused for what the rules say.** -/
theorem Starts.not_isRuled (valid : config.Valid) {error : StartupError}
    (failed : Starts config disk material (.error error)) : ¬ error.IsRuled := by
  cases failed with
  | abandoned | database _ | license _ => nofun
  | checker cause failed =>
    obtain ⟨path, -, failed⟩ :=
      ZkpSettings.keyFault_of_checker valid.keyPath valid.permissive failed
    cases isKeyFault_of_verifyingKeyAt failed with
    | undecoded _ | overlong => nofun
    | missing fault =>
      -- What is said of a file begins otherwise than what is said of a setting.
      generalize detail : "CRITICAL: verifying key missing at " ++ path
        ++ ". Deployment unsafe. Error: " ++ fault.message = text
      rintro ⟨⟩
      have first := congrArg (fun text => text.toList.head?) detail
      simp at first
  | service checker cause failed =>
    obtain ⟨name, rfl⟩ := Service.refused_of_ofSettings valid.failureLimit valid.ephemeral failed
    generalize detail : name ++ " must be a positive number of seconds" = text
    have last := congrArg (fun text => text.toList.getLast?) detail
    rintro (_ | _ | _ | _) <;> simp at last

/-- **What a gateway does only if it is asked to**, for settings that are written and an
environment. -/
structure OptsIn (written : Config) (environment : String → Option String) (disk : Disk)
    (material : Bytes) (gateway : Running) : Prop where
  checker : written.zkp.Gives disk gateway.server.service.checker
  secret : ∃ secret, gateway.server.service.sessions.tokenKey = .ofSecret secret ∧
    SecretFrom environment written.auth material secret

theorem Starts.optsIn {written : Config} {environment : String → Option String}
    (valid : (written.underEnvironment environment).Valid) {gateway : Running}
    (started : Starts (written.underEnvironment environment) disk material (.ok gateway)) :
    OptsIn written environment disk material gateway := by
  cases started with
  | running checker gateway given built =>
    obtain ⟨same, secret, chosen, signs⟩ := Service.of_ofSettings built
    exact ⟨same ▸ ZkpSettings.gives_of_checker given, secret, signs,
      Service.secretFrom_of_chooseSecret valid chosen⟩

/-- The settings that are written: those in the file at a path, without a path the defaults. -/
def IsWritten {δ : Type} (files : Files.Tree δ) (path : Option String) (written : Config) : Prop :=
  match path with
  | some path => Config.ofFile files path = .ok written
  | none => written = {}

/-- Settings that are loaded are written, under the environment, and valid. -/
theorem loadSettings_eq_ok_iff {δ : Type} {files : Files.Tree δ}
    {environment : String → Option String} {path : Option String} :
    loadSettings files environment path = .ok config ↔
      ∃ written, IsWritten files path written ∧ config = written.underEnvironment environment ∧
        config.Valid := by
  have checked (written : Config) :
      (do (written.underEnvironment environment).validate.mapError StartupError.settingsRefused
          return written.underEnvironment environment) = Except.ok config ↔
        config = written.underEnvironment environment ∧ config.Valid := by
    constructor
    · intro loaded
      obtain ⟨_, accepted, loaded⟩ := Except.of_bind_eq_ok loaded
      cases loaded
      exact ⟨rfl, Config.validate_eq_ok_iff.mp (Except.of_mapError_eq_ok accepted)⟩
    · rintro ⟨rfl, valid⟩
      simp only [Config.validate_eq_ok_iff.mpr valid, Except.mapError, bind, Except.bind, pure,
        Except.pure]
  cases path with
  | none =>
    refine (checked {}).trans ⟨fun loaded => ⟨{}, rfl, loaded⟩, ?_⟩
    rintro ⟨_, rfl, loaded⟩
    exact loaded
  | some path =>
    rcases read : Config.ofFile files path with error | written
    · simp [loadSettings, IsWritten, read, Except.mapError, bind, Except.bind]
    · have loads := checked written
      simp only [loadSettings, IsWritten, read, Except.mapError, bind, Except.bind, Except.ok.injEq,
        exists_eq_left'] at loads ⊢
      exact loads

end Gateway

namespace Config

variable (environment : String → Option String) (config : Config)

/-- Variables that are set to nothing change no more than if they were not set. -/
theorem underEnvironment_filter :
    config.underEnvironment (fun name => (environment name).filter (· ≠ "")) =
      config.underEnvironment environment := by
  simp only [underEnvironment, override?, Option.filter_filter, Bool.and_self]

variable {environment}

/-- An environment with no variable that is set to something changes nothing. -/
theorem underEnvironment_of_isUnset
    (unset : ∀ name ∈ overrideNames, IsUnset environment name) :
    config.underEnvironment environment = config := by
  have kept {name : String} (listed : name ∈ overrideNames) :=
    override?_eq_none_iff.mpr (unset name listed)
  have secret : override? environment "EDGEGUARD_TOKEN_SECRET" = none := kept (by decide)
  have bind : override? environment "EDGEGUARD_BIND" = none := kept (by decide)
  have database : override? environment "EDGEGUARD_DATABASE" = none := kept (by decide)
  simp only [underEnvironment, secret, bind, database, Option.none_or, Option.getD_none]

end Config

namespace Gateway

/-- **A gateway is insecure only where it is allowed to be.** For settings that are loaded from a
file, or without one from the defaults, under any environment: a gateway that starts with them has
the checker that they give, which accepts everything only where the settings that are written allow
it, and signs tokens with a secret from where it should come; a start that fails does not fail for
what the rules say. Applying an environment twice does what applying it once does, and variables
that are set to nothing do nothing. -/
theorem startup_opts_in {δ : Type} (files : Files.Tree δ) (environment : String → Option String)
    (path : Option String) :
    (∀ config, loadSettings files environment path = .ok config →
      ∃ written, IsWritten files path written ∧ config = written.underEnvironment environment ∧
        ∀ disk now material,
          (∀ gateway, (start config disk now material).1 = .ok gateway →
            OptsIn written environment disk material gateway) ∧
          ∀ error, (start config disk now material).1 = .error error → ¬ error.IsRuled) ∧
    ∀ config : Config,
      (config.underEnvironment environment).underEnvironment environment =
          config.underEnvironment environment ∧
        config.underEnvironment (fun name => (environment name).filter (· ≠ "")) =
          config.underEnvironment environment ∧
        ((∀ name ∈ Config.overrideNames, IsUnset environment name) →
          config.underEnvironment environment = config) := by
  refine ⟨fun config loaded => ?_, fun config => ⟨Config.underEnvironment_twice _ _,
    Config.underEnvironment_filter _ _, Config.underEnvironment_of_isUnset _⟩⟩
  obtain ⟨written, isWritten, rfl, valid⟩ := loadSettings_eq_ok_iff.mp loaded
  refine ⟨written, isWritten, rfl, fun disk now material => ⟨fun gateway started => ?_,
    fun error failed => ?_⟩⟩
  · exact Starts.optsIn valid (started ▸ starts _ disk now material)
  · exact Starts.not_isRuled valid (failed ▸ starts _ disk now material)

end Gateway

/-! A gateway that may check nothing, with a secret from its environment. -/

namespace Sample

/-- A document that allows to check nothing. -/
def permissiveText : String :=
  "[auth]\ntoken_secret = \"0123456789abcdef0123456789abcdef\"\n" ++
    "[zkp]\nbackend = \"accept-all\"\nallow_insecure_backend = true\n"

/-- The settings in this text. -/
def permissive : Config where
  auth := { tokenSecret := some "0123456789abcdef0123456789abcdef" }
  zkp := { backend := .acceptAll, allowInsecureBackend := true }

/-- An environment with another secret, and with an address that is empty. -/
def replacing (name : String) : Option String :=
  if name = "EDGEGUARD_TOKEN_SECRET" then some "fedcba9876543210fedcba9876543210"
  else if name = "EDGEGUARD_BIND" then some ""
  else none

theorem ofText_permissiveText : Config.ofText permissiveText = .ok permissive := by decide +kernel

theorem isWritten_permissive :
    Gateway.IsWritten (oneFile (Bytes.ofText permissiveText)) (some "file") permissive := by
  simp only [Gateway.IsWritten, Config.ofFile, Files.Tree.readText, read_oneFile, bind,
    Except.bind, Bytes.toText?_ofText, ofText_permissiveText]

end Sample

open Sample in
theorem startup_opts_in_permissive :
    ∃ config gateway,
      Gateway.loadSettings (oneFile (Bytes.ofText permissiveText)) replacing (some "file") =
          .ok config ∧
        (Gateway.start config .empty epoch []).1 = .ok gateway ∧
        gateway.server.service.checker.name = "accept-all" ∧
        ∃ written, Gateway.OptsIn written replacing .empty [] gateway := by
  have valid : (permissive.underEnvironment replacing).Valid :=
    Config.validate_eq_ok_iff.mp (by decide +kernel)
  have loaded := Gateway.loadSettings_eq_ok_iff.mpr ⟨permissive, isWritten_permissive, rfl, valid⟩
  obtain ⟨written, -, -, starts⟩ := (Gateway.startup_opts_in _ replacing _).1 _ loaded
  exact ⟨_, _, loaded, rfl, rfl, written, (starts .empty epoch []).1 _ rfl⟩

end DeviceAuth
