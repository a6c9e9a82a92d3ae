import DeviceAuth.Auth.Service
import DeviceAuth.Config.Settings
import DeviceAuth.Proofs.Sequence

/-!
**The rules for settings.** What settings are accepted with: lifetimes and a limit that are not zero,
a token secret that is long enough or the leave to draw one, a key or the leave to check nothing, and
all that a license needs (`Config.validate_eq_ok_iff`).
-/

namespace DeviceAuth

/-- Settings that follow the rules. -/
structure Config.Valid (config : Config) : Prop where
  challengeLifetime : config.auth.challengeLifetime ≠ 0
  sessionLifetime : config.auth.sessionLifetime ≠ 0
  failureLimit : config.auth.failureLimit ≠ 0
  /-- A secret has at least 32 bytes. -/
  secret : ∀ text, config.auth.tokenSecret = some text → 32 ≤ (Bytes.ofText text).length
  /-- To have no secret is allowed explicitly. -/
  ephemeral : config.auth.tokenSecret = none → config.auth.allowEphemeralSecret = true
  /-- Where proofs are checked, there is the path of a key. -/
  keyPath : config.zkp.backend = .groth16 → ∃ path, config.zkp.verifyingKeyPath = some path
  /-- To check no proofs is allowed explicitly. -/
  permissive : config.zkp.backend = .acceptAll → config.zkp.allowInsecureBackend = true
  license : config.license.enabled = true →
    (∃ path, config.license.licensePath = some path) ∧
      ∃ issuer, config.license.issuerPublicKey = some issuer

theorem AuthSettings.validateLimits_eq_ok_iff {settings : AuthSettings} :
    settings.validateLimits = .ok () ↔
      settings.challengeLifetime ≠ 0 ∧ settings.sessionLifetime ≠ 0 ∧
        settings.failureLimit ≠ 0 := by
  constructor
  · intro accepted
    unfold validateLimits at accepted
    split at accepted
    · cases accepted
    next challenges =>
    split at accepted
    · cases accepted
    next sessions =>
    split at accepted
    · cases accepted
    next failures => exact ⟨challenges, sessions, failures⟩
  · rintro ⟨challenges, sessions, failures⟩
    rw [validateLimits, if_neg challenges, if_neg sessions, if_neg failures]

theorem AuthSettings.validateSecret_eq_ok_iff {settings : AuthSettings} :
    settings.validateSecret = .ok () ↔
      (∀ text, settings.tokenSecret = some text → 32 ≤ (Bytes.ofText text).length) ∧
        (settings.tokenSecret = none → settings.allowEphemeralSecret = true) := by
  unfold validateSecret
  rcases settings.tokenSecret with _ | text
  · constructor
    · intro accepted
      dsimp only at accepted
      split at accepted
      · next allowed => exact ⟨nofun, fun _ => allowed⟩
      · cases accepted
    · rintro ⟨-, allowed⟩
      exact if_pos (allowed rfl)
  · constructor
    · intro accepted
      dsimp only at accepted
      split at accepted
      · cases accepted
      · next long =>
        refine ⟨fun other same => ?_, nofun⟩
        cases same
        exact Nat.le_of_not_lt long
    · rintro ⟨long, -⟩
      exact if_neg (Nat.not_lt_of_le (long text rfl))

theorem ZkpSettings.validate_eq_ok_iff {settings : ZkpSettings} :
    settings.validate = .ok () ↔
      (settings.backend = .groth16 → ∃ path, settings.verifyingKeyPath = some path) ∧
        (settings.backend = .acceptAll → settings.allowInsecureBackend = true) := by
  unfold validate
  cases settings.backend
  · simp [Option.ne_none_iff_exists']
  · simp

theorem LicenseSettings.validate_eq_ok_iff {settings : LicenseSettings} :
    settings.validate = .ok () ↔ (settings.enabled = true →
      (∃ path, settings.licensePath = some path) ∧
        ∃ issuer, settings.issuerPublicKey = some issuer) := by
  unfold validate
  cases settings.enabled <;> cases settings.licensePath <;> cases settings.issuerPublicKey <;> simp

/-- **The rules accept the settings that follow them**, and no others. -/
theorem Config.validate_eq_ok_iff {config : Config} : config.validate = .ok () ↔ config.Valid := by
  constructor
  · intro accepted
    obtain ⟨_, limits, accepted⟩ := Except.of_bind_eq_ok accepted
    obtain ⟨_, secret, accepted⟩ := Except.of_bind_eq_ok accepted
    obtain ⟨_, zkp, license⟩ := Except.of_bind_eq_ok accepted
    obtain ⟨challenges, sessions, failures⟩ := AuthSettings.validateLimits_eq_ok_iff.mp limits
    obtain ⟨long, ephemeral⟩ := AuthSettings.validateSecret_eq_ok_iff.mp secret
    obtain ⟨keyPath, permissive⟩ := ZkpSettings.validate_eq_ok_iff.mp zkp
    exact ⟨challenges, sessions, failures, long, ephemeral, keyPath, permissive,
      LicenseSettings.validate_eq_ok_iff.mp license⟩
  · intro valid
    have limits := AuthSettings.validateLimits_eq_ok_iff.mpr
      ⟨valid.challengeLifetime, valid.sessionLifetime, valid.failureLimit⟩
    have secret := AuthSettings.validateSecret_eq_ok_iff.mpr ⟨valid.secret, valid.ephemeral⟩
    have zkp := ZkpSettings.validate_eq_ok_iff.mpr ⟨valid.keyPath, valid.permissive⟩
    have license := LicenseSettings.validate_eq_ok_iff.mpr valid.license
    simp only [validate, limits, secret, zkp, license, bind, Except.bind]

/-- There is always a token secret where there may be one without being set. -/
theorem Service.exists_chooseSecret {settings : AuthSettings}
    (allowed : settings.tokenSecret = none → settings.allowEphemeralSecret = true)
    (given : Option TokenSecret) (material : Bytes) :
    ∃ chosen, chooseSecret settings given material = .ok chosen := by
  unfold chooseSecret
  split
  · exact ⟨_, rfl⟩
  · exact ⟨_, rfl⟩
  · next missing => exact ⟨_, if_pos (allowed missing)⟩

end DeviceAuth
