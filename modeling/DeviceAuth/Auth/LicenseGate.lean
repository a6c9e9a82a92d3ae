import DeviceAuth.Auth.License
import DeviceAuth.Config.Settings
import DeviceAuth.Files.Tree

/-!
**The license gate.** While nothing has been presented, requests pass. The last license that
verified decides; a license that fails changes nothing once one has verified, and makes the gate
deny before that. A file that cannot be read counts as nothing presented. The keeper is the part of
an enabled gate that remembers what has been presented.

An expired license still serves until its grace period has passed.
-/

namespace DeviceAuth

/-- Why a call ends without its answer. -/
inductive Failure where
  /-- The call is answered with an error. -/
  | refused (error : AuthError)
  /-- An instant that the call needs lies beyond the last one; the call is abandoned. -/
  | overflow
  deriving DecidableEq, Repr

namespace Failure

/-- A result whose errors are refusals. -/
def lift {α : Type} (result : Except AuthError α) : Except Failure α :=
  result.mapError refused

/-- The instant a duration later. -/
def later (instant : Instant) (duration : Duration) : Except Failure Instant :=
  match instant.add? duration with
  | some sum => .ok sum
  | none => .error overflow

/-- The duration of so many seconds. -/
def duration (seconds : Int) : Except Failure Duration :=
  match Duration.ofSeconds? seconds with
  | some span => .ok span
  | none => .error overflow

end Failure

/-- What has been presented to the gate. -/
inductive Presented where
  /-- Nothing that counts. -/
  | pending
  /-- These terms are the last ones that verified. -/
  | loaded (terms : LicenseTerms)
  /-- Nothing verified; the last failure had this reason. -/
  | rejected (reason : String)
  deriving DecidableEq

/-- What is reported of a license. -/
structure LicenseReport where
  enabled : Bool
  licenseId : Option String
  maxDevices : UInt32
  expiresAt : Option Instant
  expired : Bool
  inGracePeriod : Bool
  deriving DecidableEq

/-- What a gate that asks for a license remembers. -/
structure LicenseKeeper where
  issuer : Ed25519.PublicKey
  gracePeriod : Duration
  state : Presented

namespace LicenseKeeper

/-- The keeper to which nothing has been presented. -/
def awaiting (issuer : Ed25519.PublicKey) (gracePeriod : Duration) : LicenseKeeper :=
  ⟨issuer, gracePeriod, .pending⟩

/-- Notes that a license failed, unless one has verified. -/
def reject (keeper : LicenseKeeper) (error : AuthError) : LicenseKeeper :=
  match keeper.state with
  | .loaded _ => keeper
  | _ => { keeper with state := .rejected error.message }

/-- Presents a license. -/
def install (keeper : LicenseKeeper) (license : License) :
    Except AuthError Unit × LicenseKeeper :=
  match license.verify keeper.issuer with
  | .ok terms => (.ok (), { keeper with state := .loaded terms })
  | .error error => (.error error, keeper.reject error)

/-- The error for a document that is no license. -/
def unreadable : AuthError := .serialization "not a signed license"

/-- Presents the license in a file. -/
def load {δ : Type} (keeper : LicenseKeeper) (files : Files.Tree δ) (path : String) :
    Except AuthError Unit × LicenseKeeper :=
  match files.readText path with
  | .error fault => (.error (.licenseDenied (path ++ ": " ++ fault.message)), keeper)
  | .ok text =>
    match (Json.parse? (Bytes.ofText text)).bind License.ofJson? with
    | some license => keeper.install license
    | none => (.error unreadable, keeper.reject unreadable)

/-- Refuses requests that the license does not cover at an instant. -/
def check (keeper : LicenseKeeper) (now : Instant) : Except Failure Unit :=
  match keeper.state with
  | .pending => .ok ()
  | .rejected reason => .error (.refused (.licenseDenied reason))
  | .loaded terms =>
    if now ≤ terms.expiresAt then .ok ()
    else do
      let graceEnd ← Failure.later terms.expiresAt keeper.gracePeriod
      if graceEnd < now then
        .error (.refused (.licenseDenied ("license " ++ terms.licenseId ++ " expired at "
          ++ Rfc3339.renderWithOffset terms.expiresAt)))
      else .ok ()

/-- The most devices that may hold sessions at once; zero for no limit. -/
def maxDevices (keeper : LicenseKeeper) : UInt32 :=
  match keeper.state with
  | .loaded terms => terms.maxDevices
  | _ => 0

/-- The report on the license at an instant. -/
def report (keeper : LicenseKeeper) (now : Instant) : Except Failure LicenseReport :=
  match keeper.state with
  | .loaded terms =>
    let expired : Bool := terms.expiresAt < now
    let described (inGracePeriod : Bool) : LicenseReport :=
      { enabled := true
        licenseId := some terms.licenseId
        maxDevices := terms.maxDevices
        expiresAt := some terms.expiresAt
        expired
        inGracePeriod }
    if expired then do
      let graceEnd ← Failure.later terms.expiresAt keeper.gracePeriod
      return described (now ≤ graceEnd)
    else .ok (described false)
  | _ =>
    .ok { enabled := true, licenseId := none, maxDevices := 0, expiresAt := none, expired := false,
          inGracePeriod := false }

/-- The keeper that settings ask for; a license that is not in place or does not verify is no
error. -/
def ofSettings {δ : Type} (settings : LicenseSettings) (files : Files.Tree δ) :
    Except Failure LicenseKeeper := do
  match settings.issuerPublicKey with
  | none => .error (.refused (.config "license.issuer_public_key is required"))
  | some issuer =>
    if Nat.pow 2 63 ≤ settings.gracePeriod.toNat then
      .error (.refused (.config "license.grace_period_secs out of range"))
    else
      let gracePeriod ← Failure.duration settings.gracePeriod.toNat
      let issuer ← Failure.lift (issuerKey issuer)
      let keeper := awaiting issuer gracePeriod
      match settings.licensePath with
      | some path => return (keeper.load files path).2
      | none => return keeper

end LicenseKeeper

/-- The report as a JSON value. -/
def LicenseReport.toJson (report : LicenseReport) : Json :=
  let licenseId := match report.licenseId with
    | some licenseId => [("license_id", Json.ofText licenseId)]
    | none => []
  let expiresAt := match report.expiresAt with
    | some expiresAt => [("expires_at", expiresAt.toJson)]
    | none => []
  Json.ofMembers (
    [("enabled", .boolean report.enabled)] ++ licenseId
      ++ [("max_devices", Json.ofNat report.maxDevices.toNat)] ++ expiresAt
      ++ [("expired", .boolean report.expired), ("in_grace_period", .boolean report.inGracePeriod)])

/-- What is asked before the service issues a challenge. -/
inductive LicenseGate where
  /-- No license is needed. -/
  | disabled
  | enabled (keeper : LicenseKeeper)

namespace LicenseGate

/-- Whether a license is needed. -/
def isEnabled : LicenseGate → Bool
  | disabled => false
  | enabled _ => true

/-- Refuses requests that the license does not cover at an instant. -/
def check (gate : LicenseGate) (now : Instant) : Except Failure Unit :=
  match gate with
  | disabled => .ok ()
  | enabled keeper => keeper.check now

/-- The most devices that may hold sessions at once; zero for no limit. -/
def maxDevices : LicenseGate → UInt32
  | disabled => 0
  | enabled keeper => keeper.maxDevices

end LicenseGate

end DeviceAuth
