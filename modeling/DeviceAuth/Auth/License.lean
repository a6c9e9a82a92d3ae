import DeviceAuth.Auth.Error
import DeviceAuth.Auth.Session
import DeviceAuth.Json.Reader
import DeviceAuth.Json.Writer
import DeviceAuth.Signature.Ed25519

/-!
**Licenses.** A license names a limit of devices and an expiry, signed by the issuer. What is signed
is the compact JSON of the terms under a fixed context, computed anew whenever a signature is
checked, so the layout of the text that carried the license does not matter.
-/

namespace DeviceAuth

/-- The signed part of a license. -/
structure LicenseTerms where
  licenseId : String
  /-- The most devices that may hold sessions at once; zero for no limit. -/
  maxDevices : UInt32
  expiresAt : Instant
  deriving DecidableEq

namespace LicenseTerms

/-- The members of the terms, in the order in which they are signed. -/
def members (terms : LicenseTerms) : List (String × Json) :=
  [("license_id", Json.ofText terms.licenseId),
    ("max_devices", Json.ofNat terms.maxDevices.toNat),
    ("expires_at", terms.expiresAt.toJson)]

/-- The terms as a JSON value. -/
def toJson (terms : LicenseTerms) : Json :=
  Json.ofMembers terms.members

/-- The terms with these fields. -/
def ofFields? (licenseId maxDevices expiresAt : Option Json) : Option LicenseTerms := do
  return {
    licenseId := ← Json.required? Json.text? licenseId
    maxDevices := ← Json.required? Json.word32? maxDevices
    expiresAt := ← Json.required? Instant.ofJson? expiresAt }

/-- The terms of a JSON value. -/
def ofJson? (value : Json) : Option LicenseTerms := do
  match ← value.fields? ["license_id", "max_devices", "expires_at"] with
  | [licenseId, maxDevices, expiresAt] => ofFields? licenseId maxDevices expiresAt
  | _ => none

/-- The message that the issuer signs. -/
def signedBytes (terms : LicenseTerms) : Bytes :=
  Bytes.ofText "edgeguard-license-v1:" ++ terms.toJson.render

end LicenseTerms

/-- A license with its signature. -/
structure License where
  terms : LicenseTerms
  /-- The signature in hexadecimal. -/
  signature : String
  deriving DecidableEq

namespace License

/-- The license that an issuer gives for terms. -/
def sign (terms : LicenseTerms) (issuer : Ed25519.SecretKey) : License :=
  ⟨terms, Hex.encode (Ed25519.sign issuer terms.signedBytes)⟩

/-- A license as a JSON value: the signature stands after the members of the terms. -/
def toJson (license : License) : Json :=
  Json.ofMembers (license.terms.members ++ [("signature", Json.ofText license.signature)])

/-- How deep arrays and objects may be nested in the text of a license. -/
def maximumDepth : Nat := 127

/-- The license of a JSON object. All of its members are kept before they are read, so all must be
keepable. -/
def ofJson? (value : Json) : Option License := do
  match value with
  | .object members =>
    if ¬ value.keepable maximumDepth then none
    else
      match ← Json.fieldsOfMembers? ["license_id", "max_devices", "expires_at", "signature"]
          members with
      | [licenseId, maxDevices, expiresAt, signature] =>
        return ⟨← LicenseTerms.ofFields? licenseId maxDevices expiresAt,
          ← Json.required? Json.text? signature⟩
      | _ => none
  | _ => none

/-- The terms of a license that the issuer has signed. -/
def verify (license : License) (issuer : Ed25519.PublicKey) :
    Except AuthError LicenseTerms :=
  match Hex.decode license.signature with
  | .error fault => .error (.licenseDenied ("signature is not hex: " ++ fault.message))
  | .ok signature =>
    if signature.length ≠ 64 then .error (.licenseDenied "signature must be 64 bytes")
    else if Ed25519.verify issuer license.terms.signedBytes signature then .ok license.terms
    else .error (.licenseDenied "license signature invalid")

end License

/-- The issuer's public key from its hexadecimal text, blanks around it aside. -/
def issuerKey (text : String) : Except AuthError Ed25519.PublicKey :=
  match Hex.decode (Text.trimmed text) with
  | .error fault => .error (.config ("issuer key is not hex: " ++ fault.message))
  | .ok bytes =>
    if bytes.length ≠ 32 then .error (.config "issuer key must be 32 bytes")
    else
      match Ed25519.PublicKey.ofBytes? bytes with
      | some key => .ok key
      | none =>
        .error (.config
          "issuer key rejected: signature error: Cannot decompress Edwards point")

end DeviceAuth
