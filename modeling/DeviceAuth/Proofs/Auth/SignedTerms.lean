import Mathlib.Logic.Function.Basic
import DeviceAuth.Auth.License
import DeviceAuth.Proofs.Json.Magnitude
import DeviceAuth.Proofs.Time.Rfc3339
import DeviceAuth.Proofs.Zkp.Documents

/-!
**What a license signs.** The message is written anew from the terms, so it must be the same
whenever the terms are the same, and differ whenever they differ. Both follow from reading back: the
terms are read from their own message, and a license, with whatever signature, from its own document
(`LicenseTerms.ofJson?_toJson`, `License.readBack?_toJson`). An issuer's license therefore verifies
after a round trip exactly if its signature does, and the layout of a text does not matter.
-/

namespace DeviceAuth

theorem Instant.ofJson?_toJson (instant : Instant) : ofJson? instant.toJson = some instant := by
  rw [ofJson?, toJson, Json.ofText, Json.text?, Option.bind_some, Rfc3339.parse?_render]

/-- A signature has 64 bytes. -/
theorem Ed25519.length_sign (key : SecretKey) (message : Bytes) :
    (sign key message).length = 64 := by
  rw [sign, List.length_append, Point.encode, Bytes.length_ofNatLE, Bytes.length_ofNatLE]

namespace LicenseTerms

theorem ofFields?_members (terms : LicenseTerms) :
    ofFields? (some (Json.ofText terms.licenseId)) (some (Json.ofNat terms.maxDevices.toNat))
      (some terms.expiresAt.toJson) = some terms := by
  simp only [ofFields?, Json.required?, Option.bind_some, Option.bind_eq_bind, Json.word32?_ofNat,
    Instant.ofJson?_toJson, Json.ofText, Json.text?]
  rfl

/-- **The terms of a license are read back from what is signed.** -/
theorem ofJson?_toJson (terms : LicenseTerms) : ofJson? terms.toJson = some terms := by
  have fields : terms.toJson.fields? ["license_id", "max_devices", "expires_at"]
      = some [some (Json.ofText terms.licenseId), some (Json.ofNat terms.maxDevices.toNat),
        some terms.expiresAt.toJson] :=
    Json.fields?_ofMembers rfl (by decide)
  rw [ofJson?, fields]
  exact ofFields?_members terms

theorem readBack?_toJson (terms : LicenseTerms) :
    Json.readBack? ofJson? terms.toJson = some terms :=
  Json.readBack?_of_plain rfl (ofJson?_toJson terms)

end LicenseTerms

namespace License

/-- The document of a license can be kept whole, as its reader demands. -/
theorem keepable_toJson (license : License) : license.toJson.keepable maximumDepth = true := by
  have fits := license.terms.maxDevices.toNat_lt
  have magnitude : (Json.Number.magnitude? (.integer license.terms.maxDevices.toNat)).isSome :=
    Json.Number.isSome_magnitude? (by simp only [Json.Number.wordEnd, Int.natAbs_natCast]; omega)
  simp [toJson, LicenseTerms.members, Json.ofMembers, Json.ofText, Json.ofNat, Instant.toJson,
    maximumDepth, Json.keepable, Json.keepableMembers, magnitude]

theorem ofJson?_toJson (license : License) : ofJson? license.toJson = some license := by
  have fields : license.toJson.fields? ["license_id", "max_devices", "expires_at", "signature"]
      = some [some (Json.ofText license.terms.licenseId),
        some (Json.ofNat license.terms.maxDevices.toNat), some license.terms.expiresAt.toJson,
        some (Json.ofText license.signature)] :=
    Json.fields?_ofMembers rfl (by decide)
  have kept := license.keepable_toJson
  rw [toJson, Json.ofMembers, Json.fields?] at fields
  rw [toJson, Json.ofMembers] at kept ⊢
  simp only [ofJson?, kept, fields, not_true, if_false, Option.bind_eq_bind, Option.bind_some,
    LicenseTerms.ofFields?_members]
  rfl

/-- **A license is read back from its document,** whatever its signature is. -/
theorem readBack?_toJson (license : License) :
    Json.readBack? ofJson? license.toJson = some license :=
  Json.readBack?_of_plain rfl (ofJson?_toJson license)

theorem verify_encode (terms : LicenseTerms) (key : Ed25519.PublicKey) {signature : Bytes}
    (length : signature.length = 64) :
    (mk terms (Hex.encode signature)).verify key =
      if Ed25519.verify key terms.signedBytes signature then .ok terms
      else .error (.licenseDenied "license signature invalid") := by
  rw [verify, Hex.decode_encode]
  exact if_neg (not_not_intro length)

/-- The signature that is checked is the one that was made, over the same message. -/
theorem verify_sign (terms : LicenseTerms) (issuer : Ed25519.SecretKey) (key : Ed25519.PublicKey) :
    (sign terms issuer).verify key =
      if Ed25519.verify key terms.signedBytes (Ed25519.sign issuer terms.signedBytes) then .ok terms
      else .error (.licenseDenied "license signature invalid") :=
  verify_encode terms key (Ed25519.length_sign issuer terms.signedBytes)

end License

end DeviceAuth
