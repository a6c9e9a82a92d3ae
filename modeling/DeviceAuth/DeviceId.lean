import DeviceAuth.Field.Word256

/-!
**Device ids as field values.** A device id is a text of 1 to 31 bytes. Its field value is the
number that these bytes spell, most significant first, which is always below the order of the field.

Main statement: the word of an id of 1 to 31 bytes is canonical (`canonical_of_encode`).
-/

namespace DeviceAuth.DeviceId

/-- The most bytes that a device id can have. -/
def maximumLength : Nat := 31

/-- The word of a device id: its bytes, with zeros before them. -/
def encode (id : String) : Except ZkpError Word256 :=
  let bytes := Bytes.ofText id
  if bytes.length = 0 then .error .emptyDeviceId
  else if maximumLength < bytes.length then .error (.deviceIdTooLong bytes.length maximumLength)
  else .ok (Word256.ofNat (Bytes.toNatBE bytes))

/-- Whether a text has the length of a device id. -/
def encodable (id : String) : Bool :=
  (encode id).isOk

/-- The word of a device id is canonical. -/
theorem canonical_of_encode {id : String} {word : Word256} (encoded : encode id = .ok word) :
    word.toNat < scalarModulus := by
  simp only [encode] at encoded
  split at encoded
  · cases encoded
  · split at encoded
    · cases encoded
    · next short =>
      cases encoded
      have bound := Bytes.toNatBE_lt (Bytes.ofText id)
      have within : Bytes.capacity (Bytes.ofText id).length ≤ Bytes.capacity 31 :=
        Bytes.capacity_mono (by simpa [maximumLength] using short)
      have small : Bytes.capacity 31 < scalarModulus := by decide
      have large : Bytes.capacity 31 < Bytes.capacity 32 := by decide
      rw [Word256.toNat_ofNat (by omega)]
      omega

end DeviceAuth.DeviceId
