/-!
**Byte strings, and the numbers they spell.** A byte string is a list of bytes. A number is written
in a fixed count of bytes, least significant first (`ofNatLE`) or most significant first
(`ofNatBE`); what does not fit is dropped.

Main statements: reading what was written gives the number modulo the `capacity` of the width
(`toNatLE_ofNatLE`, `toNatBE_ofNatBE`), and writing what was read, in as many bytes, gives the bytes
back (`ofNatLE_toNatLE`, `ofNatBE_toNatBE`), so a byte string of known length is its number.
-/

namespace DeviceAuth

/-- A byte string. -/
abbrev Bytes := List UInt8

namespace Bytes

/-- The bytes of the UTF-8 encoding of a text. -/
def ofText (text : String) : Bytes :=
  text.toByteArray.data.toList

/-- The text whose UTF-8 encoding the bytes are, if there is one. -/
def toText? (bytes : Bytes) : Option String :=
  String.fromUTF8? ⟨bytes.toArray⟩

/-- The number with these base-256 digits, least significant first. -/
def toNatLE : Bytes → Nat
  | [] => 0
  | byte :: rest => byte.toNat + 256 * toNatLE rest

/-- The number with these base-256 digits, most significant first. -/
def toNatBE (bytes : Bytes) : Nat :=
  toNatLE bytes.reverse

/-- The lowest `width` base-256 digits of a number, least significant first. -/
def ofNatLE : (width number : Nat) → Bytes
  | 0, _ => []
  | width + 1, number => UInt8.ofNat number :: ofNatLE width (number / 256)

/-- The lowest `width` base-256 digits of a number, most significant first. -/
def ofNatBE (width number : Nat) : Bytes :=
  (ofNatLE width number).reverse

/-- How many numbers can be written in so many bytes. -/
def capacity (width : Nat) : Nat :=
  Nat.pow 256 width

/-! ### Reading back what was written -/

theorem capacity_succ (width : Nat) : capacity (width + 1) = capacity width * 256 := rfl

theorem capacity_mono {width wider : Nat} (le : width ≤ wider) : capacity width ≤ capacity wider :=
  Nat.pow_le_pow_right (by decide) le

@[simp] theorem toText?_ofText (text : String) : toText? (ofText text) = some text := by
  have valid : (⟨(ofText text).toArray⟩ : ByteArray).IsValidUTF8 := by
    simpa [ofText] using text.isValidUTF8
  simp only [toText?, String.fromUTF8?, dif_pos valid]
  rfl

theorem ofText_inj {first second : String} : ofText first = ofText second ↔ first = second := by
  refine ⟨fun same => ?_, fun same => same ▸ rfl⟩
  have read := congrArg toText? same
  rwa [toText?_ofText, toText?_ofText, Option.some_inj] at read

theorem ofText_append (first second : String) :
    ofText (first ++ second) = ofText first ++ ofText second := by
  simp [ofText]

@[simp] theorem length_ofNatLE (width number : Nat) : (ofNatLE width number).length = width := by
  induction width generalizing number with
  | zero => rfl
  | succ width ih => simp [ofNatLE, ih]

@[simp] theorem length_ofNatBE (width number : Nat) : (ofNatBE width number).length = width := by
  simp [ofNatBE]

theorem toNatLE_lt (bytes : Bytes) : toNatLE bytes < capacity bytes.length := by
  induction bytes with
  | nil => simp [toNatLE, capacity]
  | cons byte rest ih =>
    have byteLt := byte.toNat_lt
    simp only [toNatLE, List.length_cons, capacity_succ]
    omega

theorem toNatLE_ofNatLE (width number : Nat) :
    toNatLE (ofNatLE width number) = number % capacity width := by
  induction width generalizing number with
  | zero => simp [ofNatLE, toNatLE, capacity, Nat.mod_one]
  | succ width ih =>
    rw [ofNatLE, toNatLE, ih, capacity_succ, Nat.mul_comm (capacity width), Nat.mod_mul]
    simp

theorem toNatBE_ofNatBE (width number : Nat) :
    toNatBE (ofNatBE width number) = number % capacity width := by
  simp [toNatBE, ofNatBE, toNatLE_ofNatLE]

theorem toNatBE_concat (bytes : Bytes) (byte : UInt8) :
    toNatBE (bytes ++ [byte]) = byte.toNat + 256 * toNatBE bytes := by
  rw [toNatBE, List.reverse_append]
  rfl

theorem toNatBE_lt (bytes : Bytes) : toNatBE bytes < capacity bytes.length := by
  simpa [toNatBE] using toNatLE_lt bytes.reverse

theorem ofNatLE_toNatLE (bytes : Bytes) : ofNatLE bytes.length (toNatLE bytes) = bytes := by
  induction bytes with
  | nil => rfl
  | cons byte rest ih =>
    have byteLt := byte.toNat_lt
    have quotient : (byte.toNat + 256 * toNatLE rest) / 256 = toNatLE rest := by omega
    have digit : UInt8.ofNat (byte.toNat + 256 * toNatLE rest) = byte := by
      apply UInt8.toNat_inj.1
      simp
    rw [List.length_cons, toNatLE, ofNatLE, quotient, ih, digit]

theorem ofNatBE_toNatBE (bytes : Bytes) : ofNatBE bytes.length (toNatBE bytes) = bytes := by
  have backwards := ofNatLE_toNatLE bytes.reverse
  simp only [List.length_reverse] at backwards
  simp [ofNatBE, toNatBE, backwards]

end Bytes

end DeviceAuth
