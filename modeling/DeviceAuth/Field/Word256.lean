import DeviceAuth.Field.Basic
import DeviceAuth.Text.Basic
import DeviceAuth.Text.Hex
import DeviceAuth.Zkp.Error

/-!
**Field values as they travel.** A field value travels as 32 bytes, most significant first, in
hexadecimal texts and in JSON. A word may hold any 32 bytes; it is canonical if its number is below
the order of the scalar field, and a word is known to be canonical by being the word of what its
number reduces to. Values that are not canonical are refused, so that each value has exactly one
form.

Main statements: the words that are read are those whose number is below the order
(`toScalar?_eq_some_iff`), a scalar is read back from its word (`toScalar?_ofScalar`), and a word
that is read is the word of what was read (`ofScalar_of_toScalar?`).
-/

namespace DeviceAuth

/-- A string of 32 bytes, most significant first. -/
structure Word256 where
  /-- The bytes. -/
  bytes : Bytes
  length_bytes : bytes.length = 32
  deriving DecidableEq

namespace Word256

/-- The number of a word. -/
def toNat (word : Word256) : Nat :=
  Bytes.toNatBE word.bytes

/-- The word with these bytes, if there are 32. -/
def ofBytes? (bytes : Bytes) : Option Word256 :=
  if length : bytes.length = 32 then some ⟨bytes, length⟩ else none

/-- The word of a number that fits in 32 bytes. -/
def ofNat (number : Nat) : Word256 :=
  ⟨Bytes.ofNatBE 32 number, Bytes.length_ofNatBE 32 number⟩

instance : Inhabited Word256 := ⟨ofNat 0⟩

/-- The word of a scalar. -/
def ofScalar (value : Scalar) : Word256 :=
  ofNat value.val

/-- The scalar that the number of a word reduces to. -/
def reduced (word : Word256) : Scalar :=
  Scalar.ofNat word.toNat

/-- The scalar of a canonical word, which is the word of what it reduces to. -/
def toScalar? (word : Word256) : Option Scalar :=
  if ofScalar word.reduced = word then some word.reduced else none

/-- The scalar of a canonical word; others are refused. -/
def toScalar (word : Word256) : Except ZkpError Scalar :=
  match word.toScalar? with
  | some value => .ok value
  | none => .error (.invalidEncoding "value is not a canonical field element")

/-- The word itself, if it is canonical. -/
def canonical (word : Word256) : Except ZkpError Word256 := do
  let _ ← word.toScalar
  return word

/-- The lower-case hexadecimal text of a word. -/
def toHex (word : Word256) : String :=
  Hex.encode word.bytes

/-- The canonical word that a hexadecimal text, blanks around it aside, spells. -/
def ofHex (text : String) : Except ZkpError Word256 :=
  match Hex.decode (Text.trimmed text) with
  | .error fault => .error (.invalidEncoding ("invalid hex: " ++ fault.message))
  | .ok bytes =>
    match ofBytes? bytes with
    | none =>
      .error (.invalidEncoding ("expected 32 bytes, got " ++ toString bytes.length))
    | some word => word.canonical

/-- A word as diagnostics show it. -/
def diagnostic (word : Word256) : String :=
  "FieldBytes(" ++ word.toHex ++ ")"

/-! ### Words and scalars -/

@[simp] theorem ofNat_toNat (word : Word256) : ofNat word.toNat = word := by
  obtain ⟨bytes, length⟩ := word
  have back := Bytes.ofNatBE_toNatBE bytes
  rw [length] at back
  simp [ofNat, toNat, back]

theorem toNat_ofNat {number : Nat} (small : number < Bytes.capacity 32) :
    (ofNat number).toNat = number := by
  rw [toNat, ofNat, Bytes.toNatBE_ofNatBE, Nat.mod_eq_of_lt small]

theorem toNat_ofScalar (value : Scalar) : (ofScalar value).toNat = value.val := by
  have small : scalarModulus < Bytes.capacity 32 := by decide
  exact toNat_ofNat (Nat.lt_trans value.isLt small)

/-- A word is that of what it reduces to if its number is below the order of the field. -/
theorem ofScalar_reduced_iff {word : Word256} :
    ofScalar word.reduced = word ↔ word.toNat < scalarModulus := by
  have number : (ofScalar word.reduced).toNat = word.toNat % scalarModulus :=
    toNat_ofScalar word.reduced
  constructor
  · intro same
    rw [same] at number
    exact number ▸ Nat.mod_lt _ (by decide)
  · intro below
    rw [← ofNat_toNat (ofScalar word.reduced), number, Nat.mod_eq_of_lt below, ofNat_toNat]

/-- A word is read as a scalar if its number is that of the scalar. -/
theorem toScalar?_eq_some_iff {word : Word256} {value : Scalar} :
    word.toScalar? = some value ↔ word.toNat = value.val := by
  rw [toScalar?]
  constructor
  · intro read
    split at read
    · next same =>
      cases read
      exact (Nat.mod_eq_of_lt (ofScalar_reduced_iff.1 same)).symm
    · cases read
  · intro number
    have below : word.toNat < scalarModulus := number ▸ value.isLt
    rw [if_pos (ofScalar_reduced_iff.2 below), Option.some_inj]
    exact Fin.ext ((Nat.mod_eq_of_lt below).trans number)

/-- A scalar is read back from its word. -/
@[simp] theorem toScalar?_ofScalar (value : Scalar) : (ofScalar value).toScalar? = some value :=
  toScalar?_eq_some_iff.2 (toNat_ofScalar value)

/-- A word that is read is the word of what was read. -/
theorem ofScalar_of_toScalar? {word : Word256} {value : Scalar}
    (read : word.toScalar? = some value) : ofScalar value = word := by
  rw [← ofNat_toNat word, toScalar?_eq_some_iff.1 read, ofScalar]

end Word256

end DeviceAuth
