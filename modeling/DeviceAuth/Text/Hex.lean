import DeviceAuth.Bytes
import DeviceAuth.Text.Quoted

/-!
**Hexadecimal texts.** `encode` writes each byte as two lower-case digits; `decode` reads digits of
either case. A text of odd length is refused before its digits are looked at; otherwise the first
byte that is no digit is named with its offset.
-/

namespace DeviceAuth.Hex

/-- Why a text is not hexadecimal. -/
inductive Error where
  /-- The text has an odd number of bytes. -/
  | oddLength
  /-- The byte at this offset is not a digit. -/
  | invalidCharacter (byte : UInt8) (position : Nat)
  deriving DecidableEq, Repr

/-- The wording of an error; the byte is shown as the character with its code point. -/
def Error.message : Error → String
  | .oddLength => "Odd number of digits"
  | .invalidCharacter byte position =>
    "Invalid character " ++ Text.quotedChar (Char.ofNat byte.toNat) ++ " at position "
      ++ toString position

/-- The digit of a number below sixteen. -/
def digit (value : Nat) : Char :=
  if value < 10 then Char.ofNat (48 + value) else Char.ofNat (87 + value)

/-- The value of the digit of either case that has this code. -/
def digitValue? (code : Nat) : Option Nat :=
  if 48 ≤ code ∧ code ≤ 57 then some (code - 48)
  else if 97 ≤ code ∧ code ≤ 102 then some (code - 87)
  else if 65 ≤ code ∧ code ≤ 70 then some (code - 55)
  else none

/-- Two digits for each byte. -/
def encodeChars (bytes : Bytes) : List Char :=
  bytes.flatMap fun byte => [digit (byte.toNat / 16), digit (byte.toNat % 16)]

/-- Two lower-case digits for each byte. -/
def encode (bytes : Bytes) : String :=
  String.ofList (encodeChars bytes)

/-- The value of the digit at an offset. -/
def digitAt (position : Nat) (byte : UInt8) : Except Error Nat :=
  match digitValue? byte.toNat with
  | some value => .ok value
  | none => .error (.invalidCharacter byte position)

/-- Reads pairs of digits, of which the first stands at offset `position`. -/
def decodePairs (position : Nat) : Bytes → Except Error Bytes
  | high :: low :: rest => do
    let highValue ← digitAt position high
    let lowValue ← digitAt (position + 1) low
    let bytes ← decodePairs (position + 2) rest
    return UInt8.ofNat (16 * highValue + lowValue) :: bytes
  | _ => .ok []

/-- Reads a text of an even number of digits. -/
def decodeBytes (text : Bytes) : Except Error Bytes :=
  if text.length % 2 = 1 then .error .oddLength else decodePairs 0 text

/-- Reads a text of an even number of digits. -/
def decode (text : String) : Except Error Bytes :=
  decodeBytes (Bytes.ofText text)

end DeviceAuth.Hex
