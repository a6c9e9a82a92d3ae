import DeviceAuth.Field.Word256
import DeviceAuth.Text.Hex

/-!
**Random bytes and what is made of them.** The library draws nothing itself: whoever runs it hands
in bytes, which become field elements and identifiers here.
-/

namespace DeviceAuth.Draw

/-- How many bytes are drawn for a field element; with so many, none is noticeably more likely. -/
def scalarWidth : Nat := 64

/-- The field element of the bytes from an offset on. -/
def scalar (bytes : Bytes) (offset : Nat) : Scalar :=
  Scalar.ofNat (Bytes.toNatBE ((bytes.drop offset).take scalarWidth))

/-- The field element of the bytes from an offset on, as 32 bytes. -/
def word (bytes : Bytes) (offset : Nat) : Word256 :=
  .ofScalar (scalar bytes offset)

/-- Sixteen bytes with the marks of an identifier that was drawn at random. -/
def marked (bytes : Bytes) : Bytes :=
  (bytes.modify 6 fun byte => byte &&& 0x0F ||| 0x40).modify 8 fun byte => byte &&& 0x3F ||| 0x80

/-- The identifier, a UUID of version 4, of the sixteen bytes from an offset on. -/
def identifier (bytes : Bytes) (offset : Nat) : String :=
  let digits := Hex.encodeChars (marked ((bytes.drop offset).take 16))
  let group (start width : Nat) : List Char := (digits.drop start).take width
  String.ofList (List.intercalate ['-']
    [group 0 8, group 8 4, group 12 4, group 16 4, group 20 12])

/-- Whether a text is written like an identifier. -/
def isIdentifier (text : String) : Bool :=
  let admits (position : Nat) (char : Char) : Bool :=
    if position = 8 ∨ position = 13 ∨ position = 18 ∨ position = 23 then char == '-'
    else if position = 14 then char == '4'
    else if position = 19 then "89ab".toList.contains char
    else "0123456789abcdef".toList.contains char
  text.length == 36 && (text.toList.mapIdx admits).all id

end DeviceAuth.Draw
