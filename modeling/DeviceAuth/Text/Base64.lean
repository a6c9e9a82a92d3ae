import DeviceAuth.Bytes

/-!
**Base64 texts.** Two variants: `standard`, padded with `=` to a multiple of four symbols, and
`urlSafe`, with `-` and `_` in place of `+` and `/` and without padding. Reading is strict: padding
is required or forbidden as the variant says, and the bits of the last symbol that belong to no byte
must be zero, so every byte string has one text.

When several things are wrong with a text, its length comes first (a text of `4k + 1` bytes that
does not end in a foreign byte), then the first byte out of place, then the padding, then the last
bits.
-/

namespace DeviceAuth.Base64

/-- A variant of the format: its last two symbols, and whether texts are padded. -/
structure Variant where
  /-- The symbol of value 62. -/
  symbol62 : Char
  /-- The symbol of value 63. -/
  symbol63 : Char
  /-- Whether `=` fills the last group up to four symbols. -/
  padded : Bool
  deriving DecidableEq, Repr

/-- The common variant, with padding. -/
def standard : Variant := ⟨'+', '/', true⟩

/-- The variant for file names and web addresses, without padding. -/
def urlSafe : Variant := ⟨'-', '_', false⟩

/-- Why a text is refused. -/
inductive Error where
  /-- The byte at this offset is out of place. -/
  | invalidByte (offset : Nat) (byte : UInt8)
  /-- One symbol too many: six bits cannot hold a byte. -/
  | invalidLength
  /-- The last symbol carries bits that belong to no byte. -/
  | invalidLastSymbol (offset : Nat) (byte : UInt8)
  /-- Padding is missing, or stands where none may stand. -/
  | invalidPadding
  deriving DecidableEq, Repr

/-- The wording of an error; bytes are shown as numbers. -/
def Error.message : Error → String
  | .invalidByte offset byte =>
    "Invalid byte " ++ toString byte.toNat ++ ", offset " ++ toString offset ++ "."
  | .invalidLength => "Encoded text cannot have a 6-bit remainder."
  | .invalidLastSymbol offset byte =>
    "Invalid last symbol " ++ toString byte.toNat ++ ", offset " ++ toString offset ++ "."
  | .invalidPadding => "Invalid padding"

/-- The symbol of a value below 64. -/
def Variant.symbol (variant : Variant) (value : Nat) : Char :=
  if value < 26 then Char.ofNat (65 + value)
  else if value < 52 then Char.ofNat (71 + value)
  else if value < 62 then Char.ofNat (value - 4)
  else if value = 62 then variant.symbol62
  else variant.symbol63

/-- The value of a symbol. -/
def Variant.value? (variant : Variant) (byte : UInt8) : Option Nat :=
  let code := byte.toNat
  if 65 ≤ code ∧ code ≤ 90 then some (code - 65)
  else if 97 ≤ code ∧ code ≤ 122 then some (code - 71)
  else if 48 ≤ code ∧ code ≤ 57 then some (code + 4)
  else if code = variant.symbol62.toNat then some 62
  else if code = variant.symbol63.toNat then some 63
  else none

/-- The padding byte, `=`. -/
def padding : UInt8 := 61

/-- Four symbols for every three bytes; a last group of one or two bytes takes two or three. -/
def Variant.encodeChars (variant : Variant) : Bytes → List Char
  | first :: second :: third :: rest =>
    variant.symbol (first.toNat / 4)
      :: variant.symbol (first.toNat % 4 * 16 + second.toNat / 16)
      :: variant.symbol (second.toNat % 16 * 4 + third.toNat / 64)
      :: variant.symbol (third.toNat % 64)
      :: variant.encodeChars rest
  | [first, second] =>
    [variant.symbol (first.toNat / 4),
      variant.symbol (first.toNat % 4 * 16 + second.toNat / 16),
      variant.symbol (second.toNat % 16 * 4)]
      ++ if variant.padded then ['='] else []
  | [first] =>
    [variant.symbol (first.toNat / 4), variant.symbol (first.toNat % 4 * 16)]
      ++ if variant.padded then ['=', '='] else []
  | [] => []

/-- The text of a byte string. -/
def Variant.encode (variant : Variant) (bytes : Bytes) : String :=
  String.ofList (variant.encodeChars bytes)

/-- The bytes that a list of symbol values spells, and whether bits are left over in the last. -/
def bytesOfValues : List Nat → Bytes × Bool
  | first :: second :: third :: fourth :: rest =>
    let (bytes, leftOver) := bytesOfValues rest
    (UInt8.ofNat (first * 4 + second / 16) :: UInt8.ofNat (second % 16 * 16 + third / 4)
      :: UInt8.ofNat (third % 4 * 64 + fourth) :: bytes, leftOver)
  | [first, second, third] =>
    ([UInt8.ofNat (first * 4 + second / 16), UInt8.ofNat (second % 16 * 16 + third / 4)],
      third % 4 != 0)
  | [first, second] => ([UInt8.ofNat (first * 4 + second / 16)], second % 16 != 0)
  | _ => ([], false)

/-- Refuses a text of `4k + 1` bytes, naming its last byte if that is neither symbol nor padding. -/
def Variant.checkLength (variant : Variant) (text : Bytes) : Except Error Unit :=
  if text.length % 4 = 1 then
    match text.getLast? with
    | some last =>
      if last ≠ padding ∧ variant.value? last = none then
        .error (.invalidByte (text.length - 1) last)
      else .error .invalidLength
    | none => .error .invalidLength
  else .ok ()

/-- What follows `count` symbols must be padding that starts after two or three symbols of a group
and does not go beyond it. -/
def checkTail (count : Nat) : Bytes → Except Error Unit
  | [] => .ok ()
  | byte :: rest =>
    if byte ≠ padding then .error (.invalidByte count byte)
    else if 2 ≤ count % 4 ∧ rest.all (· == padding) ∧ count % 4 + 1 + rest.length ≤ 4 then .ok ()
    else .error (.invalidByte count padding)

/-- Reads a text strictly. -/
def Variant.decodeBytes (variant : Variant) (text : Bytes) : Except Error Bytes := do
  variant.checkLength text
  let symbols := text.takeWhile fun byte => (variant.value? byte).isSome
  let tail := text.dropWhile fun byte => (variant.value? byte).isSome
  checkTail symbols.length tail
  if (if variant.padded then text.length % 4 != 0 else tail.length != 0) then
    throw .invalidPadding
  let (bytes, leftOver) := bytesOfValues (symbols.filterMap variant.value?)
  if leftOver then
    throw (.invalidLastSymbol (symbols.length - 1) (symbols.getLastD 0))
  return bytes

/-- Reads a text strictly. -/
def Variant.decode (variant : Variant) (text : String) : Except Error Bytes :=
  variant.decodeBytes (Bytes.ofText text)

/-! ### The symbols -/

theorem standard_value?_symbol (value : Fin 64) :
    standard.value? (UInt8.ofNat (standard.symbol value).toNat) = some value.val := by
  revert value
  decide

theorem urlSafe_value?_symbol (value : Fin 64) :
    urlSafe.value? (UInt8.ofNat (urlSafe.symbol value).toNat) = some value.val := by
  revert value
  decide

end DeviceAuth.Base64
