import DeviceAuth.Json.Basic
import DeviceAuth.Text.Basic
import DeviceAuth.Text.Hex

/-!
**Reading JSON texts.** `Json.parse?` accepts exactly the texts of the format: one value, with
blanks (space, tab, line feed, carriage return) around its parts and nothing after it. The fuel of
the three mutual functions is paid by the bytes they consume, so the length of the text suffices.
-/

namespace DeviceAuth.Json

/-! ### Bytes with a meaning of their own -/

/-- Whether a byte is a blank between the parts of a text. -/
def isBlankByte (byte : UInt8) : Bool :=
  byte == 32 || byte == 9 || byte == 10 || byte == 13

/-- Drops the blanks that a text starts with. -/
def skipBlanks (text : Bytes) : Bytes :=
  text.dropWhile isBlankByte

/-- Whether a byte is a decimal digit. -/
def isDigitByte (byte : UInt8) : Bool :=
  48 ≤ byte && byte ≤ 57

/-- The values of decimal digits. -/
def digitValues (digits : Bytes) : List Nat :=
  digits.map fun byte => byte.toNat - 48

/-- The number that a run of decimal digits spells. -/
def digitsValue (digits : Bytes) : Nat :=
  Text.ofDigits 10 (digitValues digits)

/-! ### Strings -/

/-- A part of a string literal: a byte, or the unit that a four-digit escape names. -/
inductive StringPart where
  | byte (value : UInt8)
  | unit (value : Nat)
  deriving DecidableEq, Repr

/-- The byte that a one-letter escape stands for. -/
def shortEscape? (mark : UInt8) : Option UInt8 :=
  if mark = 34 ∨ mark = 92 ∨ mark = 47 then some mark
  else if mark = 98 then some 8
  else if mark = 102 then some 12
  else if mark = 110 then some 10
  else if mark = 114 then some 13
  else if mark = 116 then some 9
  else none

/-- The unit that four hexadecimal digits name. -/
def unitValue? (first second third fourth : UInt8) : Option Nat := do
  let first ← Hex.digitValue? first.toNat
  let second ← Hex.digitValue? second.toNat
  let third ← Hex.digitValue? third.toNat
  let fourth ← Hex.digitValue? fourth.toNat
  return ((first * 16 + second) * 16 + third) * 16 + fourth

/-- The parts of a string literal up to its closing quote, and the text after it. A control
character must be written as an escape. -/
def scanString : Bytes → Option (List StringPart × Bytes)
  | [] => none
  | byte :: rest =>
    if byte = 34 then some ([], rest)
    else if byte = 92 then
      match rest with
      | [] => none
      | mark :: rest =>
        if mark = 117 then
          match rest with
          | first :: second :: third :: fourth :: rest => do
            let unit ← unitValue? first second third fourth
            let (parts, rest) ← scanString rest
            return (.unit unit :: parts, rest)
          | _ => none
        else do
          let byte ← shortEscape? mark
          let (parts, rest) ← scanString rest
          return (.byte byte :: parts, rest)
    else if byte < 32 then none
    else do
      let (parts, rest) ← scanString rest
      return (.byte byte :: parts, rest)

/-- The bytes that the parts of a literal spell. A high surrogate joins with the low surrogate
after it; a surrogate alone spells nothing. -/
def assemble? : List StringPart → Option Bytes
  | [] => some []
  | .byte value :: rest => do
    let bytes ← assemble? rest
    return value :: bytes
  | .unit high :: .unit low :: rest =>
    if 0xD800 ≤ high ∧ high < 0xDC00 then
      if 0xDC00 ≤ low ∧ low < 0xE000 then do
        let bytes ← assemble? rest
        let code := 0x10000 + (high - 0xD800) * 0x400 + (low - 0xDC00)
        return String.utf8EncodeChar (Char.ofNat code) ++ bytes
      else none
    else if 0xDC00 ≤ high ∧ high < 0xE000 then none
    else do
      let bytes ← assemble? (.unit low :: rest)
      return String.utf8EncodeChar (Char.ofNat high) ++ bytes
  | .unit single :: rest =>
    if 0xD800 ≤ single ∧ single < 0xE000 then none
    else do
      let bytes ← assemble? rest
      return String.utf8EncodeChar (Char.ofNat single) ++ bytes

/-- The text that the parts of a literal denote, if they denote one. -/
def denoted? (parts : List StringPart) : Option String :=
  (assemble? parts).bind Bytes.toText?

/-! ### Numbers -/

/-- The digits that a text starts with, at least one, and what follows them. -/
def scanDigits (text : Bytes) : Option (Bytes × Bytes) :=
  let digits := text.takeWhile isDigitByte
  if digits.isEmpty then none else some (digits, text.dropWhile isDigitByte)

/-- The digits of a fraction, if a point follows. -/
def scanFraction : Bytes → Option (Option Bytes × Bytes)
  | 46 :: rest => (scanDigits rest).map fun (digits, rest) => (some digits, rest)
  | text => some (none, text)

/-- The value of an exponent, if one follows. -/
def scanExponent (text : Bytes) : Option (Option Int × Bytes) :=
  match text with
  | [] => some (none, [])
  | mark :: rest =>
    if mark = 101 ∨ mark = 69 then
      let (negative, rest) : Bool × Bytes :=
        match rest with
        | 45 :: rest => (true, rest)
        | 43 :: rest => (false, rest)
        | rest => (false, rest)
      (scanDigits rest).map fun (digits, rest) =>
        (some (if negative then -(digitsValue digits : Int) else digitsValue digits), rest)
    else some (none, text)

/-- A number, of which a leading zero is the whole integer part. -/
def scanNumber (text : Bytes) : Option (Number × Bytes) := do
  let (negative, text) : Bool × Bytes :=
    match text with
    | 45 :: rest => (true, rest)
    | text => (false, text)
  let (whole, text) ← scanDigits text
  if whole.head? = some 48 ∧ whole.length ≠ 1 then none
  let (fraction, text) ← scanFraction text
  let (exponent, text) ← scanExponent text
  match fraction, exponent with
  | none, none =>
    let value := digitsValue whole
    if negative then
      if value = 0 then return (.scientific true [0] [] 0, text)
      else return (.integer (-(value : Int)), text)
    else return (.integer value, text)
  | fraction, exponent =>
    return (.scientific negative (digitValues whole) (digitValues (fraction.getD []))
      (exponent.getD 0), text)

/-! ### Values -/

/-- Drops a word that a text starts with. -/
def dropWord? (word text : Bytes) : Option Bytes :=
  if word.isPrefixOf text then some (text.drop word.length) else none

mutual

/-- A value, with the blanks before it, and the text after it. -/
def scanValue : (fuel : Nat) → Bytes → Option (Json × Bytes)
  | 0, _ => none
  | fuel + 1, text =>
    match skipBlanks text with
    | [] => none
    | byte :: rest =>
      if byte = 34 then
        (scanString rest).map fun (parts, rest) => (.string (denoted? parts), rest)
      else if byte = 123 then
        match skipBlanks rest with
        | 125 :: rest => some (.object [], rest)
        | rest => (scanMembers fuel rest).map fun (members, rest) => (.object members, rest)
      else if byte = 91 then
        match skipBlanks rest with
        | 93 :: rest => some (.array [], rest)
        | rest => (scanItems fuel rest).map fun (items, rest) => (.array items, rest)
      else if byte = 116 then
        (dropWord? [114, 117, 101] rest).map fun rest => (.boolean true, rest)
      else if byte = 102 then
        (dropWord? [97, 108, 115, 101] rest).map fun rest => (.boolean false, rest)
      else if byte = 110 then
        (dropWord? [117, 108, 108] rest).map fun rest => (.null, rest)
      else (scanNumber (byte :: rest)).map fun (literal, rest) => (.number literal, rest)

/-- One item or more, up to the closing bracket. -/
def scanItems : (fuel : Nat) → Bytes → Option (List Json × Bytes)
  | 0, _ => none
  | fuel + 1, text => do
    let (item, rest) ← scanValue fuel text
    match skipBlanks rest with
    | 93 :: rest => return ([item], rest)
    | 44 :: rest =>
      let (items, rest) ← scanItems fuel rest
      return (item :: items, rest)
    | _ => none

/-- One member or more, up to the closing brace. -/
def scanMembers : (fuel : Nat) → Bytes → Option (List (Option String × Json) × Bytes)
  | 0, _ => none
  | fuel + 1, text =>
    match skipBlanks text with
    | 34 :: rest => do
      let (parts, rest) ← scanString rest
      match skipBlanks rest with
      | 58 :: rest =>
        let (value, rest) ← scanValue fuel rest
        match skipBlanks rest with
        | 125 :: rest => return ([(denoted? parts, value)], rest)
        | 44 :: rest =>
          let (members, rest) ← scanMembers fuel rest
          return ((denoted? parts, value) :: members, rest)
        | _ => none
      | _ => none
    | _ => none

end

/-- The value that a text starts with, and the text after it. -/
def parseStart? (text : Bytes) : Option (Json × Bytes) :=
  scanValue (text.length + 1) text

/-- The value of a JSON text. -/
def parse? (text : Bytes) : Option Json :=
  match parseStart? text with
  | some (value, rest) => if (skipBlanks rest).isEmpty then some value else none
  | none => none

end DeviceAuth.Json
