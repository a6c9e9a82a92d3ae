import DeviceAuth.Json.Basic

/-!
**Writing JSON texts.** `Json.render` writes a value without blanks, members in order.
`Json.renderIndented` puts each item and member on a line of its own, two spaces further in than
what encloses it. In strings the quote, the backslash and the control characters below the space are
escaped, the latter by a letter where one exists and otherwise by four lower-case digits; every
other byte stands for itself.
-/

namespace DeviceAuth.Json

/-- The lower-case hexadecimal digit of a value below sixteen. -/
def hexDigitByte (value : Nat) : UInt8 :=
  UInt8.ofNat (if value < 10 then 48 + value else 87 + value)

/-- A byte of a text as it stands in a string literal. -/
def escapeByte (byte : UInt8) : Bytes :=
  if byte = 34 then [92, 34]
  else if byte = 92 then [92, 92]
  else if byte = 8 then [92, 98]
  else if byte = 9 then [92, 116]
  else if byte = 10 then [92, 110]
  else if byte = 12 then [92, 102]
  else if byte = 13 then [92, 114]
  else if byte < 32 then
    [92, 117, 48, 48, hexDigitByte (byte.toNat / 16), hexDigitByte (byte.toNat % 16)]
  else [byte]

/-- The literal of a text. -/
def renderText (text : String) : Bytes :=
  34 :: ((Bytes.ofText text).flatMap escapeByte ++ [34])

/-- The literal of a string; one that denotes no text is shown empty. -/
def renderString (text : Option String) : Bytes :=
  renderText (text.getD "")

/-- The decimal digits of a number. -/
def renderNat (value : Nat) : Bytes :=
  (Nat.toDigits 10 value).map fun digit => UInt8.ofNat digit.toNat

/-- The literal of an integer. -/
def renderInt : Int → Bytes
  | .ofNat value => renderNat value
  | .negSucc value => 45 :: renderNat (value + 1)

/-- A literal of a number. -/
def renderNumber : Number → Bytes
  | .integer value => renderInt value
  | .scientific negative whole fraction exponent =>
    (if negative then [45] else []) ++ whole.flatMap renderNat
      ++ (if fraction.isEmpty then [] else 46 :: fraction.flatMap renderNat)
      ++ 101 :: renderInt exponent

mutual

/-- The text of a value, without blanks. -/
def render : Json → Bytes
  | .null => [110, 117, 108, 108]
  | .boolean true => [116, 114, 117, 101]
  | .boolean false => [102, 97, 108, 115, 101]
  | .number value => renderNumber value
  | .string text => renderString text
  | .array items => 91 :: (renderItems items ++ [93])
  | .object members => 123 :: (renderMembers members ++ [125])

/-- Items with commas between them. -/
def renderItems : List Json → Bytes
  | [] => []
  | [item] => render item
  | item :: items => render item ++ 44 :: renderItems items

/-- Members with commas between them. -/
def renderMembers : List (Option String × Json) → Bytes
  | [] => []
  | [(name, value)] => renderString name ++ 58 :: render value
  | (name, value) :: members =>
    renderString name ++ 58 :: (render value ++ 44 :: renderMembers members)

end

/-- A new line, indented by two spaces for each level. -/
def lineBreak (level : Nat) : Bytes :=
  10 :: List.replicate (2 * level) 32

mutual

/-- The text of a value that is enclosed `level` times, each part on a line of its own. -/
def renderAt (level : Nat) : Json → Bytes
  | .array [] => [91, 93]
  | .array items => 91 :: (renderItemsAt level items ++ lineBreak level ++ [93])
  | .object [] => [123, 125]
  | .object members => 123 :: (renderMembersAt level members ++ lineBreak level ++ [125])
  | .null => render .null
  | .boolean value => render (.boolean value)
  | .number value => render (.number value)
  | .string text => render (.string text)

/-- Items, each on a line one level further in. -/
def renderItemsAt (level : Nat) : List Json → Bytes
  | [] => []
  | [item] => lineBreak (level + 1) ++ renderAt (level + 1) item
  | item :: items =>
    lineBreak (level + 1) ++ renderAt (level + 1) item ++ 44 :: renderItemsAt level items

/-- Members, each on a line one level further in. -/
def renderMembersAt (level : Nat) : List (Option String × Json) → Bytes
  | [] => []
  | [(name, value)] =>
    lineBreak (level + 1) ++ renderString name ++ [58, 32] ++ renderAt (level + 1) value
  | (name, value) :: members =>
    lineBreak (level + 1) ++ renderString name ++ [58, 32] ++ renderAt (level + 1) value
      ++ 44 :: renderMembersAt level members

end

/-- The text of a value, each part on a line of its own. -/
def renderIndented (value : Json) : Bytes :=
  renderAt 0 value

end DeviceAuth.Json
