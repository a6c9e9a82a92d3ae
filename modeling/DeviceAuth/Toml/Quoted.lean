import DeviceAuth.Toml.Literal

/-!
**Strings in quotes.** Double quotes allow escapes, single quotes take everything literally; three
quotes of either kind hold several lines. A control character other than a tab must be written as an
escape. The fuel is paid by the characters that are read.
-/

namespace DeviceAuth.Toml

/-- Whether a character may stand for itself. -/
def isPlain (char : Char) : Bool :=
  char == '\t' || (32 ≤ char.toNat && char.toNat != 127)

/-- Drops blanks. -/
def skipBlanks (text : List Char) : List Char :=
  text.dropWhile fun char => char == ' ' || char == '\t'

/-- Drops blanks and the ends of lines. -/
def skipBlankLines : List Char → List Char
  | ' ' :: rest => skipBlankLines rest
  | '\t' :: rest => skipBlankLines rest
  | '\n' :: rest => skipBlankLines rest
  | '\r' :: '\n' :: rest => skipBlankLines rest
  | unchanged => unchanged

/-- Drops the end of a line that a text starts with. -/
def dropNewline? : List Char → Option (List Char)
  | '\n' :: rest => some rest
  | '\r' :: '\n' :: rest => some rest
  | _ => none

/-- The character that so many hexadecimal digits name, and the text after them. -/
def namedChar? (width : Nat) (text : List Char) : Option (Char × List Char) := do
  let digits ← (text.take width).mapM fun char => Hex.digitValue? char.toNat
  let code := Text.ofDigits 16 digits
  if digits.length = width ∧ code.isValidChar then some (Char.ofNat code, text.drop width)
  else none

/-- The character that an escape stands for, after its backslash, and the text after it. -/
def escaped? : List Char → Option (Char × List Char)
  | 'b' :: rest => some ('\x08', rest)
  | 't' :: rest => some ('\t', rest)
  | 'n' :: rest => some ('\n', rest)
  | 'f' :: rest => some ('\x0c', rest)
  | 'r' :: rest => some ('\r', rest)
  | '"' :: rest => some ('"', rest)
  | '\\' :: rest => some ('\\', rest)
  | 'u' :: rest => namedChar? 4 rest
  | 'U' :: rest => namedChar? 8 rest
  | _ => none

/-- Up to two quotes that stand before the closing quotes belong to the content. -/
def closeBlock (quote : Char) (rest : List Char) : List Char × List Char :=
  let extra := (rest.takeWhile (· == quote)).take 2
  (extra, rest.drop extra.length)

/-- The content of a string in double quotes up to the closing one, and the text after it. -/
def scanBasic : (fuel : Nat) → List Char → Option (List Char × List Char)
  | 0, _ => none
  | fuel + 1, text =>
    match text with
    | [] => none
    | '"' :: rest => some ([], rest)
    | '\\' :: rest => do
      let (char, rest) ← escaped? rest
      let (content, rest) ← scanBasic fuel rest
      return (char :: content, rest)
    | char :: rest =>
      if isPlain char then do
        let (content, rest) ← scanBasic fuel rest
        return (char :: content, rest)
      else none

/-- The content of a string in single quotes up to the closing one, and the text after it. -/
def scanLiteral : List Char → Option (List Char × List Char)
  | [] => none
  | '\'' :: rest => some ([], rest)
  | char :: rest =>
    if isPlain char then do
      let (content, rest) ← scanLiteral rest
      return (char :: content, rest)
    else none

/-- The content of a string in three double quotes, and the text after it. A backslash at the end of
a line takes away all blanks up to the next text. -/
def scanBasicBlock : (fuel : Nat) → List Char → Option (List Char × List Char)
  | 0, _ => none
  | fuel + 1, text =>
    let goOn (char : Char) (rest : List Char) : Option (List Char × List Char) := do
      let (content, rest) ← scanBasicBlock fuel rest
      return (char :: content, rest)
    match text with
    | [] => none
    | '"' :: '"' :: '"' :: rest => some (closeBlock '"' rest)
    | '\\' :: rest =>
      match dropNewline? (skipBlanks rest) with
      | some rest => scanBasicBlock fuel (skipBlankLines rest)
      | none => do
        let (char, rest) ← escaped? rest
        goOn char rest
    | '\n' :: rest => goOn '\n' rest
    | '\r' :: '\n' :: rest => goOn '\n' rest
    | char :: rest => if isPlain char then goOn char rest else none

/-- The content of a string in three single quotes, and the text after it. -/
def scanLiteralBlock : List Char → Option (List Char × List Char)
  | [] => none
  | '\'' :: '\'' :: '\'' :: rest => some (closeBlock '\'' rest)
  | '\r' :: '\n' :: rest => do
    let (content, rest) ← scanLiteralBlock rest
    return ('\n' :: content, rest)
  | char :: rest =>
    if isPlain char ∨ char = '\n' then do
      let (content, rest) ← scanLiteralBlock rest
      return (char :: content, rest)
    else none

/-- Drops a line end that stands right after opening quotes. -/
def openBlock (text : List Char) : List Char :=
  (dropNewline? text).getD text

/-- The content of a string on one line, and the text after it. -/
def scanLine? : List Char → Option (List Char × List Char)
  | '"' :: rest => scanBasic (rest.length + 1) rest
  | '\'' :: rest => scanLiteral rest
  | _ => none

/-- The content of a string of any kind, and the text after it. -/
def scanText? : List Char → Option (List Char × List Char)
  | '"' :: '"' :: '"' :: rest => scanBasicBlock (rest.length + 1) (openBlock rest)
  | '\'' :: '\'' :: '\'' :: rest => scanLiteralBlock (openBlock rest)
  | line => scanLine? line

end DeviceAuth.Toml
