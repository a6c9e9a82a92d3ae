/-!
**Media types:** a type, a subtype that may end in a suffix after a plus, and parameters after
semicolons. Reading is strict about the characters of each part, and lets no blank stand before the
first semicolon.
-/

namespace DeviceAuth.Gateway

/-- The type and subtype that a header names, in lower case. -/
structure MediaType where
  type : String
  /-- The subtype up to its last plus. -/
  subtype : String
  /-- What follows the last plus of the subtype. -/
  suffix : Option String
  deriving DecidableEq, Repr

namespace MediaType

/-- Whether a character may stand in a token. -/
def isTokenChar (char : Char) : Bool :=
  char.isAlphanum || "!#$%&'*+-.^_\x60|~".toList.contains char

/-- Whether a character may stand in a quoted value. -/
def isQuotedChar (char : Char) : Bool :=
  32 ≤ char.toNat && char.toNat != 127

/-- Drops blanks. -/
def skipSpaces (text : List Char) : List Char :=
  text.dropWhile (· == ' ')

/-- What follows a quoted value and the blanks after it: the end, or a semicolon and more. -/
def afterQuoted? (text : List Char) : Option (List Char) :=
  match skipSpaces text with
  | [] => some []
  | ';' :: rest => some rest
  | _ => none

/-- The text after the closing quote of a value, which is not empty. -/
def skipQuoted? : List Char → Option (List Char)
  | [] => none
  | first :: rest =>
    if isQuotedChar first then
      match rest.dropWhile fun char => isQuotedChar char && char != '"' with
      | '"' :: rest => afterQuoted? rest
      | _ => none
    else none

/-- The text after the value of a parameter and its semicolon. -/
def skipValue? : List Char → Option (List Char)
  | [] => some []
  | '"' :: rest => skipQuoted? rest
  | text =>
    match text.span isTokenChar with
    | (_, []) => some []
    | (_ :: _, ';' :: rest) => some rest
    | _ => none

/-- Whether a text is a list of parameters. Each step drops a character at least, so `fuel` is the
length of the text. -/
def areParameters (fuel : Nat) (text : List Char) : Bool :=
  match fuel, skipSpaces text with
  | _, [] => true
  | 0, _ => false
  | fuel + 1, text =>
    match text.span isTokenChar with
    | (_ :: _, '=' :: rest) =>
      match skipValue? rest with
      | some rest => areParameters fuel rest
      | none => false
    | _ => false

/-- The text without its last plus and what follows it, and what follows it. A plus in front is an
ordinary character. -/
def splitSuffix (subtype : List Char) : String × Option String :=
  match subtype.reverse.span (· != '+') with
  | (suffix, '+' :: first :: rest) =>
    (String.ofList (first :: rest).reverse, some (String.ofList suffix.reverse))
  | _ => (String.ofList subtype, none)

/-- The media type of the value of a header. -/
def ofText? (text : String) : Option MediaType :=
  let chars := text.toList.map Char.toLower
  match chars.span isTokenChar with
  | (type@(_ :: _), '/' :: rest) =>
    let (subtype, rest) := rest.span isTokenChar
    let (name, suffix) := splitSuffix subtype
    let mediaType : MediaType := ⟨String.ofList type, name, suffix⟩
    match rest with
    | [] => some mediaType
    | ';' :: parameters =>
      if subtype ≠ [] ∧ areParameters parameters.length parameters then some mediaType else none
    | _ => none
  | _ => none

/-- Whether documents of this type are JSON. -/
def isJson (mediaType : MediaType) : Bool :=
  mediaType.type == "application"
    && (mediaType.subtype == "json" || mediaType.suffix == some "json")

end MediaType

end DeviceAuth.Gateway
