import DeviceAuth.Text.Basic
import DeviceAuth.Text.Hex

/-!
**Names of databases.** A name is a path, or a URI of the scheme `file`: a path in which bytes may
be escaped by two hexadecimal digits after a percent sign, and after a question mark parameters that
say how the database is opened. A fragment is passed over, as are parameters that are not known. An
escaped NUL ends the part that it stands in.
-/

namespace DeviceAuth

/-- What a database is opened for. -/
inductive Access where
  /-- To be read; it must be there. -/
  | reading
  /-- To be read and written; it must be there. -/
  | writing
  /-- To be read and written; it is made if it is not there. -/
  | creating
  /-- To be kept in memory. -/
  | memory
  deriving DecidableEq, Repr

/-- What the name of a database says. -/
structure DatabaseName where
  /-- The path of its file, or what it is called in memory. -/
  path : String
  access : Access := .creating
  /-- Whether everybody who opens it in memory under this name finds the same database. -/
  shared : Bool := false
  /-- Whether others may have it open at the same time. -/
  locked : Bool := true
  /-- Whether its file is taken never to change. -/
  frozen : Bool := false
  /-- Whether it is in a file system that keeps everything in memory. -/
  unfiled : Bool := false
  deriving DecidableEq, Repr

namespace DatabaseName

/-- Bytes with the escaped ones in place; an escaped NUL ends them. -/
def unescape : Bytes → Bytes
  | [] => []
  | 37 :: high :: low :: rest =>
    match Hex.digitValue? high.toNat, Hex.digitValue? low.toNat with
    | some highValue, some lowValue =>
      if 16 * highValue + lowValue = 0 then []
      else UInt8.ofNat (16 * highValue + lowValue) :: unescape rest
    | _, _ => 37 :: unescape (high :: low :: rest)
  | byte :: rest => byte :: unescape rest

/-- The text of a part of a URI. What is not UTF-8 is shown by its digits. -/
def unescaped (part : List Char) : String :=
  let bytes := unescape (Bytes.ofText (String.ofList part))
  bytes.toText?.getD (Hex.encode bytes)

/-- The text up to the first of these characters, and the text after it. -/
def cutAt (char : Char) (text : List Char) : List Char × List Char :=
  (text.takeWhile (· != char), (text.dropWhile (· != char)).drop 1)

/-- The parts of a text between these characters. -/
def split (separator : Char) : List Char → List (List Char)
  | [] => [[]]
  | char :: rest =>
    match split separator rest with
    | part :: parts =>
      if char = separator then [] :: part :: parts else (char :: part) :: parts
    | [] => []

/-- The parameters of a query with their values; those without a name are passed over. -/
def parameters (query : List Char) : List (String × String) :=
  let entry (parameter : List Char) : String × String :=
    let (name, value) := cutAt '=' parameter
    (unescaped name, unescaped value)
  ((split '&' query).map entry).filter fun parameter => parameter.1 ≠ ""

/-- Whether a value is a number other than zero, or a word for it. A number counts modulo 256, and
as zero if it does not fit a signed word of 32 bits. -/
def isOn (value : String) : Bool :=
  match value.toList.takeWhile Char.isDigit with
  | [] => ["on", "yes", "true"].contains (String.ofList (value.toList.map Char.toLower))
  | digits =>
    let number := Text.decimal digits
    number < 2147483648 && number % 256 != 0

/-- What a name that grants one access may still ask for: no more than it grants. -/
def grants : Access → Access → Bool
  | .memory, _ => true
  | _, .memory => true
  | .creating, _ => true
  | .writing, asked => asked != .creating
  | .reading, asked => asked == .reading

/-- The access that a parameter asks for. -/
def access? : String → Option Access
  | "ro" => some .reading
  | "rw" => some .writing
  | "rwc" => some .creating
  | "memory" => some .memory
  | _ => none

/-- The name with a parameter taken into account, or what is wrong with the parameter. -/
def withParameter (name : DatabaseName) : String × String → Except String DatabaseName
  | ("cache", value) =>
    if value = "shared" then .ok { name with shared := true }
    else if value = "private" then .ok { name with shared := false }
    else .error ("no such cache mode: " ++ value)
  | ("mode", value) =>
    match access? value with
    | none => .error ("no such access mode: " ++ value)
    | some access =>
      if grants name.access access then .ok { name with access }
      else .error ("access mode not allowed: " ++ value)
  | _ => .ok name

/-- The name with the file system that it asks for, or what is wrong with that. Some know no locks,
and one keeps everything in memory, where names with a slash in front are shared. -/
def withSystem (name : DatabaseName) : String → Except String DatabaseName
  | "unix" | "unix-excl" => .ok name
  | "unix-none" | "unix-dotfile" => .ok { name with locked := false }
  | "memdb" => .ok { name with unfiled := true, shared := name.path.startsWith "/" }
  | system => .error ("no such vfs: " ++ system)

/-- The name that a URI is, without its scheme, or what is wrong with it. -/
def ofUri (text : List Char) : Except String DatabaseName := do
  let rest ←
    match text with
    | '/' :: '/' :: rest =>
      let host := rest.takeWhile (· != '/')
      if host = [] ∨ host = "localhost".toList then .ok (rest.dropWhile (· != '/'))
      else .error ("invalid uri authority: " ++ String.ofList host)
    | text => .ok text
  let (path, query) := cutAt '?' (cutAt '#' rest).1
  let parameters := parameters query
  let isSet (parameter : String) : Bool := (parameters.lookup parameter).any isOn
  let name : DatabaseName := {
    path := unescaped path, locked := !isSet "nolock", frozen := isSet "immutable" }
  let name ← parameters.foldlM withParameter name
  name.withSystem ((parameters.reverse.lookup "vfs").getD "unix")

/-- The name that a text is, or what is wrong with it. -/
def ofText (text : String) : Except String DatabaseName :=
  match text.toList with
  | 'f' :: 'i' :: 'l' :: 'e' :: ':' :: rest => ofUri rest
  | _ => .ok { path := text }

/-- Whether the database is kept in no file. -/
def isInMemory (name : DatabaseName) : Bool :=
  name.path == "" || name.path == ":memory:" || name.access == .memory || name.unfiled

/-- Whether others in memory find the database by its path. -/
def isShared (name : DatabaseName) : Bool :=
  name.path != "" && name.shared

end DatabaseName

end DeviceAuth
