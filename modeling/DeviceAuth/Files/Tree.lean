import DeviceAuth.Bytes

/-!
**A tree of files,** as programs see it through paths. A path is followed one name at a time from
the working directory, or from the root if it starts with a slash; every name but the last must lead
to a directory. An entry is a directory, a file of bytes, or a database, whose content is kept as a
value of the type `δ`. Beside the tree there can be databases in memory, each under a name.

Main statement: what was put at a location is found there (`find?_insert`).
-/

namespace DeviceAuth.Files

/-- Why a file operation fails. -/
inductive Fault where
  /-- There is no such entry. -/
  | notFound
  /-- An entry that is in the way exists. -/
  | alreadyExists
  /-- A name is looked up in something that is no directory. -/
  | notADirectory
  /-- A directory is read or written like a file. -/
  | isADirectory
  /-- A name has more than 255 bytes, or a path more than 4095. -/
  | nameTooLong
  /-- A path contains the character NUL. -/
  | nulInPath
  /-- A file that is read as a text is not UTF-8. -/
  | invalidText
  deriving DecidableEq, Repr

/-- The wording of a fault. -/
def Fault.message : Fault → String
  | .notFound => "No such file or directory (os error 2)"
  | .alreadyExists => "File exists (os error 17)"
  | .notADirectory => "Not a directory (os error 20)"
  | .isADirectory => "Is a directory (os error 21)"
  | .nameTooLong => "File name too long (os error 36)"
  | .nulInPath => "file name contained an unexpected NUL byte"
  | .invalidText => "stream did not contain valid UTF-8"

/-! ### Paths as texts -/

/-- Takes slashes and dots off the end of a reversed path, where they change nothing. -/
def stripEnd : List Char → List Char
  | '/' :: char :: rest => stripEnd (char :: rest)
  | '.' :: '/' :: rest => stripEnd ('/' :: rest)
  | chars => chars
termination_by chars => chars.length

/-- The path of the directory that a path lies in; `none` for the root and for the empty path. -/
def parent? (path : String) : Option String :=
  match stripEnd path.toList.reverse with
  | [] => none
  | ['/'] => none
  | chars => some (String.ofList (stripEnd (chars.dropWhile (· ≠ '/'))).reverse)

/-- A path and the paths of the directories that it lies in, the innermost first. Each is shorter
than the one before, so `fuel` is the length of the path. -/
def withParents : (fuel : Nat) → String → List String
  | 0, _ => []
  | fuel + 1, path =>
    if path = "" then []
    else path :: ((parent? path).map (withParents fuel)).getD []

/-- The path of a name in a directory. -/
def join (directory name : String) : String :=
  if directory = "" ∨ directory.endsWith "/" then directory ++ name
  else directory ++ "/" ++ name

/-! ### The tree -/

/-- What a name can lead to. -/
inductive Entry (δ : Type) where
  | directory
  | file (content : Bytes)
  | database (content : δ)

/-- The names that lead from the root to an entry. -/
abbrev Location := List String

/-- Entries by location. -/
structure Tree (δ : Type) where
  /-- The latest entry of a location stands first. -/
  entries : List (Location × Entry δ)
  /-- Where relative paths start. -/
  workingDirectory : Location
  /-- The databases in memory, by name; the latest of a name stands first. -/
  named : List (String × δ)

namespace Tree

variable {δ : Type}

/-- The tree with nothing but an empty working directory. -/
def empty : Tree δ :=
  ⟨[(["work"], .directory)], ["work"], []⟩

/-- The entry at a location; the root is a directory. -/
def find? (tree : Tree δ) : Location → Option (Entry δ)
  | [] => some .directory
  | location => tree.entries.lookup location

/-- Puts an entry at a location. -/
def insert (tree : Tree δ) (location : Location) (entry : Entry δ) : Tree δ :=
  { tree with entries := (location, entry) :: tree.entries }

/-- Puts a database in memory under a name. -/
def insertNamed (tree : Tree δ) (name : String) (content : δ) : Tree δ :=
  { tree with named := (name, content) :: tree.named }

/-- The parts of a path between its slashes. -/
def parts (path : String) : List String :=
  let (part, others) := path.toList.foldr
    (fun char (part, others) =>
      if char = '/' then (([] : List Char), String.ofList part :: others)
      else (char :: part, others))
    (([] : List Char), ([] : List String))
  String.ofList part :: others

/-- The most bytes that a name can have. -/
def nameLimit : Nat := 255

/-- The most bytes that a path can have. -/
def pathLimit : Nat := 4095

/-- Follows one name from a location, which must be a directory. -/
def follow (tree : Tree δ) (location : Location) (name : String) : Except Fault Location :=
  match tree.find? location with
  | none => .error .notFound
  | some .directory =>
    if name = "" ∨ name = "." then .ok location
    else if name = ".." then .ok location.dropLast
    else if nameLimit < name.utf8ByteSize then .error .nameTooLong
    else .ok (location ++ [name])
  | some _ => .error .notADirectory

/-- Where a path starts. -/
def origin (tree : Tree δ) (path : String) : Location :=
  if path.startsWith "/" then [] else tree.workingDirectory

/-- The location that a path leads to, whether or not there is an entry. -/
def resolve (tree : Tree δ) (path : String) : Except Fault Location :=
  if path = "" then .error .notFound
  else if path.contains '\x00' then .error .nulInPath
  else if pathLimit < path.utf8ByteSize then .error .nameTooLong
  else (parts path).foldlM tree.follow (tree.origin path)

/-- Whether a path leads to a directory. -/
def isDirectory (tree : Tree δ) (path : String) : Bool :=
  match (tree.resolve path).toOption.bind tree.find? with
  | some .directory => true
  | _ => false

/-- The location that the names of a path spell; two dots take the last name away. -/
def spelled (tree : Tree δ) (path : String) : Location :=
  (parts path).foldl
    (fun location name =>
      if name = "" ∨ name = "." then location
      else if name = ".." then location.dropLast
      else location ++ [name])
    (tree.origin path)

/-- The path from the root to a location. -/
def pathTo (location : Location) : String :=
  "/" ++ "/".intercalate location

/-- The location that the names of a path spell, as long as no location on the way has a path of
more than `longest` bytes. No name may be too long for the directory that it is looked up in, or be
looked up in a file; in what is not there everything is possible. -/
def spelled? (tree : Tree δ) (longest : Nat) (path : String) : Option Location :=
  (parts path).foldlM
    (fun location name =>
      if name = "" ∨ name = "." then some location
      else if name = ".." then some location.dropLast
      else if longest < (pathTo (location ++ [name])).utf8ByteSize then none
      else match tree.follow location name with
        | .ok next => some next
        | .error .notFound => some (location ++ [name])
        | .error _ => none)
    (tree.origin path)

/-- How the bytes of a database start: the mark of the format, the size of a page, and counters. -/
def databaseHeader : Bytes :=
  Bytes.ofText "SQLite format 3\x00" ++ [16, 0, 2, 2, 0, 64, 32, 32, 0, 0, 0, 1, 0, 0, 0, 1]
    ++ List.replicate 60 0 ++ [0, 0, 0, 1, 0, 46, 118, 136, 13, 0, 0, 0, 0, 16, 0, 0]
    ++ List.replicate 3988 0

/-- The bytes of the file at a path. -/
def read (tree : Tree δ) (path : String) : Except Fault Bytes := do
  match tree.find? (← tree.resolve path) with
  | none => .error .notFound
  | some .directory => .error .isADirectory
  | some (.file content) => .ok content
  | some (.database _) => .ok databaseHeader

/-- The text of the file at a path. -/
def readText (tree : Tree δ) (path : String) : Except Fault String := do
  match (← tree.read path).toText? with
  | some text => .ok text
  | none => .error .invalidText

/-- Writes the file at a path, over what it held. -/
def write (tree : Tree δ) (path : String) (content : Bytes) : Except Fault (Tree δ) := do
  let location ← tree.resolve path
  match tree.find? location with
  | some .directory => .error .isADirectory
  | _ => .ok (tree.insert location (.file content))

/-- Makes the directory at a path, in a directory that is there. -/
def createDirectory (tree : Tree δ) (path : String) : Except Fault (Tree δ) :=
  match ((parts path).filter (· ≠ "")).reverse with
  | [] => .error (if path = "" then .notFound else .alreadyExists)
  | last :: before => do
    if path.contains '\x00' then .error .nulInPath
    if pathLimit < path.utf8ByteSize then .error .nameTooLong
    let location ← before.reverse.foldlM tree.follow (tree.origin path)
    let next ← tree.follow location last
    if last = "." ∨ last = ".." ∨ (tree.find? next).isSome then .error .alreadyExists
    else .ok (tree.insert next .directory)

/-- Makes the first of these directories. If it lies in none that is there, those after it are made
first; what has been made stays, whatever comes of the rest. -/
def createInnermost (tree : Tree δ) : List String → Except Fault Unit × Tree δ
  | [] => (.ok (), tree)
  | path :: outer =>
    let settle (tree : Tree δ) : Except Fault (Tree δ) → Except Fault Unit × Tree δ
      | .ok tree => (.ok (), tree)
      | .error fault => (if tree.isDirectory path then .ok () else .error fault, tree)
    match tree.createDirectory path with
    | .error .notFound =>
      match createInnermost tree outer with
      | (.ok (), tree) => settle tree (tree.createDirectory path)
      | failed => failed
    | result => settle tree result

/-- Makes the directory at a path, and those on the way to it. -/
def createDirectories (tree : Tree δ) (path : String) : Except Fault Unit × Tree δ :=
  tree.createInnermost (withParents path.length path)

/-- Writes the file at a path, with the directories on the way to it; what is in the way stays. -/
def put (tree : Tree δ) (path : String) (content : Bytes) : Tree δ :=
  let tree := match parent? path with
    | some parent => (tree.createDirectories parent).2
    | none => tree
  (tree.write path content).toOption.getD tree

/-- The tree with nothing but a working directory, and the directories on the way to it. -/
def ofWorkingDirectory (path : String) : Tree δ :=
  let bare : Tree δ := ⟨[], [], []⟩
  { (bare.createDirectories path).2 with workingDirectory := bare.spelled path }

/-- The entries of a tree that it did not have when it was an earlier one, in the order in which
they were made. -/
def changesSince (tree earlier : Tree δ) : List (Location × Entry δ) :=
  (tree.entries.take (tree.entries.length - earlier.entries.length)).reverse

/-- What was put at a location below the root is found there. -/
theorem find?_insert (tree : Tree δ) (entry : Entry δ) {location : Location}
    (below : location ≠ []) : (tree.insert location entry).find? location = some entry := by
  cases location with
  | nil => exact absurd rfl below
  | cons name rest => simp [find?, insert]

end Tree

end DeviceAuth.Files
