import DeviceAuth.Toml.Basic

/-!
**Tables under construction.** A table may be given by a header, by dotted names, or only as a part
of some header's path. Each may be given once, and none may be extended in another way than it was
given, except that a header may give what so far was only part of a path.

An array of tables grows by one table with each of its headers; paths lead into the latest one.
-/

namespace DeviceAuth.Toml

/-- How a table was given. -/
inductive Origin where
  /-- By a header, or in braces. -/
  | header
  /-- Only as a part of a header's path. -/
  | path
  /-- By dotted names. -/
  | dotted
  deriving DecidableEq, Repr

/-- What a name stands for so far. -/
inductive Draft where
  /-- A value that cannot be extended. -/
  | value (value : Toml)
  | table (origin : Origin) (members : List (String × Draft))
  /-- The latest table of an array, and those before it. -/
  | tables (latest : List (String × Draft)) (earlier : List (List (String × Draft)))

/-- Names and what they stand for. -/
abbrev Members := List (String × Draft)

namespace Draft

/-- The members with a name in place of what it stood for. -/
def put (name : String) (draft : Draft) (members : Members) : Members :=
  members.filter (fun member => member.1 != name) ++ [(name, draft)]

/-- Changes the table that a path leads to, making the tables that are missing. A dotted path may
not lead through tables given by headers. -/
def along (dotted : Bool) (change : Origin → Members → Option Members) :
    List String → Origin → Members → Option Members
  | [], origin, members => change origin members
  | name :: path, _, members =>
    match members.lookup name with
    | none =>
      let origin := if dotted then Origin.dotted else .path
      (along dotted change path origin []).map fun inner => put name (table origin inner) members
    | some (value _) => none
    | some (table origin inner) =>
      if dotted ∧ origin = .header then none
      else
        (along dotted change path origin inner).map fun inner =>
          put name (table origin inner) members
    | some (tables latest earlier) =>
      (along dotted change path .header latest).map fun latest =>
        put name (tables latest earlier) members

/-- Gives a name, at the end of a dotted path, its value. -/
def give (path : List String) (name : String) (given : Toml) (members : Members) :
    Option Members :=
  along true
    (fun origin members =>
      if members.lookup name matches some _ then none
      else if path ≠ [] ∧ origin ≠ .dotted then none
      else some (members ++ [(name, value given)]))
    path .header members

mutual

/-- The finished value. -/
def finish : Draft → Toml
  | value given => given
  | table _ members => .table (finishMembers members)
  | tables latest earlier => .array (finishTables earlier ++ [.table (finishMembers latest)])

/-- The finished members. -/
def finishMembers : List (String × Draft) → List (String × Toml)
  | [] => []
  | (name, draft) :: rest => (name, finish draft) :: finishMembers rest

/-- The finished tables, of which the latest stands first. -/
def finishTables : List (List (String × Draft)) → List Toml
  | [] => []
  | members :: rest => finishTables rest ++ [.table (finishMembers members)]

end

end Draft

/-- A name, the path to it, and its value. -/
structure Pair where
  path : List String
  name : String
  value : Toml

/-- The members with one pair more. -/
def Pair.addTo (pair : Pair) (members : Members) : Option Members :=
  Draft.give pair.path pair.name pair.value members

/-- The members with these pairs more. -/
def addPairs (pairs : List Pair) (members : Members) : Option Members :=
  pairs.foldlM (fun members pair => pair.addTo members) members

/-- A part of a document: a header, or none at its start, and the pairs up to the next one. -/
structure Section where
  /-- Whether the header adds a table to an array. -/
  isItem : Bool
  path : List String
  name : String
  pairs : List Pair

/-- The document with one section more. -/
def Section.addTo (part : Section) (members : Members) : Option Members :=
  Draft.along false
    (fun _ members =>
      if part.isItem then do
        let filled ← addPairs part.pairs []
        match members.lookup part.name with
        | none => return Draft.put part.name (.tables filled []) members
        | some (.tables latest earlier) =>
          return Draft.put part.name (.tables filled (latest :: earlier)) members
        | some _ => none
      else do
        let start ←
          match members.lookup part.name with
          | none => some []
          | some (.table .path inner) => some inner
          | some _ => none
        let filled ← addPairs part.pairs start
        return Draft.put part.name (.table .header filled) members)
    part.path .header members

/-- The table of the pairs at a document's start and of its sections. -/
def ofSections? (pairs : List Pair) (sections : List Section) : Option Toml := do
  let members ← addPairs pairs []
  let members ← sections.foldlM (fun members part => part.addTo members) members
  return .table (Draft.finishMembers members)

end DeviceAuth.Toml
