import DeviceAuth.Auth.Database
import DeviceAuth.Auth.DatabaseName
import DeviceAuth.Auth.MemoryStore
import DeviceAuth.Auth.Operation
import DeviceAuth.Auth.Row

/-!
**Where records are kept:** in memory, in a database without a file, or in a database file. Everyone
who has opened the same file, or the same name in memory, shares its rows, so the tree of files is a
part of the storage.

Opening a database makes it, and the directories on the way to it, if there is none; a file with
anything else in it is refused. The names of its path are followed as they are spelled, whether or
not there is an entry for each. Beside its file a database has files of its own with longer names,
so these must be possible too.
-/

namespace DeviceAuth

/-- A place for records. -/
inductive Place where
  | memory (records : MemoryStore)
  /-- A database that nobody else can open. -/
  | unnamed (database : Database)
  /-- A database in memory with a name. -/
  | named (name : String)
  /-- A database in a file, which may be open for reading only. -/
  | file (location : Files.Location) (writable : Bool)

/-- A tree of files with databases. -/
abbrev Disk := Files.Tree Database

/-- A place for records, and the files. -/
structure Storage where
  place : Place
  disk : Disk

namespace Storage

/-! ### Opening -/

/-- The error for a path at which no database can be. -/
def cannotOpen (path : String) : AuthError :=
  .storage ("unable to open database file: " ++ path)

/-- The error for a database whose other files cannot be made. -/
def cannotBegin : AuthError := .storage "unable to open database file"

/-- The error for a file with something else in it. -/
def notADatabase : AuthError := .storage "file is not a database"

/-- The error for a change of a database that is open for reading only. -/
def readOnly : AuthError := .storage "attempt to write a readonly database"

/-- The error for a directory where a database looks for one of its files. -/
def brokenFile : AuthError := .storage "disk I/O error"

/-- How many bytes a path from the root can have for a database, so that there is room for the
names of its other files. -/
def longestPath : Nat := 504

/-- How many bytes a path from the root can have on the way to a database. -/
def longestWay : Nat := 510

/-- What a database adds to its name for the files beside it. -/
def journalEnding : String := "-journal"

@[inherit_doc journalEnding]
def logEnding : String := "-wal"

@[inherit_doc journalEnding]
def indexEnding : String := "-shm"

/-- The location of another file beside one. -/
def beside (location : Files.Location) (ending : String) : Files.Location :=
  location.dropLast ++ (location.getLast?.map (· ++ ending)).toList

/-- Whether a directory stands where a database looks for one of its files. -/
def isBlocked (disk : Disk) (location : Files.Location) (ending : String) : Bool :=
  match disk.find? (beside location ending) with
  | some .directory => true
  | _ => false

/-- Makes a database of an empty file. -/
def begin (disk : Disk) (name : DatabaseName) (location : Files.Location) :
    Except AuthError Place × Disk :=
  let journal := (beside location journalEnding).getLast?.getD ""
  if isBlocked disk location logEnding then (.error brokenFile, disk)
  else if name.access = .reading ∨ name.frozen then (.error readOnly, disk)
  else if isBlocked disk location journalEnding ∨ Files.Tree.nameLimit < journal.utf8ByteSize then
    (.error cannotBegin, disk)
  else if name.locked ∧ isBlocked disk location indexEnding then (.error readOnly, disk)
  else
    (.ok (.file location true),
      disk.insert location (.database { Database.empty with logged := name.locked }))

/-- Opens a file that is not empty. Changes of a logged database stand in another file at first, so
who takes the file never to change misses them, and who takes no locks cannot look. A database that
is not logged is logged from now on, unless it is opened without locks. -/
def resume (disk : Disk) (name : DatabaseName) (location : Files.Location)
    (content : Option Database) : Except AuthError Place × Disk :=
  let place : Place :=
    .file location (name.access ≠ .reading ∧ !isBlocked disk location indexEnding)
  if name.frozen then (.error (if content.isSome then readOnly else notADatabase), disk)
  else if isBlocked disk location journalEnding then (.error brokenFile, disk)
  else if isBlocked disk location logEnding then (.error cannotBegin, disk)
  else
    match content with
    | none => (.error notADatabase, disk)
    | some database =>
      if name.locked = database.logged then (.ok place, disk)
      else if database.logged then (.error cannotBegin, disk)
      else if name.access = .reading then (.error readOnly, disk)
      else (.ok place, disk.insert location (.database { database with logged := true }))

/-- Opens or makes the database at a location, which a path spells. A file with a single byte counts
as empty; a directory can be opened to be read, but not be read. -/
def openAt (disk : Disk) (path : String) (name : DatabaseName) (location : Files.Location) :
    Except AuthError Place × Disk :=
  match disk.find? location with
  | some (.database database) => resume disk name location (some database)
  | some .directory =>
    (.error (if name.access = .reading then brokenFile else cannotOpen path), disk)
  | some (.file (_ :: _ :: _)) => resume disk name location none
  | some (.file _) => begin disk name location
  | none =>
    match name.access, disk.find? location.dropLast with
    | .creating, some .directory => begin (disk.insert location (.file [])) name location
    | _, _ => (.error (cannotOpen path), disk)

/-- Opens or makes a database in memory. -/
def openInMemory (disk : Disk) (name : DatabaseName) : Except AuthError Place × Disk :=
  if name.access = .reading then (.error readOnly, disk)
  else if name.isShared then
    (.ok (.named name.path),
      if (disk.named.lookup name.path).isSome then disk else disk.insertNamed name.path .empty)
  else (.ok (.unnamed .empty), disk)

/-- Where in a path the first NUL stands, in bytes. -/
def nulPosition (path : String) : Nat :=
  ((Bytes.ofText path).takeWhile (· != 0)).length

/-- The location of a database, if its path is possible. -/
def locate? (disk : Disk) (name : DatabaseName) : Option Files.Location :=
  (disk.spelled? longestWay name.path).filter fun location =>
    (Files.Tree.pathTo location).utf8ByteSize ≤ longestPath

/-- The path of the file that a database with this name is in, if it is in one. -/
def filePath? (path : String) : Option String :=
  match DatabaseName.ofText path with
  | .ok name => if name.isInMemory then none else some name.path
  | .error _ => none

/-- Opens or makes the database with a name. -/
def openNamed (disk : Disk) (path : String) : Except AuthError Place × Disk :=
  if path.contains '\x00' then
    (.error (.storage ("nul byte found in provided data at position: "
      ++ toString (nulPosition path))), disk)
  else
    match DatabaseName.ofText path with
    | .error fault => (.error (.storage fault), disk)
    | .ok name =>
      if name.isInMemory then openInMemory disk name
      else
        match locate? disk name with
        | some location => openAt disk path name location
        | none => (.error (cannotOpen path), disk)

/-- Opens or makes the database with a name, and the directories on the way to it as the name is
spelled. -/
def openPath (disk : Disk) (path : String) : Except AuthError Place × Disk :=
  match (Files.parent? path).filter (· ≠ "") with
  | none => openNamed disk path
  | some parent =>
    match disk.createDirectories parent with
    | (.ok (), disk) => openNamed disk path
    | (.error fault, disk) => (.error (.storage (parent ++ ": " ++ fault.message)), disk)

/-- The files without the databases in memory that nobody has open any more. -/
def release (disk : Disk) (places : List Place) : Disk :=
  let isOpen (name : String) : Bool := places.any fun place =>
    match place with
    | .named other => other == name
    | _ => false
  { disk with named := disk.named.filter fun entry => isOpen entry.1 }

/-! ### Records in a place -/

/-- Reads records. -/
def look {α : Type} (storage : Storage)
    (inMemory : MemoryStore → Except AuthError α) (inDatabase : Database → Except AuthError α) :
    Except AuthError α :=
  match storage.place with
  | .memory records => inMemory records
  | .unnamed database => inDatabase database
  | .named name => inDatabase ((storage.disk.named.lookup name).getD .empty)
  | .file location _ =>
    match storage.disk.find? location with
    | some (.database database) => inDatabase database
    | _ => .error notADatabase

/-- The answer to a change that the database would make, but may not. What is wrong before the
database is asked comes first. -/
def refuseChange {α : Type} : Except AuthError α → AuthError
  | .error (.storage _) => readOnly
  | .error error => error
  | .ok _ => readOnly

/-- Changes records. -/
def change {α : Type} (storage : Storage)
    (inMemory : MemoryStore → Except AuthError (α × MemoryStore))
    (inDatabase : Database → Except AuthError (α × Database)) : Except AuthError (α × Storage) := do
  match storage.place with
  | .memory records =>
    let (answer, records) ← inMemory records
    return (answer, { storage with place := .memory records })
  | .unnamed database =>
    let (answer, database) ← inDatabase database
    return (answer, { storage with place := .unnamed database })
  | .named name =>
    let (answer, database) ← inDatabase ((storage.disk.named.lookup name).getD .empty)
    return (answer, { storage with disk := storage.disk.insertNamed name database })
  | .file location writable =>
    match storage.disk.find? location with
    | some (.database database) =>
      if !writable then .error (refuseChange (inDatabase database))
      let (answer, database) ← inDatabase database
      return (answer, { storage with disk := storage.disk.insert location (.database database) })
    | _ => .error notADatabase

/-- Changes records without another answer. -/
def write (storage : Storage) (inMemory : MemoryStore → Except AuthError MemoryStore)
    (inDatabase : Database → Except AuthError Database) : Except AuthError Storage := do
  let (_, storage) ← storage.change
    (fun records => return ((), ← inMemory records))
    (fun database => return ((), ← inDatabase database))
  return storage

end Storage

instance : RecordStore Storage where
  device deviceId storage :=
    storage.look (RecordStore.device deviceId) (RecordStore.device deviceId)
  enroll device storage :=
    storage.write (RecordStore.enroll device) (RecordStore.enroll device)
  addChallenge challenge storage :=
    storage.write (RecordStore.addChallenge challenge) (RecordStore.addChallenge challenge)
  challenge challengeId storage :=
    storage.look (RecordStore.challenge challengeId) (RecordStore.challenge challengeId)
  spendChallenge challengeId storage :=
    storage.change (RecordStore.spendChallenge challengeId) (RecordStore.spendChallenge challengeId)
  dropChallenges now storage :=
    storage.change (RecordStore.dropChallenges now) (RecordStore.dropChallenges now)
  addSession session storage :=
    storage.write (RecordStore.addSession session) (RecordStore.addSession session)
  session sessionId storage :=
    storage.look (RecordStore.session sessionId) (RecordStore.session sessionId)
  noteUse sessionId usedAt storage :=
    storage.change (RecordStore.noteUse sessionId usedAt)
      (RecordStore.noteUse sessionId usedAt)
  prolongSession sessionId expiresAt token storage :=
    storage.change (RecordStore.prolongSession sessionId expiresAt token)
      (RecordStore.prolongSession sessionId expiresAt token)
  removeSession sessionId storage :=
    storage.change (RecordStore.removeSession sessionId) (RecordStore.removeSession sessionId)
  dropSessions now storage :=
    storage.change (RecordStore.dropSessions now) (RecordStore.dropSessions now)
  liveDevices now storage :=
    storage.look (RecordStore.liveDevices now) (RecordStore.liveDevices now)

/-- Puts the row of a document into a table of the database with a name. -/
def Storage.putRow? (disk : Disk) (path table : String) (row : Json) : Option Disk := do
  let (.ok place, disk) := openPath disk path | none
  let put (database : Database) : Except AuthError (Unit × Database) :=
    match database.putJson? table row with
    | some database => .ok ((), database)
    | none => .error (.storage "the table has no such row")
  match change { place, disk } (fun records => .ok ((), records)) put with
  | .ok (_, storage) => some storage.disk
  | .error _ => none

/-- Runs an operation on another place than that of the state, on the same files. -/
def Operation.runAt {α : Type} (operation : Operation α) (place : Place) (state : State Storage) :
    Except Failure α × Place × State Storage :=
  let (result, after) := operation.run { state with store := { state.store with place } }
  (result, after.store.place,
    { after with store := { after.store with place := state.store.place } })

end DeviceAuth
