import DeviceAuth.Auth.Cell
import DeviceAuth.Auth.Store

/-!
**The store in a database of three tables.** Times are kept as whole milliseconds, rounded down, and
compared as such. A row is read anew whenever it is asked for, and a row that was written by someone
else may turn out not to hold a record. It may also have no id; then nobody finds it by an id, and
it is in nobody's place.
-/

namespace DeviceAuth

/-- The field value of a column of texts. -/
def readWord (index : Nat) (encoded : String) : Except AuthError Word256 :=
  match Word256.ofHex encoded with
  | .ok word => .ok word
  | .error error =>
    .error (.storage
      ("Conversion error from type Text at index: " ++ toString index ++ ", " ++ error.message))

/-- A row of the table of devices. -/
structure DeviceRow where
  deviceId : Option String
  publicKey : String
  commitment : String
  standing : String
  deriving DecidableEq

/-- A row of the table of challenges. -/
structure ChallengeRow where
  challengeId : Option String
  deviceId : String
  nonce : String
  createdAt : Cell
  expiresAt : Cell
  used : Cell
  deriving DecidableEq

/-- A row of the table of sessions. -/
structure SessionRow where
  sessionId : Option String
  deviceId : String
  token : String
  createdAt : Cell
  expiresAt : Cell
  lastUsedAt : Cell
  deriving DecidableEq

/-- The row of a credential. -/
def DeviceRow.ofDevice (device : Credential) : DeviceRow :=
  { deviceId := device.deviceId
    publicKey := device.publicKey
    commitment := device.commitment.toHex
    standing := device.standing.name }

/-- The credential of a row. -/
def DeviceRow.toDevice (row : DeviceRow) : Except AuthError Credential := do
  let commitment ← readWord 2 row.commitment
  let standing ← Standing.ofName row.standing
  return { deviceId := row.deviceId.getD "", publicKey := row.publicKey, commitment, standing }

/-- The row of a challenge. -/
def ChallengeRow.ofChallenge (challenge : Challenge) : ChallengeRow :=
  { challengeId := challenge.challengeId
    deviceId := challenge.deviceId
    nonce := challenge.nonce.toHex
    createdAt := .ofInstant challenge.createdAt
    expiresAt := .ofInstant challenge.expiresAt
    used := .integer (if challenge.used then 1 else 0) }

/-- The challenge of a row. -/
def ChallengeRow.toChallenge (row : ChallengeRow) : Except AuthError Challenge := do
  let nonce ← readWord 2 row.nonce
  let createdAt ← row.createdAt.readInstant 3 "created_at"
  let expiresAt ← row.expiresAt.readInstant 4 "expires_at"
  let used ← row.used.readInteger 5 "used"
  return {
    challengeId := row.challengeId.getD ""
    deviceId := row.deviceId
    nonce
    createdAt
    expiresAt
    used := used ≠ 0 }

/-- The row of a session. -/
def SessionRow.ofSession (session : Session) : SessionRow :=
  { sessionId := session.sessionId
    deviceId := session.deviceId
    token := session.token
    createdAt := .ofInstant session.createdAt
    expiresAt := .ofInstant session.expiresAt
    lastUsedAt := .ofInstant session.lastUsedAt }

/-- The session of a row. -/
def SessionRow.toSession (row : SessionRow) : Except AuthError Session := do
  let createdAt ← row.createdAt.readInstant 3 "created_at"
  let expiresAt ← row.expiresAt.readInstant 4 "expires_at"
  let lastUsedAt ← row.lastUsedAt.readInstant 5 "last_used_at"
  return {
    sessionId := row.sessionId.getD ""
    deviceId := row.deviceId
    token := row.token
    createdAt
    expiresAt
    lastUsedAt }

/-- Three tables, each with at most one row for an id. -/
structure Database where
  devices : List DeviceRow
  challenges : List ChallengeRow
  sessions : List SessionRow
  /-- Whether changes are kept in another file until nobody has the database open. -/
  logged : Bool := true
  deriving DecidableEq

namespace Database

/-- The database without rows. -/
def empty : Database := { devices := [], challenges := [], sessions := [] }

/-- The first row with an id. -/
def row? {ρ : Type} (idOf : ρ → Option String) (id : String) (rows : List ρ) : Option ρ :=
  rows.find? fun row => idOf row == some id

/-- The rows with those of an id changed. -/
def updateRows {ρ : Type} (matching : ρ → Bool) (change : ρ → ρ) (rows : List ρ) : List ρ :=
  rows.map fun row => if matching row then change row else row

/-- Whether two rows have one id. -/
def sameId {ρ : Type} (idOf : ρ → Option String) (row other : ρ) : Bool :=
  (idOf row).isSome && idOf other == idOf row

/-- The rows with one more, whose id is new. -/
def insertRow {ρ : Type} (column : String) (idOf : ρ → Option String) (row : ρ) (rows : List ρ) :
    Except AuthError (List ρ) :=
  if rows.any (sameId idOf row) then
    .error (.storage ("UNIQUE constraint failed: " ++ column))
  else .ok (rows ++ [row])

/-- The rows with one more, in place of any other with its id. -/
def replaceRow {ρ : Type} (idOf : ρ → Option String) (row : ρ) (rows : List ρ) : List ρ :=
  rows.filter (fun other => !sameId idOf row other) ++ [row]

/-- Enrolls a device whose id is encodable. -/
def enroll (device : Credential) (database : Database) : Except AuthError Database := do
  let _ ← AuthError.liftZkp (DeviceId.encode device.deviceId)
  return { database with
    devices := replaceRow DeviceRow.deviceId (.ofDevice device) database.devices }

/-- Adds a challenge whose id is new. -/
def addChallenge (challenge : Challenge) (database : Database) : Except AuthError Database := do
  let challenges ← insertRow "challenges.challenge_id" ChallengeRow.challengeId
    (.ofChallenge challenge) database.challenges
  return { database with challenges }

/-- Marks a challenge as used, if it was not. -/
def spendChallenge (challengeId : String) (database : Database) : Bool × Database :=
  let matching (row : ChallengeRow) : Bool :=
    row.challengeId == some challengeId && row.used == .integer 0
  let challenges :=
    updateRows matching (fun row => { row with used := .integer 1 }) database.challenges
  (database.challenges.any matching, { database with challenges })

/-- The rows whose expiry is not less than a number of milliseconds, and the count of the others. -/
def dropBefore {ρ : Type} (expiryOf : ρ → Cell) (millis : Int) (rows : List ρ) : Nat × List ρ :=
  let kept := rows.filter fun row => !(expiryOf row).lessThan millis
  (rows.length - kept.length, kept)

/-- Adds a session whose id is new. -/
def addSession (session : Session) (database : Database) : Except AuthError Database := do
  let sessions ← insertRow "sessions.session_id" SessionRow.sessionId (.ofSession session)
    database.sessions
  return { database with sessions }

/-- Changes a session, if it is there. -/
def updateSession (sessionId : String) (change : SessionRow → SessionRow) (database : Database) :
    Bool × Database :=
  let matching (row : SessionRow) : Bool := row.sessionId == some sessionId
  (database.sessions.any matching,
    { database with sessions := updateRows matching change database.sessions })

/-- Removes a session, if it is there. -/
def removeSession (sessionId : String) (database : Database) : Bool × Database :=
  (database.sessions.any fun row => row.sessionId == some sessionId,
    { database with
      sessions := database.sessions.filter fun row => row.sessionId != some sessionId })

/-- The devices of the sessions whose expiry is not less than an instant in milliseconds. -/
def liveDevices (now : Instant) (database : Database) : List String :=
  ((database.sessions.filter fun row => !row.expiresAt.lessThan now.toMillis).map
    SessionRow.deviceId).eraseDups

end Database

instance : RecordStore Database where
  device deviceId database :=
    (Database.row? DeviceRow.deviceId deviceId database.devices).mapM DeviceRow.toDevice
  enroll := Database.enroll
  addChallenge := Database.addChallenge
  challenge challengeId database :=
    (Database.row? ChallengeRow.challengeId challengeId database.challenges).mapM
      ChallengeRow.toChallenge
  spendChallenge challengeId database := .ok (database.spendChallenge challengeId)
  dropChallenges now database :=
    let (count, kept) := Database.dropBefore ChallengeRow.expiresAt now.toMillis
      database.challenges
    .ok (count, { database with challenges := kept })
  addSession := Database.addSession
  session sessionId database :=
    (Database.row? SessionRow.sessionId sessionId database.sessions).mapM SessionRow.toSession
  noteUse sessionId usedAt database :=
    .ok (database.updateSession sessionId fun row =>
      { row with lastUsedAt := .ofInstant usedAt })
  prolongSession sessionId expiresAt token database :=
    .ok (database.updateSession sessionId fun row =>
      { row with expiresAt := .ofInstant expiresAt, token })
  removeSession sessionId database := .ok (database.removeSession sessionId)
  dropSessions now database :=
    let (count, kept) := Database.dropBefore SessionRow.expiresAt now.toMillis database.sessions
    .ok (count, { database with sessions := kept })
  liveDevices now database := .ok (database.liveDevices now)

end DeviceAuth
