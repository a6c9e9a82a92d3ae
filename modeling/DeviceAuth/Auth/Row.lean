import DeviceAuth.Auth.Database
import DeviceAuth.Files.Tree
import DeviceAuth.Json.Reader
import DeviceAuth.Json.Record
import DeviceAuth.Json.Writer

/-!
**Rows as documents.** A row is an object with a member for each column; a database is an object
with a list of rows for each table. Rows from elsewhere are taken as they come: columns of texts
turn numbers into texts, columns of numbers turn what they can into integers.
-/

namespace DeviceAuth

namespace Cell

/-- The cell that a document gives for a column of numbers. -/
def ofJson? : Json → Option Cell
  | .number value => ofNumber? value
  | .string (some content) => some (ofText content)
  | .array [.boolean negative, .null] => some (real negative .infinite)
  | .array [.boolean negative, .number (.integer mantissa), .number (.integer exponent)] =>
    some (real negative (.finite mantissa.toNat exponent))
  | _ => none

/-- A cell in a document; what is no integer is an array of its parts. -/
def toJson : Cell → Json
  | integer value => Json.ofInt value
  | real negative (.finite mantissa exponent) =>
    .array [.boolean negative, Json.ofNat mantissa, Json.ofInt exponent]
  | real negative .infinite => .array [.boolean negative, .null]
  | text content => Json.ofText content

/-- The text that a document gives for a column of texts. -/
def textOfJson? : Json → Option String
  | .string content => content
  | .number number =>
    match number with
    | .integer value =>
      if isSigned64 value then some (toString value) else inexact number
    | .scientific .. => inexact number
  | _ => none
where
  /-- The text of a number in floating point. -/
  inexact (number : Json.Number) : Option String :=
    number.magnitude?.map (Numeral.textOf number.isNegative)

/-- The id that a document gives for a row; a row may have none. -/
def idOfJson? : Json → Option (Option String) :=
  Json.nullable? textOfJson?

/-- The id of a row in a document. -/
def idToJson : Option String → Json
  | some id => Json.ofText id
  | none => .null

end Cell

namespace DeviceRow

/-- The row of a document. -/
def ofJson? (row : Json) : Option DeviceRow := do
  match ← row.fields? ["device_id", "public_key", "commitment", "status"] with
  | [deviceId, publicKey, commitment, standing] =>
    return {
      deviceId := ← Json.defaulted? none Cell.idOfJson? deviceId
      publicKey := ← Json.required? Cell.textOfJson? publicKey
      commitment := ← Json.required? Cell.textOfJson? commitment
      standing := ← Json.required? Cell.textOfJson? standing }
  | _ => none

/-- A row as a document. -/
def toJson (row : DeviceRow) : Json :=
  Json.ofMembers [
    ("device_id", Cell.idToJson row.deviceId),
    ("public_key", Json.ofText row.publicKey),
    ("commitment", Json.ofText row.commitment),
    ("status", Json.ofText row.standing)]

end DeviceRow

namespace ChallengeRow

/-- The row of a document; a challenge is not used unless the document says so. -/
def ofJson? (row : Json) : Option ChallengeRow := do
  match ← row.fields? ["challenge_id", "device_id", "nonce", "created_at", "expires_at",
      "used"] with
  | [challengeId, deviceId, nonce, createdAt, expiresAt, used] =>
    return {
      challengeId := ← Json.defaulted? none Cell.idOfJson? challengeId
      deviceId := ← Json.required? Cell.textOfJson? deviceId
      nonce := ← Json.required? Cell.textOfJson? nonce
      createdAt := ← Json.required? Cell.ofJson? createdAt
      expiresAt := ← Json.required? Cell.ofJson? expiresAt
      used := (← Json.defaulted? none (Json.nullable? Cell.ofJson?) used).getD (.integer 0) }
  | _ => none

/-- A row as a document. -/
def toJson (row : ChallengeRow) : Json :=
  Json.ofMembers [
    ("challenge_id", Cell.idToJson row.challengeId),
    ("device_id", Json.ofText row.deviceId),
    ("nonce", Json.ofText row.nonce),
    ("created_at", row.createdAt.toJson),
    ("expires_at", row.expiresAt.toJson),
    ("used", row.used.toJson)]

end ChallengeRow

namespace SessionRow

/-- The row of a document. -/
def ofJson? (row : Json) : Option SessionRow := do
  match ← row.fields? ["session_id", "device_id", "token", "created_at", "expires_at",
      "last_used_at"] with
  | [sessionId, deviceId, token, createdAt, expiresAt, lastUsedAt] =>
    return {
      sessionId := ← Json.defaulted? none Cell.idOfJson? sessionId
      deviceId := ← Json.required? Cell.textOfJson? deviceId
      token := ← Json.required? Cell.textOfJson? token
      createdAt := ← Json.required? Cell.ofJson? createdAt
      expiresAt := ← Json.required? Cell.ofJson? expiresAt
      lastUsedAt := ← Json.required? Cell.ofJson? lastUsedAt }
  | _ => none

/-- A row as a document. -/
def toJson (row : SessionRow) : Json :=
  Json.ofMembers [
    ("session_id", Cell.idToJson row.sessionId),
    ("device_id", Json.ofText row.deviceId),
    ("token", Json.ofText row.token),
    ("created_at", row.createdAt.toJson),
    ("expires_at", row.expiresAt.toJson),
    ("last_used_at", row.lastUsedAt.toJson)]

end SessionRow

namespace Database

/-- Puts the row of a document into a table, in place of any other with its id. -/
def putJson? (database : Database) (table : String) (row : Json) : Option Database := do
  match table with
  | "devices" =>
    let row ← DeviceRow.ofJson? row
    return { database with devices := replaceRow DeviceRow.deviceId row database.devices }
  | "challenges" =>
    let row ← ChallengeRow.ofJson? row
    return { database with
      challenges := replaceRow ChallengeRow.challengeId row database.challenges }
  | "sessions" =>
    let row ← SessionRow.ofJson? row
    return { database with sessions := replaceRow SessionRow.sessionId row database.sessions }
  | _ => none

/-- The rows of a list in a document. -/
def rowsOfJson? {ρ : Type} (read : Json → Option ρ) : Json → Option (List ρ)
  | .array rows => rows.mapM read
  | _ => none

/-- The database of a document. -/
def ofJson? (document : Json) : Option Database := do
  match ← document.fields? ["devices", "challenges", "sessions"] with
  | [devices, challenges, sessions] =>
    return {
      devices := ← Json.required? (rowsOfJson? DeviceRow.ofJson?) devices
      challenges := ← Json.required? (rowsOfJson? ChallengeRow.ofJson?) challenges
      sessions := ← Json.required? (rowsOfJson? SessionRow.ofJson?) sessions }
  | _ => none

/-- A database as a document. -/
def toJson (database : Database) : Json :=
  Json.ofMembers [
    ("devices", .array (database.devices.map DeviceRow.toJson)),
    ("challenges", .array (database.challenges.map ChallengeRow.toJson)),
    ("sessions", .array (database.sessions.map SessionRow.toJson))]

/-- The entry of a file with this content: a database, if it is the document of one. -/
def entryOfContent (content : Bytes) : Files.Entry Database :=
  match (Json.parse? content).bind ofJson? with
  | some database => .database database
  | none => .file content

/-- The content of the file of an entry; directories have none. -/
def contentOfEntry? : Files.Entry Database → Option Bytes
  | .directory => none
  | .file content => some content
  | .database database => some database.toJson.render

end Database

end DeviceAuth
