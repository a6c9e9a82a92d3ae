import DeviceAuth.CommandLine.Outcome
import DeviceAuth.Gateway.Startup

/-!
**The gateway's program.** It serves requests, which is what it does unless it is asked for
something else, or works on the configured database: it enrolls a device, or removes what has
expired.
-/

namespace DeviceAuth.CommandLine.GatewayTool

/-- What the program can be asked for. -/
def program : Program where
  name := "edgeguard-gateway"
  versionLine := "edgeguard-gateway 0.2.0"
  about := "EdgeGuard device authentication gateway"
  options := [
    { name := "config", kind := .path, letter := some 'c', about := "TOML configuration file" }]
  commandRequired := false
  commands := [
    { name := "serve", about := "Run the HTTP gateway (default)" },
    { name := "enroll"
      about := "Register or update a device in the configured database"
      options := [
        { name := "device-id", kind := .text, required := true },
        { name := "commitment", kind := .text, required := true
          about := "Hex enrollment commitment from \x60edgeguard-zk commitment\x60" },
        { name := "public-key", kind := .text, fallback := some "" },
        { name := "revoked", kind := .flag
          about := "Record the device as revoked instead of active" }] },
    { name := "purge", about := "Delete expired challenges and sessions from the database" }]

/-- What the program has come to. -/
inductive Progress where
  | ended (outcome : Outcome)
  /-- It listens at an address. -/
  | serving (gateway : Gateway.Running) (address : String)

/-! ### The configured database -/

/-- The configured database, opened. -/
def openConfigured (config : Config) (disk : Disk) : Except (List String) Storage × Disk :=
  match config.storage.databasePath with
  | none =>
    (.error ["storage.database_path (or EDGEGUARD_DATABASE) is required for this command"], disk)
  | some path =>
    match Storage.openPath disk path with
    | (.ok place, disk) => (.ok { place, disk }, disk)
    | (.error error, disk) => (.error [error.message], disk)

/-- The database with a device enrolled. -/
def enroll (given : Given) (storage : Storage) : Except (List String) Storage := do
  let deviceId := (given.lookup "device-id").getD ""
  let publicKey := (given.lookup "public-key").getD ""
  let commitment ← (Word256.ofHex ((given.lookup "commitment").getD "")).mapError
    fun error => [error.message]
  let result : Except AuthError Storage := do
    let device ← AuthError.liftZkp (Credential.make deviceId publicKey commitment)
    let standing := if (given.lookup "revoked").isSome then .revoked else device.standing
    RecordStore.enroll { device with standing } storage
  result.mapError fun error => [error.message]

/-- The database without what has expired. -/
def purge (now : Instant) (storage : Storage) : Except (List String) Storage :=
  let result : Except AuthError Storage := do
    let (_, storage) ← RecordStore.dropChallenges now storage
    let (_, storage) ← RecordStore.dropSessions now storage
    return storage
  result.mapError fun error => [error.message]

/-- The end of a command that changes the configured database. -/
def change (config : Config) (disk : Disk)
    (command : Storage → Except (List String) Storage) : Outcome :=
  match openConfigured config disk with
  | (.error chain, disk) => .failure disk chain
  | (.ok storage, disk) =>
    match command storage with
    | .ok storage => .success storage.disk ""
    | .error chain => .failure disk chain

/-! ### Serving -/

/-- The address in a text: a host and, after the last colon, a number. -/
def splitAddress? (address : String) : Option (String × String) :=
  match address.toList.reverse.span (· != ':') with
  | (number, ':' :: host) =>
    some (String.ofList host.reverse, String.ofList number.reverse)
  | _ => none

/-- Whether a text spells a number of 16 bits. -/
def isWord16 (text : String) : Bool :=
  let digits := match text.toList with
    | '+' :: rest => rest
    | chars => chars
  (Text.decimal? digits).any (· < 65536)

/-- A number of eight bits in decimal, without leading zeros. -/
def octet? (text : String) : Option Nat := do
  let digits := text.toList
  let value ← Text.decimal? digits
  if value < 256 ∧ (digits.length = 1 ∨ digits.head? ≠ some '0') then some value else none

/-- Whether four numbers are an address that every machine has: all of its own addresses, a
loopback, a group, or everybody. -/
def isEverywhere : List Nat → Bool
  | [0, 0, 0, 0] => true
  | [255, 255, 255, 255] => true
  | first :: _ => first == 127 || (224 ≤ first && first ≤ 239)
  | [] => false

/-- Why nobody can listen at a host. Numbers must be an address of this machine; of names only that
of the machine itself can be looked up. What stands in brackets is taken as it comes. -/
def hostFault? (host : String) : Option String :=
  match (host.splitOn ".").mapM octet? with
  | some [first, second, third, fourth] =>
    if isEverywhere [first, second, third, fourth] then none
    else some "Cannot assign requested address (os error 99)"
  | _ =>
    if host = "localhost" ∨ host.startsWith "[" then none
    else if host.contains '\x00' then some Files.Fault.nulInPath.message
    else some "failed to lookup address information: Temporary failure in name resolution"

/-- Why nobody can listen at an address. -/
def addressFault? (address : String) : Option String :=
  match splitAddress? address with
  | none => some "invalid socket address"
  | some (host, number) => if isWord16 number then hostFault? host else some "invalid port value"

/-- Starts the gateway. -/
def serve (config : Config) (surroundings : Surroundings) : Progress :=
  match Gateway.start config surroundings.disk surroundings.now surroundings.random with
  | (.error .overflow, disk) => .ended (.abandoned disk)
  | (.error error, disk) => .ended (.failure disk error.chain)
  | (.ok gateway, disk) =>
    let address := config.server.bind
    match addressFault? address with
    | some fault => .ended (.failure disk ["binding " ++ address, fault])
    | none => .serving gateway address

/-! ### Commands -/

/-- Runs a command. -/
def perform (invocation : Invocation) (config : Config) (surroundings : Surroundings) : Progress :=
  match invocation.command with
  | some "enroll" => .ended (change config surroundings.disk (enroll invocation.given))
  | some "purge" => .ended (change config surroundings.disk (purge surroundings.now))
  | _ => serve config surroundings

/-- The settings that the program has in these surroundings, if it gets that far. -/
def settings? (arguments : List String) (surroundings : Surroundings) : Option Config :=
  match program.read arguments with
  | .error _ => none
  | .ok invocation =>
    (Gateway.loadSettings surroundings.disk surroundings.environment
      (invocation.general.lookup "config")).toOption

/-- Runs the program. -/
def run (arguments : List String) (surroundings : Surroundings) : Progress :=
  match program.read arguments with
  | .error stop => .ended (.ofStop program surroundings.disk stop)
  | .ok invocation =>
    match Gateway.loadSettings surroundings.disk surroundings.environment
        (invocation.general.lookup "config") with
    | .error error => .ended (.failure surroundings.disk error.chain)
    | .ok config => perform invocation config surroundings

end DeviceAuth.CommandLine.GatewayTool
