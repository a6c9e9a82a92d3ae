import DeviceAuth.Auth.Row
import DeviceAuth.CommandLine.GatewayTool
import DeviceAuth.CommandLine.KeyTool
import DeviceAuth.Gateway.Router
import Std.Time.DateTime

/-!
**The program.** Its first argument names one of two tools, the others are the tool's. The files
that the tool may need are read before it runs, and what it changed is written when it has run.

A gateway that serves reads requests from standard input, one document a line, and writes the
answers to standard output.
-/

namespace DeviceAuth.CommandLine

/-! ### What comes from outside -/

/-- The clock. -/
def currentInstant : IO Instant := do
  let nanos := (← Std.Time.Timestamp.now).toNanosecondsSinceUnixEpoch.val
  match Instant.ofUnixNanos? nanos with
  | some instant => return instant
  | none => throw (IO.userError "the clock is out of range")

/-- Random bytes. -/
def drawBytes (count : Nat) : IO Bytes :=
  return (← IO.getRandomBytes count.toUSize).toList

/-- The environment, as far as it replaces settings. -/
def readEnvironment : IO (String → Option String) := do
  let values ← Config.overrideNames.filterMapM fun name =>
    return (← IO.getEnv name).map fun value => (name, value)
  return fun name => values.lookup name

/-! ### Files -/

/-- Whether there is something at a path. -/
def isThere (path : String) : IO Bool := do
  match ← (IO.FS.readBinFile path).toBaseIO with
  | .error (.noFileOrDirectory ..) => return false
  | _ => return true

/-- The disk with the directory at a path, if there is one. -/
def loadDirectory (disk : Disk) (path : String) : IO Disk := do
  if ← isThere path then return (disk.createDirectories path).2
  else return disk

/-- The disk with the file at a path and the directory that it is in, if there are any. -/
def loadFile (disk : Disk) (path : String) : IO Disk := do
  let parent := (Files.parent? path).filter fun parent => parent ≠ ""
  let disk ← parent.toList.foldlM loadDirectory disk
  match ← (IO.FS.readBinFile path).toBaseIO with
  | .ok content => return disk.insert (disk.spelled path) (Database.entryOfContent content.toList)
  | .error _ => return disk

/-- Writes what has changed on a disk. -/
def storeChanges (earlier disk : Disk) : IO Unit :=
  for (location, entry) in disk.changesSince earlier do
    let path := Files.Tree.pathTo location
    match Database.contentOfEntry? entry with
    | some content => IO.FS.writeBinFile path ⟨content.toArray⟩
    | none => IO.FS.createDirAll path

/-! ### Runs -/

/-- The surroundings of a run that is given these paths. -/
def surroundingsWith (paths : List String) : IO Surroundings := do
  let start : Disk := Files.Tree.ofWorkingDirectory (toString (← IO.currentDir))
  return {
    disk := ← paths.foldlM loadFile start
    environment := ← readEnvironment
    now := ← currentInstant
    random := ← drawBytes 512 }

/-- Shows how a run ended, and keeps what it changed. -/
def finish (earlier : Disk) (outcome : Outcome) : IO UInt32 := do
  storeChanges earlier outcome.disk
  IO.print outcome.output
  IO.eprint outcome.errors
  return UInt32.ofNat outcome.code

/-- Answers requests until there are no more. -/
partial def serveRequests (gateway : Gateway.Running) (input output : IO.FS.Stream) : IO Unit := do
  let line ← input.getLine
  if line.isEmpty then return
  let fresh := Gateway.Fresh.ofBytes (← drawBytes Gateway.Fresh.width)
  let present := { gateway with state := { gateway.state with now := ← currentInstant } }
  match (Json.parse? (Bytes.ofText line)).bind Gateway.Request.ofJson? with
  | none => serveRequests present input output
  | some request =>
    let (result, after) := present.answer fresh request
    storeChanges gateway.state.store.disk after.state.store.disk
    let answer := (result.toOption.map Gateway.Response.toJson).getD .null
    output.putStrLn (answer.render.toText?.getD "")
    output.flush
    serveRequests after input output

/-- Runs the tool for keys and proofs. -/
def runKeyTool (arguments : List String) : IO UInt32 := do
  let surroundings ← surroundingsWith (KeyTool.program.pathsIn arguments)
  finish surroundings.disk (KeyTool.run arguments surroundings)

/-- Runs the gateway's program. -/
def runGatewayTool (arguments : List String) : IO UInt32 := do
  let bare ← surroundingsWith (GatewayTool.program.pathsIn arguments)
  let settings := GatewayTool.settings? arguments bare
  let named := (settings.map Config.paths).getD []
  let database := (settings.bind (·.storage.databasePath)).bind Storage.filePath?
  let paths := named ++ database.toList
  let surroundings := { bare with disk := ← paths.foldlM loadFile bare.disk }
  match GatewayTool.run arguments surroundings with
  | .ended outcome => finish surroundings.disk outcome
  | .serving gateway address =>
    storeChanges surroundings.disk gateway.state.store.disk
    IO.eprintln ("serving " ++ address ++ " from standard input")
    serveRequests gateway (← IO.getStdin) (← IO.getStdout)
    return 0

end DeviceAuth.CommandLine

/-- Runs the tool that the first argument names. -/
def main (arguments : List String) : IO UInt32 :=
  match arguments with
  | "edgeguard-zk" :: rest => DeviceAuth.CommandLine.runKeyTool rest
  | "edgeguard-gateway" :: rest => DeviceAuth.CommandLine.runGatewayTool rest
  | _ => do
    IO.eprintln "the first argument must be edgeguard-zk or edgeguard-gateway"
    return 2
