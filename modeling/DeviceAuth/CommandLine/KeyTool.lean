import DeviceAuth.CommandLine.Outcome
import DeviceAuth.Draw
import DeviceAuth.Groth16.Setup
import DeviceAuth.Json.Reader
import DeviceAuth.Json.Writer
import DeviceAuth.Zkp.Prover
import DeviceAuth.Zkp.Checker

/-!
**The tool for keys and proofs.** It makes the keys of the circuit, commitments for enrollment and
proofs for a challenge, and checks proofs, all without a gateway.
-/

namespace DeviceAuth.CommandLine.KeyTool

/-- What the tool can be asked for. -/
def program : Program where
  name := "edgeguard-zk"
  versionLine := "edgeguard-crypto 0.2.0"
  about := "EdgeGuard auth circuit tooling"
  commandRequired := true
  commands := [
    { name := "setup"
      about := "Run the Groth16 setup and write auth_proving.key / auth_verifying.key"
      options := [{ name := "out-dir", kind := .path, fallback := some "keys" }] },
    { name := "commitment"
      about := "Compute the enrollment commitment for a device. Generates a fresh secret when "
        ++ "none is given"
      options := [
        { name := "device-id", kind := .text, required := true },
        { name := "secret", kind := .text }] },
    { name := "prove"
      about := "Produce a proof payload for a challenge"
      options := [
        { name := "proving-key", kind := .path, required := true },
        { name := "device-id", kind := .text, required := true },
        { name := "secret", kind := .text, required := true },
        { name := "challenge", kind := .text, required := true },
        { name := "commitment", kind := .text, required := true },
        { name := "out", kind := .path
          about := "Write the payload here instead of stdout" }] },
    { name := "verify"
      about := "Verify a proof payload against a verifying key"
      options := [
        { name := "verifying-key", kind := .path, required := true },
        { name := "payload", kind := .path, required := true }] }]

/-- A document as it is printed. -/
def printed (value : Json) : String :=
  ((Json.renderIndented value).toText?).getD ""

/-- The value of an option that is required. -/
def value (given : Given) (name : String) : String :=
  (given.lookup name).getD ""

/-- A result whose error is the only reason of a failure. -/
def lift {α : Type} (result : Except ZkpError α) : Except Outcome.Ending α :=
  result.mapError fun error =>
    match error with
    | .overflow => .abandoned
    | error => .failure [error.message]

/-- The secrets that keys are made from. -/
def trapdoor (random : Bytes) : Groth16.Trapdoor :=
  let part (index : Nat) : Scalar := Draw.scalar random (index * Draw.scalarWidth)
  { point := part 0, alpha := part 1, beta := part 2, gamma := part 3, delta := part 4 }

/-- Makes keys and writes them into a directory. -/
def setup (given : Given) (surroundings : Surroundings) : Except Outcome.Ending Outcome := do
  let directory := (given.lookup "out-dir").getD "keys"
  let key := Groth16.setup Circuit.authentication (trapdoor surroundings.random)
  let disk ← lift (writeKeys surroundings.disk directory key key.verifyingKey)
  return .success disk ""

/-- Prints the commitment of a device, and its secret if that was drawn. -/
def commitment (given : Given) (surroundings : Surroundings) : Except Outcome.Ending Outcome := do
  let deviceId := value given "device-id"
  let (secret, drawn) ← lift (
    match given.lookup "secret" with
    | some text => return (← Word256.ofHex text, [])
    | none =>
      let secret := Draw.word surroundings.random 0
      return (secret, [("secret", Json.ofText secret.toHex)]))
  let commitment ← lift (commitmentOf secret deviceId)
  let document := Json.ofMembers (
    [("device_id", Json.ofText deviceId), ("commitment", Json.ofText commitment.toHex)] ++ drawn)
  return .success surroundings.disk (printed document ++ "\n")

/-- Makes a proof, and prints it or writes it to a file. -/
def prove (given : Given) (surroundings : Surroundings) : Except Outcome.Ending Outcome := do
  let prover ← lift (Prover.load surroundings.disk (value given "proving-key"))
  let inputs ← lift (ProvingInputs.ofHex (value given "secret") (value given "device-id")
    (value given "challenge") (value given "commitment"))
  let blinding : Groth16.Blinding :=
    ⟨Draw.scalar surroundings.random 0, Draw.scalar surroundings.random Draw.scalarWidth⟩
  let stated ← lift (prover.prove inputs blinding)
  let document := printed (ProofDocument.ofStated stated).toJson
  match given.lookup "out" with
  | none => return .success surroundings.disk (document ++ "\n")
  | some path =>
    let disk ← (surroundings.disk.write path (Bytes.ofText document)).mapError fun fault =>
      .failure ["writing " ++ path, fault.message]
    return .success disk ""

/-- Checks the proof in a file. -/
def verify (given : Given) (surroundings : Surroundings) : Except Outcome.Ending Outcome := do
  let checker ←
    lift (Groth16Checker.keyless.load surroundings.disk (value given "verifying-key"))
  let path := value given "payload"
  let text ← (surroundings.disk.readText path).mapError fun fault =>
    .failure ["reading " ++ path, fault.message]
  match (Json.parse? (Bytes.ofText text)).bind ProofDocument.ofJson? with
  | none => .error (.failure ["parsing payload", "not a proof payload"])
  | some document =>
    let proof ← lift document.decodedProof
    if ← lift (checker.check proof document.publicValues) then
      return .success surroundings.disk "proof is VALID\n"
    else .error (.failure ["proof is INVALID"])

/-- Runs a command. -/
def perform (invocation : Invocation) (surroundings : Surroundings) :
    Except Outcome.Ending Outcome :=
  match invocation.command with
  | some "setup" => setup invocation.given surroundings
  | some "commitment" => commitment invocation.given surroundings
  | some "prove" => prove invocation.given surroundings
  | some "verify" => verify invocation.given surroundings
  | _ => .error (.failure ["no such command"])

/-- Runs the tool. -/
def run (arguments : List String) (surroundings : Surroundings) : Outcome :=
  match program.read arguments with
  | .error stop => .ofStop program surroundings.disk stop
  | .ok invocation =>
    match perform invocation surroundings with
    | .ok outcome => outcome
    | .error ending => .early surroundings.disk ending

end DeviceAuth.CommandLine.KeyTool
