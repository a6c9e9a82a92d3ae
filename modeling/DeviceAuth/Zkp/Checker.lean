import DeviceAuth.Config.Settings
import DeviceAuth.Zkp.KeyFile
import DeviceAuth.Zkp.StatedProof

/-!
**Checkers.** A checker answers whether a proof is valid for public values. A wrong proof is the
answer `false`; errors are for input that cannot be decoded and for a checker that cannot be used.

The Groth16 checker takes its key once: the first key of the right shape stays. The checker that
accepts every proof with at least one byte exists only where it has been asked for explicitly.
-/

namespace DeviceAuth

/-- A way to check proofs. -/
structure ProofChecker where
  /-- The name of this way. -/
  name : String
  /-- Whether a proof is valid for public values. -/
  check : Bytes → PublicValues → Except ZkpError Bool

/-- The checker for Groth16 proofs, with or without its key. -/
structure Groth16Checker where
  /-- The key, once there is one. -/
  key : Option Groth16.VerifyingKey

namespace Groth16Checker

/-- The checker that has no key yet. -/
def keyless : Groth16Checker := ⟨none⟩

/-- Whether there is a key. -/
def hasKey (checker : Groth16Checker) : Bool :=
  checker.key.isSome

/-- Accepts keys for the number of public inputs that the circuit has. -/
def checkKey (key : Groth16.VerifyingKey) : Except ZkpError Groth16.VerifyingKey :=
  if key.inputs.length = Circuit.publicCount + 1 then .ok key
  else
    .error (.keySerialization ("verifying key expects " ++ toString (key.inputs.length - 1)
      ++ " public inputs, auth circuit has " ++ toString Circuit.publicCount))

/-- Takes a key, unless there is one. -/
def install (checker : Groth16Checker) (key : Groth16.VerifyingKey) :
    Except ZkpError Groth16Checker :=
  if checker.hasKey then .ok checker
  else return ⟨some (← checkKey key)⟩

/-- Takes the key in a file, unless there is one. -/
def load {δ : Type} (checker : Groth16Checker) (files : Files.Tree δ) (path : String) :
    Except ZkpError Groth16Checker :=
  if checker.hasKey then .ok checker
  else do
    let key ← verifyingKeyAt files path
    return ⟨some (← checkKey key)⟩

/-- Whether a proof is valid for public values. -/
def check (checker : Groth16Checker) (proof : Bytes) (values : PublicValues) :
    Except ZkpError Bool :=
  match checker.key with
  | none => .error .notInitialized
  | some key => do
    let proof ← readProof proof
    let statement ← values.toStatement
    match Groth16.verify key statement.toList proof with
    | some valid => .ok valid
    | none => .error (.verificationFailed "malformed verifying key")

/-- The checker as one of the ways to check proofs. -/
def toChecker (checker : Groth16Checker) : ProofChecker :=
  ⟨"groth16", checker.check⟩

end Groth16Checker

/-- Accepts every proof that is not empty, for all public values that are canonical. -/
def acceptNonempty (proof : Bytes) (values : PublicValues) : Except ZkpError Bool :=
  if proof = [] then .error (.malformedProof "empty proof")
  else do
    let _ ← values.toStatement
    return true

/-- The checker that accepts everything, where that is allowed. -/
def permissiveChecker (allowed : Bool) : Except ZkpError ProofChecker :=
  if allowed then .ok ⟨"accept-all", acceptNonempty⟩
  else
    .error (.insecureBackendRefused
      "accept-all verifier requires allow_insecure_backend = true")

/-- The checker that settings ask for, with its key. -/
def ZkpSettings.checker {δ : Type} (settings : ZkpSettings) (files : Files.Tree δ) :
    Except ZkpError ProofChecker :=
  match settings.backend with
  | .groth16 =>
    match settings.verifyingKeyPath with
    | none => .error (.verificationKeyNotFound "zkp.verifying_key_path not set")
    | some path => return (← Groth16Checker.keyless.load files path).toChecker
  | .acceptAll => permissiveChecker settings.allowInsecureBackend

end DeviceAuth
