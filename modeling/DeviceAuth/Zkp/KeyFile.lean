import DeviceAuth.Files.Tree
import DeviceAuth.Groth16.Key
import DeviceAuth.Zkp.Error

/-!
**Proofs and keys as bytes and files.** A proof must take up all of its bytes; what follows a key is
passed over. A key file that is missing is reported in full, since nothing can replace it.
-/

namespace DeviceAuth

open Groth16

/-- The file name of a proving key. -/
def provingKeyName : String := "auth_proving.key"

/-- The file name of a verifying key. -/
def verifyingKeyName : String := "auth_verifying.key"

/-- The proof that some bytes hold, from the first to the last. -/
def readProof (bytes : Bytes) : Except ZkpError Proof :=
  if bytes = [] then .error (.malformedProof "empty proof")
  else
    match Proof.read bytes with
    | .error fault => .error (.malformedProof fault.message)
    | .ok (proof, rest) =>
      if rest = [] then .ok proof
      else .error (.malformedProof (toString rest.length ++ " trailing bytes after proof"))

/-- The error for bytes that are no key. -/
def ZkpError.ofKeyFault : Curve.Fault → ZkpError
  | .overflow => overflow
  | fault => keySerialization fault.message

/-- The verifying key at the front of some bytes. -/
def readVerifyingKey (bytes : Bytes) : Except ZkpError VerifyingKey :=
  ((VerifyingKey.read bytes).map Prod.fst).mapError .ofKeyFault

/-- The proving key at the front of some bytes. -/
def readProvingKey (bytes : Bytes) : Except ZkpError ProvingKey :=
  ((ProvingKey.read bytes).map Prod.fst).mapError .ofKeyFault

/-- The proving key in a file. -/
def provingKeyAt {δ : Type} (files : Files.Tree δ) (path : String) :
    Except ZkpError ProvingKey :=
  match files.read path with
  | .ok bytes => readProvingKey bytes
  | .error fault =>
    .error (.provingKeyNotFound ("CRITICAL: proving key missing at " ++ path
      ++ ". Device cannot authenticate. Error: " ++ fault.message))

/-- The verifying key in a file. -/
def verifyingKeyAt {δ : Type} (files : Files.Tree δ) (path : String) :
    Except ZkpError VerifyingKey :=
  match files.read path with
  | .ok bytes => readVerifyingKey bytes
  | .error fault =>
    .error (.verificationKeyNotFound ("CRITICAL: verifying key missing at " ++ path
      ++ ". Deployment unsafe. Error: " ++ fault.message))

/-- Writes bytes to a file; a failure names the path. -/
def writeKeyFile {δ : Type} (files : Files.Tree δ) (path : String) (content : Bytes) :
    Except ZkpError (Files.Tree δ) :=
  (files.write path content).mapError fun fault =>
    .keySerialization (path ++ ": " ++ fault.message)

/-- Writes both keys into a directory, under their file names. -/
def writeKeys {δ : Type} (files : Files.Tree δ) (directory : String) (provingKey : ProvingKey)
    (verifyingKey : VerifyingKey) : Except ZkpError (Files.Tree δ) := do
  let (made, files) := files.createDirectories directory
  made.mapError fun fault => ZkpError.keySerialization (directory ++ ": " ++ fault.message)
  let files ← writeKeyFile files (Files.join directory provingKeyName) provingKey.encode
  writeKeyFile files (Files.join directory verifyingKeyName) verifyingKey.encode

end DeviceAuth
