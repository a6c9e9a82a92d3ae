/-!
**Why a proof operation fails.** Each constructor is a cause; the texts that some carry name the
file, the byte or the rule at fault.
-/

namespace DeviceAuth

/-- Why reading, making or checking a proof fails. -/
inductive ZkpError where
  /-- No key has been loaded. -/
  | notInitialized
  /-- The proving key cannot be read. -/
  | provingKeyNotFound (detail : String)
  /-- The verifying key cannot be read. -/
  | verificationKeyNotFound (detail : String)
  /-- A key cannot be decoded, written or used. -/
  | keySerialization (detail : String)
  /-- Keys cannot be made. -/
  | setupFailed (detail : String)
  /-- A text or a byte string is no field value. -/
  | invalidEncoding (detail : String)
  /-- A device id has more bytes than a field value can hold. -/
  | deviceIdTooLong (length maximum : Nat)
  /-- A device id is empty. -/
  | emptyDeviceId
  /-- The secret does not belong to the commitment. -/
  | commitmentMismatch (detail : String)
  /-- A proof cannot be made. -/
  | proofGenerationFailed (detail : String)
  /-- A proof cannot be decoded. -/
  | malformedProof (detail : String)
  /-- A proof cannot be checked. -/
  | verificationFailed (detail : String)
  /-- The verifier that accepts everything has not been asked for explicitly. -/
  | insecureBackendRefused (detail : String)
  /-- A key is too large for any memory; the call is abandoned. -/
  | overflow
  deriving DecidableEq, Repr

namespace ZkpError

/-- The wording of an error. -/
def message : ZkpError → String
  | notInitialized => "ZK backend not initialized"
  | provingKeyNotFound detail => "Proving key not found: " ++ detail
  | verificationKeyNotFound detail => "Verification key not found: " ++ detail
  | keySerialization detail => "Key serialization error: " ++ detail
  | setupFailed detail => "Circuit setup failed: " ++ detail
  | invalidEncoding detail => "Invalid encoding: " ++ detail
  | deviceIdTooLong length maximum =>
    "Device id is " ++ toString length ++ " bytes, maximum is " ++ toString maximum
  | emptyDeviceId => "Device id is empty"
  | commitmentMismatch detail => "Commitment mismatch: " ++ detail
  | proofGenerationFailed detail => "Proof generation failed: " ++ detail
  | malformedProof detail => "Malformed proof: " ++ detail
  | verificationFailed detail => "Verification failed: " ++ detail
  | insecureBackendRefused detail => "Insecure verifier backend refused: " ++ detail
  | overflow => "a key is out of range"

end ZkpError

end DeviceAuth
