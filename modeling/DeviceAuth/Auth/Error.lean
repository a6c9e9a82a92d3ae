import DeviceAuth.Zkp.Error

/-!
**Why authentication fails.** Each constructor is a cause, in the detail that logs need. Three views
decide what follows from it: whether the failure counts against the device (`countsAgainstDevice`),
whether it is a fault of the server (`isServerFault`), and what the client is told
(`publicMessage`), which is one text for all faults of the server and one for everything else.

Main statement: no failure that counts against a device is a fault of the server
(`not_isServerFault_of_countsAgainstDevice`).
-/

namespace DeviceAuth

/-- Why an authentication request fails. -/
inductive AuthError where
  /-- The device is not enrolled or not active. -/
  | deviceNotFound (deviceId : String)
  /-- There is no such challenge. -/
  | challengeNotFound (challengeId : String)
  /-- The challenge has expired. -/
  | challengeExpired (challengeId : String)
  /-- The challenge has been used. -/
  | challengeAlreadyUsed (challengeId : String)
  /-- The device has failed too often in a row. -/
  | lockedOut (deviceId : String) (failures : UInt32)
  /-- The license does not allow the request. -/
  | licenseDenied (detail : String)
  /-- The public values of the proof are not those of the challenge or the device. -/
  | witnessMismatch (detail : String)
  /-- The proof is well formed and wrong. -/
  | invalidProof
  /-- The proof cannot be decoded. -/
  | malformedProof (detail : String)
  /-- The session has expired. -/
  | sessionExpired (sessionId : String)
  /-- There is no such session. -/
  | sessionNotFound (sessionId : String)
  /-- The token is malformed, forged, or not for the session. -/
  | invalidToken (detail : String)
  /-- The request holds data that cannot be encoded. -/
  | invalidInput (detail : String)
  /-- A store fails. -/
  | storage (detail : String)
  /-- The proof backend fails for reasons of its own. -/
  | crypto (detail : String)
  /-- The configuration cannot be used. -/
  | config (detail : String)
  /-- A document cannot be read. -/
  | serialization (detail : String)
  /-- An invariant is broken. -/
  | internal (detail : String)
  deriving DecidableEq, Repr

namespace AuthError

/-- The wording of an error. -/
def message : AuthError → String
  | deviceNotFound deviceId => "Device not found: " ++ deviceId
  | challengeNotFound challengeId => "Challenge not found: " ++ challengeId
  | challengeExpired challengeId => "Challenge expired: " ++ challengeId
  | challengeAlreadyUsed challengeId => "Challenge already used: " ++ challengeId
  | lockedOut deviceId failures =>
    "Device locked out: " ++ deviceId ++ " (" ++ toString failures.toNat ++ " consecutive failures)"
  | licenseDenied detail => "License denied: " ++ detail
  | witnessMismatch detail => "Public witness mismatch: " ++ detail
  | invalidProof => "Invalid proof"
  | malformedProof detail => "Malformed proof: " ++ detail
  | sessionExpired sessionId => "Session expired: " ++ sessionId
  | sessionNotFound sessionId => "Session not found: " ++ sessionId
  | invalidToken detail => "Invalid token: " ++ detail
  | invalidInput detail => "Invalid input: " ++ detail
  | storage detail => "Storage error: " ++ detail
  | crypto detail => "Crypto error: " ++ detail
  | config detail => "Configuration error: " ++ detail
  | serialization detail => "Serialization error: " ++ detail
  | internal detail => "Internal error: " ++ detail

/-- Whether a failed verification with this cause counts against the device. -/
def countsAgainstDevice : AuthError → Bool
  | deviceNotFound _ | challengeNotFound _ | challengeExpired _ | challengeAlreadyUsed _
  | witnessMismatch _ | invalidProof | malformedProof _ | invalidInput _ => true
  | _ => false

/-- Whether the server is at fault, and not the request. -/
def isServerFault : AuthError → Bool
  | storage _ | crypto _ | config _ | serialization _ | internal _ => true
  | _ => false

/-- What the client is told. -/
def publicMessage (error : AuthError) : String :=
  if error.isServerFault then "internal error" else "authentication failed"

/-- A failed proof operation as a failed request: what is wrong with the proof or the input is the
request's fault, all else is the backend's. -/
def ofZkp (error : ZkpError) : AuthError :=
  match error with
  | .malformedProof detail => malformedProof detail
  | .invalidEncoding _ | .deviceIdTooLong _ _ | .emptyDeviceId => invalidInput error.message
  | _ => crypto error.message

/-- The result of a proof operation as the result of a request. -/
def liftZkp {α : Type} (result : Except ZkpError α) : Except AuthError α :=
  result.mapError ofZkp

/-- No failure that counts against a device is a fault of the server. -/
theorem not_isServerFault_of_countsAgainstDevice {error : AuthError}
    (counts : error.countsAgainstDevice = true) : error.isServerFault = false := by
  cases error <;> simp_all [countsAgainstDevice, isServerFault]

end AuthError

end DeviceAuth
