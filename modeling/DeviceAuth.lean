import DeviceAuth.Auth.Cell
import DeviceAuth.Auth.Challenge
import DeviceAuth.Auth.Credential
import DeviceAuth.Auth.Database
import DeviceAuth.Auth.DatabaseName
import DeviceAuth.Auth.Error
import DeviceAuth.Auth.FailureCounters
import DeviceAuth.Auth.License
import DeviceAuth.Auth.LicenseGate
import DeviceAuth.Auth.MemoryStore
import DeviceAuth.Auth.Message
import DeviceAuth.Auth.Numeral
import DeviceAuth.Auth.Operation
import DeviceAuth.Auth.Row
import DeviceAuth.Auth.Service
import DeviceAuth.Auth.Session
import DeviceAuth.Auth.SessionPolicy
import DeviceAuth.Auth.Storage
import DeviceAuth.Auth.Store
import DeviceAuth.Auth.Token
import DeviceAuth.Binary
import DeviceAuth.Bytes
import DeviceAuth.Circuit.Authentication
import DeviceAuth.Circuit.Basic
import DeviceAuth.CommandLine.Arguments
import DeviceAuth.CommandLine.GatewayTool
import DeviceAuth.CommandLine.KeyTool
import DeviceAuth.CommandLine.Outcome
import DeviceAuth.Config.Document
import DeviceAuth.Config.Settings
import DeviceAuth.Curve.Compressed
import DeviceAuth.Curve.Field
import DeviceAuth.Curve.Multiple
import DeviceAuth.Curve.Pairing
import DeviceAuth.Curve.Point
import DeviceAuth.DeviceId
import DeviceAuth.Dictionary
import DeviceAuth.Draw
import DeviceAuth.Field.Basic
import DeviceAuth.Field.Transform
import DeviceAuth.Field.Word256
import DeviceAuth.Files.Tree
import DeviceAuth.Gateway.Http
import DeviceAuth.Gateway.MediaType
import DeviceAuth.Gateway.Router
import DeviceAuth.Gateway.Startup
import DeviceAuth.Groth16.Key
import DeviceAuth.Groth16.Prove
import DeviceAuth.Groth16.Setup
import DeviceAuth.Hash.Blake3
import DeviceAuth.Hash.Sha512
import DeviceAuth.Json.Basic
import DeviceAuth.Json.Number
import DeviceAuth.Json.Reader
import DeviceAuth.Json.Record
import DeviceAuth.Json.Writer
import DeviceAuth.Main
import DeviceAuth.Mimc
import DeviceAuth.Proofs.Auth.Admission
import DeviceAuth.Proofs.Auth.Causes
import DeviceAuth.Proofs.Auth.Enrollment
import DeviceAuth.Proofs.Auth.Equivalence
import DeviceAuth.Proofs.Auth.Evolution
import DeviceAuth.Proofs.Auth.Exact
import DeviceAuth.Proofs.Auth.Expiry
import DeviceAuth.Proofs.Auth.FailureHistory
import DeviceAuth.Proofs.Auth.Footprint
import DeviceAuth.Proofs.Auth.History
import DeviceAuth.Proofs.Auth.Isolation
import DeviceAuth.Proofs.Auth.Issuance
import DeviceAuth.Proofs.Auth.Kept
import DeviceAuth.Proofs.Auth.Ledger
import DeviceAuth.Proofs.Auth.Ledger.Database
import DeviceAuth.Proofs.Auth.Ledger.Storage
import DeviceAuth.Proofs.Auth.LicenseHistory
import DeviceAuth.Proofs.Auth.Live
import DeviceAuth.Proofs.Auth.Lockout
import DeviceAuth.Proofs.Auth.Lockstep
import DeviceAuth.Proofs.Auth.Lockstep.Calls
import DeviceAuth.Proofs.Auth.Outcome
import DeviceAuth.Proofs.Auth.Quota
import DeviceAuth.Proofs.Auth.Race
import DeviceAuth.Proofs.Auth.Readable
import DeviceAuth.Proofs.Auth.Refusals
import DeviceAuth.Proofs.Auth.Requests
import DeviceAuth.Proofs.Auth.Revocation
import DeviceAuth.Proofs.Auth.Rounding
import DeviceAuth.Proofs.Auth.SessionJobs
import DeviceAuth.Proofs.Auth.SessionRecords
import DeviceAuth.Proofs.Auth.Sessions
import DeviceAuth.Proofs.Auth.SignedTerms
import DeviceAuth.Proofs.Auth.SingleUse
import DeviceAuth.Proofs.Auth.Stages
import DeviceAuth.Proofs.Auth.Stocked
import DeviceAuth.Proofs.Auth.StoredTime
import DeviceAuth.Proofs.Auth.Tables
import DeviceAuth.Proofs.Auth.Token
import DeviceAuth.Proofs.Auth.TokenLifetime
import DeviceAuth.Proofs.Auth.Undelivered
import DeviceAuth.Proofs.Auth.Upkeep
import DeviceAuth.Proofs.Auth.Verification
import DeviceAuth.Proofs.Auth.Waiting
import DeviceAuth.Proofs.Circuit.Growth
import DeviceAuth.Proofs.Circuit.Hash
import DeviceAuth.Proofs.Circuit.Satisfaction
import DeviceAuth.Proofs.Circuit.Statement
import DeviceAuth.Proofs.Config.Lifetimes
import DeviceAuth.Proofs.Config.Rules
import DeviceAuth.Proofs.DeviceId
import DeviceAuth.Proofs.Dictionary
import DeviceAuth.Proofs.Field.Primality
import DeviceAuth.Proofs.Field.WordText
import DeviceAuth.Proofs.Gateway.Answers
import DeviceAuth.Proofs.Gateway.Denial
import DeviceAuth.Proofs.Gateway.Housekeeping
import DeviceAuth.Proofs.Gateway.Startup
import DeviceAuth.Proofs.Json.Magnitude
import DeviceAuth.Proofs.Json.Record
import DeviceAuth.Proofs.Json.RoundTrip
import DeviceAuth.Proofs.Mimc
import DeviceAuth.Proofs.Sequence
import DeviceAuth.Proofs.Text.Base64
import DeviceAuth.Proofs.Text.Hex
import DeviceAuth.Proofs.Text.Utf8
import DeviceAuth.Proofs.Time.Calendar
import DeviceAuth.Proofs.Time.Floor
import DeviceAuth.Proofs.Time.Millis
import DeviceAuth.Proofs.Time.Rfc3339
import DeviceAuth.Proofs.Zkp.Agreement
import DeviceAuth.Proofs.Zkp.Checking
import DeviceAuth.Proofs.Zkp.Documents
import DeviceAuth.Proofs.Zkp.FirstKey
import DeviceAuth.Proofs.Zkp.OverlongKey
import DeviceAuth.Proofs.Zkp.Payload
import DeviceAuth.Proofs.Zkp.Proving
import DeviceAuth.Signature.Ed25519
import DeviceAuth.Text.Base64
import DeviceAuth.Text.Basic
import DeviceAuth.Text.Hex
import DeviceAuth.Text.Quoted
import DeviceAuth.Time.Calendar
import DeviceAuth.Time.Instant
import DeviceAuth.Time.Rfc3339
import DeviceAuth.Toml.Basic
import DeviceAuth.Toml.Draft
import DeviceAuth.Toml.Literal
import DeviceAuth.Toml.Quoted
import DeviceAuth.Toml.Reader
import DeviceAuth.Zkp.Checker
import DeviceAuth.Zkp.Error
import DeviceAuth.Zkp.KeyFile
import DeviceAuth.Zkp.Prover
import DeviceAuth.Zkp.SharedChecker
import DeviceAuth.Zkp.StatedProof
