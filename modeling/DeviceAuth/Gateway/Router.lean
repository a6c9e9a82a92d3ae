import DeviceAuth.Auth.Service
import DeviceAuth.Draw
import DeviceAuth.Gateway.Http
import DeviceAuth.Gateway.MediaType

/-!
**The endpoints of the gateway.** A path names an endpoint, an endpoint admits one method (and
`HEAD` where it admits `GET`). The endpoint that reports on a session checks the token before
anything else, even where the method is wrong.

Every failure becomes an answer with a status and one of two texts; a call that is abandoned because
an instant lies beyond the last one counts as an internal error.
-/

namespace DeviceAuth.Gateway

/-! ### Targets -/

/-- Drops the scheme of an absolute target and the two slashes after it. -/
def afterScheme? : List Char → Option (List Char)
  | ':' :: '/' :: '/' :: rest => some rest
  | char :: rest =>
    if char.isAlphanum || char == '+' || char == '-' || char == '.' then afterScheme? rest
    else none
  | [] => none

/-- The path of a target, without its query and fragment. -/
def targetPath? (target : String) : Option String :=
  let untilQuery (text : List Char) : String :=
    String.ofList (text.takeWhile fun char => char != '?' && char != '#')
  match target.toList with
  | '/' :: rest => some (untilQuery ('/' :: rest))
  | text =>
    (afterScheme? text).map fun rest =>
      untilQuery (rest.dropWhile fun char => char != '/' && char != '?' && char != '#')

/-! ### Endpoints -/

/-- What a gateway can be asked for. -/
inductive Endpoint where
  | health
  | challenge
  | verify
  | refresh
  | revoke
  | session
  deriving DecidableEq, Repr

namespace Endpoint

/-- The endpoint at a path. -/
def ofPath? : String → Option Endpoint
  | "/health" => some health
  | "/auth/challenge" => some challenge
  | "/auth/verify" => some verify
  | "/auth/refresh" => some refresh
  | "/auth/revoke" => some revoke
  | "/auth/session" => some session
  | _ => none

/-- The methods that an endpoint admits. -/
def methods : Endpoint → List String
  | health | session => ["GET", "HEAD"]
  | challenge | verify | refresh | revoke => ["POST"]

end Endpoint

/-! ### Bodies -/

/-- The most bytes of a body that is read. -/
def maximumBodyLength : Nat := 2097152

/-- Whether the first `Content-Type` header names JSON. -/
def declaresJson (headers : Headers) : Bool :=
  match ((header? headers "content-type").bind headerText?).bind MediaType.ofText? with
  | some mediaType => mediaType.isJson
  | none => false

/-- The document that the body of a request starts with, read as a value. -/
def document? {α : Type} (read : Json → Option α) (request : Request) : Option α :=
  if declaresJson request.headers ∧ request.body.length ≤ maximumBodyLength then
    (Json.parseStart? request.body).bind fun (value, _) => read value
  else none

/-- The answer to a body that cannot be read. -/
def unreadableBody : Response :=
  .ofJson 400 (SessionNotice.failure "invalid request").toJson

/-! ### Answers -/

/-- What a gateway serves requests with. -/
structure Server where
  service : Service
  /-- Whether records are kept in a database. -/
  durable : Bool

/-- The random values that one request may need. -/
structure Fresh where
  challengeId : String
  nonce : Word256
  sessionId : String

/-- How many bytes are drawn for one request. -/
def Fresh.width : Nat := 32 + Draw.scalarWidth

/-- The ids and the nonce of some random bytes. -/
def Fresh.ofBytes (bytes : Bytes) : Fresh where
  challengeId := Draw.identifier bytes 0
  sessionId := Draw.identifier bytes 16
  nonce := Draw.word bytes 32

open Operation

/-- The answer to an operation: what its value calls for, or an error. -/
def answered {α : Type} (operation : Operation α) (respond : α → Response) :
    Operation Response := do
  match ← operation.outcome with
  | .ok value => return respond value
  | .error (.refused error) => return refusal error
  | .error .overflow => return refusal (.internal "the call was abandoned")

/-- The answer to a request that must carry a token. -/
def authorized {α : Type} (request : Request) (operation : String → Operation α)
    (respond : α → Response) : Operation Response :=
  match bearerToken request.headers with
  | .ok token => answered (operation token) respond
  | .error error => pure (refusal error)

/-- The answer to a request whose body must hold a document. -/
def documented {α : Type} (read : Json → Option α) (request : Request)
    (respond : α → Operation Response) : Operation Response :=
  match document? read request with
  | some value => respond value
  | none => pure unreadableBody

/-- What a device is told of its session. -/
def sessionReport (claims : TokenClaims) : Json :=
  Json.ofMembers [
    ("device_id", Json.ofText claims.deviceId),
    ("session_id", Json.ofText claims.sessionId),
    ("expires_at", Json.ofInt claims.expiresAt.toInt)]

/-- The report on the license, if one is needed. -/
def licenseReport (gate : LicenseGate) (now : Instant) : Except Failure Json :=
  match gate with
  | .disabled => .ok .null
  | .enabled keeper => (keeper.report now).map LicenseReport.toJson

/-- The report on the gateway. -/
def health (server : Server) : Operation Json := do
  let now ← Operation.now
  let gate ← license
  let license ← done (licenseReport gate now)
  return Json.ofMembers [
    ("status", Json.ofText "healthy"),
    ("service", Json.ofText "edgeguard-gateway"),
    ("verifier", Json.ofText server.service.checker.name),
    ("storage", Json.ofText (if server.durable then "sqlite" else "memory")),
    ("ephemeral_secret", .boolean server.service.sessions.tokenKey.isEphemeral),
    ("license", license),
    ("timestamp", Json.ofText (Rfc3339.renderWithOffset now))]

/-- The answer of an endpoint to a request with an admitted method. -/
def serve (server : Server) (fresh : Fresh) (request : Request) :
    Endpoint → Operation Response
  | .health => do return .ofJson 200 (← health server)
  | .challenge =>
    documented ChallengeRequest.ofJson? request fun asked =>
      answered (server.service.issueChallenge fresh.challengeId fresh.nonce asked.deviceId)
        fun challenge => .ofJson 200 (ChallengeOffer.ofChallenge challenge).toJson
  | .verify =>
    documented ProofSubmission.ofJson? request fun submitted =>
      answered (server.service.submit fresh.sessionId submitted)
        fun session => .ofJson 200 (SessionNotice.ofSession session).toJson
  | .refresh =>
    authorized request server.service.extendSession
      fun session => .ofJson 200 (SessionNotice.ofSession session).toJson
  | .revoke =>
    authorized request server.service.endByToken
      fun claims => .ofJson 200 (SessionNotice.ended claims.sessionId).toJson
  | .session =>
    authorized request server.service.acceptToken
      fun claims => .ofJson 200 (sessionReport claims)

/-- The answer of an endpoint to a request with a method that it does not admit. -/
def turnAway (server : Server) (request : Request) : Endpoint → Operation Response
  | .session => authorized request server.service.acceptToken fun _ => .empty 405
  | _ => pure (.empty 405)

/-- The answer of the gateway to a request. -/
def respond (server : Server) (fresh : Fresh) (request : Request) : Operation Response :=
  match (targetPath? request.target).bind Endpoint.ofPath? with
  | none => pure (.empty 404)
  | some endpoint =>
    if endpoint.methods.contains request.method then do
      let response ← serve server fresh request endpoint
      return if request.method = "HEAD" then { response with body := none } else response
    else do
      let response ← turnAway server request endpoint
      return { response with allow := some (",".intercalate endpoint.methods) }

end DeviceAuth.Gateway
