import DeviceAuth.Auth.Error
import DeviceAuth.Hash.Blake3
import DeviceAuth.Json.Reader
import DeviceAuth.Json.Record
import DeviceAuth.Json.Writer
import DeviceAuth.Text.Base64
import DeviceAuth.Time.Instant

/-!
**Session tokens.** A token is three segments of Base64, separated by dots: a header that names its
kind, the claims, and a tag, which is a keyed hash over the two texts before it, dot included. The
key is derived from the secret of the service.

Reading checks in this order: the count of segments, the form of the tag, the tag, the kind, the
claims. Times are not looked at until `checkPeriod`.

The tag is that of a part of the token's own text, cut off at the length of its first two segments.
Main statement: that is never within a character, and what is cut off is the two segments with the
dot between them (`signed?_segments`), so every token can be examined (`isSome_examine?`).
-/

namespace DeviceAuth

/-- The secret from which the key of all tokens is derived. -/
inductive TokenSecret where
  /-- Chosen by the operator; tokens outlive a restart. -/
  | configured (material : Bytes)
  /-- Drawn at random; a restart ends all tokens. -/
  | ephemeral (material : Bytes)
  deriving DecidableEq

namespace TokenSecret

/-- The bytes of the secret. -/
def material : TokenSecret → Bytes
  | configured material | ephemeral material => material

/-- Whether the secret was drawn at random. -/
def isEphemeral : TokenSecret → Bool
  | configured _ => false
  | ephemeral _ => true

/-- A secret as diagnostics show it, without its bytes. -/
def diagnostic (secret : TokenSecret) : String :=
  "TokenSecret::" ++ (if secret.isEphemeral then "Ephemeral" else "Configured") ++ "(<redacted>)"

end TokenSecret

/-- What a token says. Times are seconds since the beginning of 1970. -/
structure TokenClaims where
  deviceId : String
  sessionId : String
  /-- The subject, which is the device again. -/
  subject : String
  issuedAt : Int64
  notBefore : Int64
  expiresAt : Int64
  deriving DecidableEq, Repr

namespace TokenClaims

/-- The claims of a token issued and expiring at these instants. -/
def make (deviceId sessionId : String) (issued expires : Instant) : TokenClaims :=
  { deviceId
    sessionId
    subject := deviceId
    issuedAt := Int64.ofInt issued.seconds
    notBefore := Int64.ofInt issued.seconds
    expiresAt := Int64.ofInt expires.seconds }

/-- The claims as a JSON value. -/
def toJson (claims : TokenClaims) : Json :=
  Json.ofMembers [
    ("device_id", Json.ofText claims.deviceId),
    ("session_id", Json.ofText claims.sessionId),
    ("sub", Json.ofText claims.subject),
    ("iat", Json.ofInt claims.issuedAt.toInt),
    ("nbf", Json.ofInt claims.notBefore.toInt),
    ("exp", Json.ofInt claims.expiresAt.toInt)]

/-- The claims of a JSON value. -/
def ofJson? (value : Json) : Option TokenClaims := do
  match ← value.fields? ["device_id", "session_id", "sub", "iat", "nbf", "exp"] with
  | [deviceId, sessionId, subject, issuedAt, notBefore, expiresAt] =>
    return {
      deviceId := ← Json.required? Json.text? deviceId
      sessionId := ← Json.required? Json.text? sessionId
      subject := ← Json.required? Json.text? subject
      issuedAt := ← Json.required? Json.signed64? issuedAt
      notBefore := ← Json.required? Json.signed64? notBefore
      expiresAt := ← Json.required? Json.signed64? expiresAt }
  | _ => none

/-- Refuses claims before their time and after it; both ends are inclusive, in whole seconds. -/
def checkPeriod (claims : TokenClaims) (now : Instant) : Except AuthError Unit :=
  if now.seconds < claims.notBefore.toInt then .error (.invalidToken "token not yet valid")
  else if claims.expiresAt.toInt < now.seconds then .error (.invalidToken "token expired")
  else .ok ()

end TokenClaims

/-- The kind of a token. -/
structure TokenKind where
  algorithm : String
  kind : String
  deriving DecidableEq, Repr

namespace TokenKind

/-- The kind of every token of this service. -/
def expected : TokenKind := ⟨"BLAKE3-MAC", "EGT"⟩

/-- A kind as a JSON value, which is the header of tokens. -/
def toJson (token : TokenKind) : Json :=
  Json.ofMembers [("alg", Json.ofText token.algorithm), ("typ", Json.ofText token.kind)]

/-- The kind of a JSON value. -/
def ofJson? (value : Json) : Option TokenKind := do
  match ← value.fields? ["alg", "typ"] with
  | [algorithm, kind] =>
    return ⟨← Json.required? Json.text? algorithm, ← Json.required? Json.text? kind⟩
  | _ => none

end TokenKind

/-- What the tags of tokens are made with. -/
structure TokenKey where
  /-- The key of the hash. -/
  bytes : Bytes
  /-- Whether the secret behind the key was drawn at random. -/
  isEphemeral : Bool

namespace TokenKey

/-- The key that a secret derives. -/
def ofSecret (secret : TokenSecret) : TokenKey :=
  ⟨Blake3.deriveKey "edgeguard session token mac v1" secret.material 32, secret.isEphemeral⟩

/-- The tag of the first two segments. -/
def tag (key : TokenKey) (signed : String) : Bytes :=
  Blake3.keyedHash key.bytes (Bytes.ofText signed)

/-- The segment of a JSON value. -/
def segment (value : Json) : String :=
  Base64.urlSafe.encode value.render

/-- The token of claims. -/
def sign (key : TokenKey) (claims : TokenClaims) : String :=
  let signed := segment TokenKind.expected.toJson ++ "." ++ segment claims.toJson
  signed ++ "." ++ Base64.urlSafe.encode (key.tag signed)

/-- The parts of a text between its dots. -/
def splitAtDots : List Char → List (List Char)
  | [] => [[]]
  | char :: rest =>
    if char = '.' then [] :: splitAtDots rest
    else
      match splitAtDots rest with
      | [] => [[char]]
      | part :: parts => (char :: part) :: parts

/-- The three segments of a token. -/
def segments? (token : String) : Option (String × String × String) :=
  match splitAtDots token.toList with
  | [header, claims, tag] => some (String.ofList header, String.ofList claims, String.ofList tag)
  | _ => none

/-- Reads a segment that holds a JSON value. -/
def readSegment {α : Type} (read : Json → Option α) (segment : String) : Except AuthError α :=
  match Base64.urlSafe.decode segment with
  | .error fault => .error (.invalidToken ("bad base64: " ++ fault.message))
  | .ok bytes =>
    match (Json.parse? bytes).bind read with
    | some value => .ok value
    | none => .error (.invalidToken "bad json: unreadable")

/-- The text of the first bytes of a text; `none` if there are fewer, or if they end within a
character. -/
def leading? (length : Nat) (text : String) : Option String :=
  let bytes := Bytes.ofText text
  if length ≤ bytes.length then Bytes.toText? (bytes.take length) else none

/-- The part of a token that its tag is about, of which the first two segments are given. -/
def signed? (token header claims : String) : Option String :=
  leading? ((Bytes.ofText header).length + 1 + (Bytes.ofText claims).length) token

/-- The claims of a token with a valid tag and the expected kind; `none` if the token cannot be cut
where the part that its tag is about ends. -/
def examine? (key : TokenKey) (token : String) : Option (Except AuthError TokenClaims) :=
  match segments? token with
  | none => some (.error (.invalidToken "expected three segments"))
  | some (header, claims, tag) =>
    match Base64.urlSafe.decode tag with
    | .error _ => some (.error (.invalidToken "malformed tag"))
    | .ok bytes =>
      if bytes.length ≠ 32 then some (.error (.invalidToken "malformed tag"))
      else (signed? token header claims).map fun signed =>
        if bytes ≠ key.tag signed then .error (.invalidToken "signature mismatch")
        else do
          let kind ← readSegment TokenKind.ofJson? header
          if kind ≠ TokenKind.expected then
            .error (.invalidToken
              ("unsupported token type " ++ kind.algorithm ++ "/" ++ kind.kind))
          else readSegment TokenClaims.ofJson? claims

/-! ### Cutting a token -/

theorem splitAtDots_ne_nil (chars : List Char) : splitAtDots chars ≠ [] := by
  cases chars with
  | nil => exact List.cons_ne_nil _ _
  | cons char chars =>
    unfold splitAtDots
    split
    · exact List.cons_ne_nil _ _
    · split <;> exact List.cons_ne_nil _ _

/-- The parts of a text, with dots between them, are the text. -/
theorem intercalate_splitAtDots (chars : List Char) :
    ['.'].intercalate (splitAtDots chars) = chars := by
  induction chars with
  | nil => rfl
  | cons char chars ih =>
    obtain ⟨part, parts, shape⟩ := List.exists_cons_of_ne_nil (splitAtDots_ne_nil chars)
    unfold splitAtDots
    rw [shape] at ih ⊢
    split
    · next dot =>
      rw [dot, ← ih]
      simp [List.intercalate]
    · rw [← ih]
      cases parts <;> simp [List.intercalate]

theorem eq_of_segments? {token header claims tag : String}
    (parts : segments? token = some (header, claims, tag)) :
    token = header ++ "." ++ claims ++ "." ++ tag := by
  unfold segments? at parts
  split at parts
  · next first second third shape =>
    cases parts
    have whole := intercalate_splitAtDots token.toList
    rw [shape] at whole
    rw [← String.toList_inj, ← whole]
    simp [List.intercalate]
  · cases parts

/-- **The part of a token that its tag is about** is its first two segments. -/
theorem signed?_segments {token header claims tag : String}
    (parts : segments? token = some (header, claims, tag)) :
    signed? token header claims = some (header ++ "." ++ claims) := by
  have whole : Bytes.ofText token
      = Bytes.ofText (header ++ "." ++ claims) ++ Bytes.ofText ("." ++ tag) := by
    rw [eq_of_segments? parts, ← Bytes.ofText_append, String.append_assoc]
  have length : (Bytes.ofText (header ++ "." ++ claims)).length
      = (Bytes.ofText header).length + 1 + (Bytes.ofText claims).length := by
    simp only [Bytes.ofText_append, List.length_append]
    rfl
  have within : (Bytes.ofText (header ++ "." ++ claims)).length ≤ (Bytes.ofText token).length := by
    rw [whole, List.length_append]
    exact Nat.le_add_right _ _
  rw [signed?, leading?, ← length, if_pos within, whole, List.take_left, Bytes.toText?_ofText]

/-- Every token can be examined. -/
theorem isSome_examine? (key : TokenKey) (token : String) : (key.examine? token).isSome := by
  unfold examine?
  split
  · rfl
  · next parts =>
    split
    · rfl
    · split
      · rfl
      · rw [signed?_segments parts]
        rfl

/-- The claims of a token with a valid tag and the expected kind. -/
def verify (key : TokenKey) (token : String) : Except AuthError TokenClaims :=
  (key.examine? token).get (key.isSome_examine? token)

end TokenKey

end DeviceAuth
