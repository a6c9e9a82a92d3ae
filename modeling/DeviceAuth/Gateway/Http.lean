import DeviceAuth.Auth.Message
import DeviceAuth.Auth.Error
import DeviceAuth.Json.Record

/-!
**Requests and answers of the gateway,** and what they say of errors. Whatever goes wrong, the
client learns a status and one of two texts; which check failed is not among them. Whoever speaks
with clients hands a request over as one document and gets its answer as another.
-/

namespace DeviceAuth.Gateway

/-- The headers of a request, in order; values are bytes. -/
abbrev Headers := List (String × Bytes)

/-- An HTTP request. -/
structure Request where
  method : String
  /-- The path, and the query after a question mark. -/
  target : String
  headers : Headers
  body : Bytes

/-- An HTTP answer. -/
structure Response where
  status : Nat
  /-- The document in the body, if the body is not empty. -/
  body : Option Json
  /-- The methods that the path admits, where another one was used. -/
  allow : Option String := none

/-- An answer that holds a document. -/
def Response.ofJson (status : Nat) (body : Json) : Response :=
  { status, body := some body }

/-- An answer with an empty body. -/
def Response.empty (status : Nat) : Response :=
  { status, body := none }

/-- A letter of a header's name in lower case. -/
def lowerName (name : String) : String :=
  name.map Char.toLower

/-- The value of the first header with this name, which is given in lower case. -/
def header? (headers : Headers) (name : String) : Option Bytes :=
  (headers.find? fun header => lowerName header.1 == name).map Prod.snd

/-- The text of a header's value: printable ASCII and tabs only. -/
def headerText? (value : Bytes) : Option String :=
  if value.all fun byte => byte == 9 || (32 ≤ byte && byte < 127) then
    some (String.ofList (value.map fun byte => Char.ofNat byte.toNat))
  else none

/-- The text after a given beginning. -/
def afterPrefix? : List Char → List Char → Option (List Char)
  | [], text => some text
  | _ :: _, [] => none
  | first :: rest, char :: text => if first = char then afterPrefix? rest text else none

/-- The token in the first `Authorization` header, which must be of the bearer scheme. -/
def bearerToken (headers : Headers) : Except AuthError String :=
  match header? headers "authorization" with
  | none => .error (.invalidToken "missing Authorization header")
  | some value =>
    match headerText? value with
    | none => .error (.invalidToken "Authorization header is not ASCII")
    | some text =>
      match (afterPrefix? "Bearer ".toList text.toList).map Text.trim with
      | none | some [] => .error (.invalidToken "expected Bearer scheme")
      | some token => .ok (String.ofList token)

/-- The status of the answer to a failed request. -/
def statusOf : AuthError → Nat
  | .lockedOut _ _ => 429
  | .licenseDenied _ => 403
  | error => if error.isServerFault then 500 else 401

/-- The answer to a failed request. -/
def refusal (error : AuthError) : Response :=
  .ofJson (statusOf error) (SessionNotice.failure error.publicMessage).toJson

/-! ### As documents -/

/-- A header of a document: its name and its value. -/
def headerOfJson? : Json → Option (String × Bytes)
  | .array [name, value] => return (← name.text?, Bytes.ofText (← value.text?))
  | _ => none

/-- The headers of a document. -/
def headersOfJson? : Json → Option Headers
  | .array headers => headers.mapM headerOfJson?
  | _ => none

/-- The request of a document; headers and the body may be missing. -/
def Request.ofJson? (value : Json) : Option Request := do
  match ← value.fields? ["method", "uri", "headers", "body"] with
  | [method, target, headers, body] =>
    let headers ← Json.defaulted? none (Json.nullable? headersOfJson?) headers
    let body ← Json.defaulted? none (Json.nullable? Json.text?) body
    return {
      method := ← Json.required? Json.text? method
      target := ← Json.required? Json.text? target
      headers := headers.getD []
      body := Bytes.ofText (body.getD "") }
  | _ => none

/-- An answer as a document, in which an empty body is an empty text. -/
def Response.toJson (response : Response) : Json :=
  let allow := response.allow.toList.map fun methods => ("allow", Json.ofText methods)
  let body := response.body.getD (Json.ofText "")
  Json.ofMembers ([("status", Json.ofNat response.status), ("body", body)] ++ allow)

end DeviceAuth.Gateway
