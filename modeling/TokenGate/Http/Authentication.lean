import TokenGate.Http.Message
import TokenGate.Json.Printer
import TokenGate.Token.Bearer
import TokenGate.Token.Validation

/-! # Authentication of requests

A protected request carries a bearer token in its first `Authorization` header. A request without
one is asked for it, a header in another form is an invalid request, and a token that does not
validate is refused with the reason. -/

namespace TokenGate.Http

/-- Why a request is not let through. -/
inductive AuthRejection where
  | missingCredentials
  | invalidRequest
  | token (reason : TokenRejection)
  deriving DecidableEq, Repr

namespace AuthRejection

def code : AuthRejection → String
  | missingCredentials => "unauthorized"
  | invalidRequest => "invalid_request"
  | token reason => reason.code

def description : AuthRejection → String
  | missingCredentials => "Authorization header with a bearer token is required"
  | invalidRequest => "Authorization header must be \x27Bearer <token>\x27"
  | token reason => reason.message

def challenge : AuthRejection → String
  | missingCredentials => "Bearer"
  | invalidRequest => "Bearer error=\"invalid_request\""
  | token _ => "Bearer error=\"invalid_token\""

def toJson (r : AuthRejection) : Json :=
  .record [("error", .text r.code), ("error_description", .text r.description)]

def response (r : AuthRejection) : Response :=
  (Response.ofJsonText 401 r.toJson.write).withHeader "www-authenticate"
    (Text.encodeUtf8 r.challenge)

end AuthRejection

/-- The token of a request. -/
def credentials (r : Request) : Except AuthRejection String :=
  match r.header? "authorization" with
  | none => .error .missingCredentials
  | some value =>
    match value.text? with
    | none => .error .invalidRequest
    | some text =>
      match Bearer.token? (some text) with
      | .ok (some token) => .ok token
      | .ok none => .error .missingCredentials
      | .error _ => .error .invalidRequest

/-- The claims of a request. -/
def authenticate (validate : String → Except TokenRejection Claims) (r : Request) :
    Except AuthRejection Claims :=
  (credentials r).bind fun token => (validate token).mapError .token

end TokenGate.Http
