import TokenGate.Key.Set
import TokenGate.Text.Blank
import TokenGate.Token.Claims
import TokenGate.Token.Error
import TokenGate.Token.Header

/-! # Token validation

A token is checked against the current key set in a fixed order: structure, key id, key,
algorithm, signature, audience, issuer, expiry, not-before, issued-at, subject. The first check that
fails is the reason for turning the token away. How a signature is verified is a parameter. -/

namespace TokenGate

/-- Decides a signature under key material and an algorithm, over a message. -/
abbrev SignatureCheck :=
  (material : Material) → (algorithm : Algorithm) → (message signature : List UInt8) → Bool

/-- What a validator expects. -/
structure Validator where
  issuer : String
  audience : String
  skew : Duration
  deriving DecidableEq, Repr

/-- The allowance for clocks that differ, unless another is set. -/
def Validator.defaultSkew : Duration := .ofSeconds 60

/-- A token with its header and payload read. -/
structure ReadToken where
  header : TokenHeader
  payload : Payload
  /-- The header and payload segments with the point between them. -/
  signed : String
  signature : String
  deriving Repr

namespace ReadToken

/-- The header and the payload that two segments spell; the payload must have an expiry. -/
def ofSegments (header payload signature : String) : Except TokenRejection ReadToken :=
  match (Base64.urlSafe.decodeText header).toOption.bind TokenHeader.ofOctets? with
  | none => .error (.malformedToken .header)
  | some h =>
    match Base64.urlSafe.decodeText payload with
    | .error _ => .error (.malformedToken .payloadEncoding)
    | .ok octets =>
      match Payload.ofOctets? octets with
      | none => .error (.malformedToken .payloadClaims)
      | some p =>
        if p.exp.isNone then .error (.malformedToken .missingExpiry)
        else .ok ⟨h, p, header ++ "." ++ payload, signature⟩

/-- The checks of structure on a trimmed token. -/
def ofText (token : String) : Except TokenRejection ReadToken :=
  if token == "" then .error (.malformedToken .emptyToken)
  else
    match Text.splitAt '.' token with
    | [header, payload, signature] =>
      if header == "" || payload == "" || signature == "" then
        .error (.malformedToken .segments)
      else ofSegments header payload signature
    | _ => .error (.malformedToken .segments)

/-- The signature segment is base64 and verifies over the other two. -/
def signatureHolds (check : SignatureCheck) (t : ReadToken) (key : SigningKey) : Bool :=
  match Base64.urlSafe.decodeText t.signature with
  | .ok signature => check key.material key.algorithm (Text.encodeUtf8 t.signed) signature
  | .error _ => false

end ReadToken

namespace Validator

/-- The audience and the issuer are the expected ones. -/
def checkParties (v : Validator) (p : Payload) : Except TokenRejection Unit :=
  if !(p.aud.any fun aud => aud.contains v.audience) then .error .audienceMismatch
  else if p.iss != some v.issuer then .error .issuerMismatch
  else .ok ()

/-- The moment lies in the token's lifetime. Expiry is strict; the other bounds allow for skew, of
which only whole seconds count. -/
def checkTimes (v : Validator) (now : UInt64) (p : Payload) : Except TokenRejection Unit :=
  let latest := laterBy now v.skew.seconds
  match p.exp with
  | none => .error (.malformedToken .missingExpiry)
  | some expiry =>
    if expiry ≤ now then .error .expired
    else if p.nbf.any fun start => latest < start then .error .notYetValid
    else if p.iat.any fun issued => latest < issued then .error .issuedAtInvalid
    else .ok ()

/-- The checks of the claims that an accepted token hands on. -/
def checkClaims (v : Validator) (now : UInt64) (p : Payload) : Except TokenRejection Unit := do
  v.checkParties p
  v.checkTimes now p

def claims (kid : String) (p : Payload) : Except TokenRejection Claims :=
  match p.sub.filter fun s => !Text.blank s with
  | none => .error .missingSubject
  | some subject =>
    .ok ⟨subject, p.iss.getD "", (p.aud.map Audience.names).getD [], p.exp.getD 0, p.nbf, p.iat,
      p.jti, kid, p.extra⟩

def algorithmRecord (kid : String) (header key : Algorithm) : LogRecord :=
  ⟨.debug, "Token algorithm does not match key",
    [("kid", kid), ("header_alg", header.name), ("key_alg", key.name)]⟩

def signatureRecord (kid : String) : LogRecord :=
  ⟨.debug, "Signature verification failed", [("kid", kid)]⟩

/-- The checks that a token's key makes possible, in order. -/
def judgeUnder (check : SignatureCheck) (v : Validator) (now : UInt64) (t : ReadToken)
    (kid : String) (key : SigningKey) : Except TokenRejection Claims × Log :=
  if t.header.algorithm != key.algorithm then
    (.error .signatureInvalid, [algorithmRecord kid t.header.algorithm key.algorithm])
  else if !t.signatureHolds check key then (.error .signatureInvalid, [signatureRecord kid])
  else
    (do
      v.checkClaims now t.payload
      claims kid t.payload, [])

/-- The checks on a token that could be read, in order. -/
def judgeRead (check : SignatureCheck) (v : Validator) (set : KeySet) (now : UInt64)
    (t : ReadToken) : Except TokenRejection Claims × Log :=
  match t.header.kid.filter fun kid => kid != "" with
  | none => (.error .unknownKid, [])
  | some kid =>
    match set.get? kid with
    | none => (.error (.keyNotFound kid), [])
    | some key => v.judgeUnder check now t kid key

/-- The checks on a trimmed token, in order. -/
def judge (check : SignatureCheck) (v : Validator) (set : KeySet) (now : UInt64)
    (token : String) : Except TokenRejection Claims × Log :=
  match ReadToken.ofText token with
  | .error reason => (.error reason, [])
  | .ok t => v.judgeRead check set now t

def verdictRecord : Except TokenRejection Claims → LogRecord
  | .ok c => ⟨.debug, "Token validated", [("sub", c.subject), ("kid", c.keyId)]⟩
  | .error reason =>
    ⟨.debug, "Token rejected", [("code", reason.code), ("error", reason.message)]⟩

/-- The verdict on a token, blanks around it ignored, with what is logged. -/
def validate (check : SignatureCheck) (v : Validator) (set : KeySet) (now : UInt64)
    (token : String) : Except TokenRejection Claims × Log :=
  let (verdict, log) := v.judge check set now (Text.trim token)
  (verdict, log ++ [verdictRecord verdict])

/-- The label under which a verdict is counted. -/
def resultLabel : Except TokenRejection Claims → String
  | .ok _ => "valid"
  | .error reason => reason.code

/-- The change of the validation counter that a verdict makes. -/
def verdictMetric (verdict : Except TokenRejection Claims) : MetricEvent :=
  .count ⟨"keystone_token_validations_total", [("result", resultLabel verdict)]⟩

/-- A validator described beside the generation of the set it reads. -/
def describe (v : Validator) (generation : Nat) : String :=
  "TokenValidator \x7b expected_issuer: " ++ Text.quoted v.issuer ++ ", expected_audience: "
    ++ Text.quoted v.audience ++ ", clock_skew: " ++ v.skew.describe
    ++ ", key_set_generation: " ++ toString generation ++ ", .. \x7d"

end Validator

end TokenGate
