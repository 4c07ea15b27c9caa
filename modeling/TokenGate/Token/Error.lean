import TokenGate.Text.Quoted

/-! # Why a token is turned away -/

namespace TokenGate

/-- What is wrong with a token's structure, in the order of the checks. -/
inductive Malformation where
  | emptyToken
  | segments
  | header
  | payloadEncoding
  | payloadClaims
  | missingExpiry
  deriving DecidableEq, Repr

def Malformation.reason : Malformation → String
  | emptyToken => "empty token"
  | segments => "expected three non-empty segments"
  | header => "undecodable header"
  | payloadEncoding => "payload is not base64url"
  | payloadClaims => "payload is not a claims object"
  | missingExpiry => "missing exp claim"

/-- The reasons for turning a token away, in the order of the checks. -/
inductive TokenRejection where
  | malformedToken (what : Malformation)
  | unknownKid
  | keyNotFound (kid : String)
  | signatureInvalid
  | audienceMismatch
  | issuerMismatch
  | expired
  | notYetValid
  | issuedAtInvalid
  | missingSubject
  deriving DecidableEq, Repr

namespace TokenRejection

/-- The stable code of a rejection. -/
def code : TokenRejection → String
  | malformedToken _ => "malformed_token"
  | unknownKid => "unknown_kid"
  | keyNotFound _ => "key_not_found"
  | signatureInvalid => "invalid_signature"
  | audienceMismatch => "invalid_audience"
  | issuerMismatch => "invalid_issuer"
  | expired => "token_expired"
  | notYetValid => "token_not_yet_valid"
  | issuedAtInvalid => "invalid_issued_at"
  | missingSubject => "missing_subject"

def message : TokenRejection → String
  | malformedToken what => "malformed token: " ++ what.reason
  | unknownKid => "token header has no key id"
  | keyNotFound kid => "no signing key found for kid " ++ Text.quoted kid
  | signatureInvalid => "token signature is invalid"
  | audienceMismatch => "token audience does not match"
  | issuerMismatch => "token issuer does not match"
  | expired => "token has expired"
  | notYetValid => "token is not valid yet"
  | issuedAtInvalid => "token was issued in the future"
  | missingSubject => "token has no subject"

/-- The name of the reason alone. -/
def name : TokenRejection → String
  | malformedToken _ => "MalformedToken"
  | unknownKid => "UnknownKid"
  | keyNotFound _ => "KeyNotFound"
  | signatureInvalid => "SignatureInvalid"
  | audienceMismatch => "AudienceMismatch"
  | issuerMismatch => "IssuerMismatch"
  | expired => "Expired"
  | notYetValid => "NotYetValid"
  | issuedAtInvalid => "IssuedAtInvalid"
  | missingSubject => "MissingSubject"

/-- A rejection described with its parts. -/
def describe : TokenRejection → String
  | malformedToken what => "MalformedToken \x7b reason: " ++ Text.quoted what.reason ++ " \x7d"
  | keyNotFound kid => "KeyNotFound \x7b kid: " ++ Text.quoted kid ++ " \x7d"
  | other => other.name

end TokenRejection

end TokenGate
