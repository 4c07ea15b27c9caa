import TokenGate.Proofs.Token.Reading

/-! # The checks of a token and their order

Sixteen checks are made of a token in a fixed order. Whether a text passes one of them is said for
each alone, so a text may fail many. The verdict answers the first failure. -/

namespace TokenGate

/-- The checks of a token. -/
inductive TokenCheck where
  | present
  | segments
  | header
  | payloadEncoding
  | payloadClaims
  | expiryPresent
  | kid
  | key
  | algorithm
  | signature
  | audience
  | issuer
  | expiry
  | notBefore
  | issuedAt
  | subject
  deriving DecidableEq, Repr

namespace TokenCheck

def all : List TokenCheck :=
  [present, segments, header, payloadEncoding, payloadClaims, expiryPresent, kid, key, algorithm,
    signature, audience, issuer, expiry, notBefore, issuedAt, subject]

/-- The place of a check in the order. -/
def rank (c : TokenCheck) : Nat := all.idxOf c

end TokenCheck

section

variable (check : SignatureCheck) (v : Validator) (set : KeySet) (now : UInt64) (text : String)

/-- A text passes a check, whatever other checks make of it. -/
def TokenCheck.Passes : TokenCheck → Prop
  | present => text ≠ ""
  | segments => ∃ header payload signature, Segments text header payload signature
  | header => ∃ h, SaysHeader text h
  | payloadEncoding => ∃ header payload signature, Segments text header payload signature ∧
      ∃ octets, Base64.urlSafe.decodeText payload = .ok octets
  | payloadClaims => ∃ p, SaysPayload text p
  | expiryPresent => ∃ p, SaysPayload text p ∧ p.exp ≠ none
  | kid => ∃ h, SaysHeader text h ∧ ∃ kid, h.kid = some kid ∧ kid ≠ ""
  | key => ∃ h, SaysHeader text h ∧ ∃ key ∈ set.keys, h.kid = some key.kid
  | algorithm => ∃ h, SaysHeader text h ∧
      ∃ key ∈ set.keys, h.kid = some key.kid ∧ h.algorithm = key.algorithm
  | signature => ∃ h, SaysHeader text h ∧
      ∃ key ∈ set.keys, h.kid = some key.kid ∧ SignedUnder check text key
  | audience => ∃ p, SaysPayload text p ∧ v.Addressed p
  | issuer => ∃ p, SaysPayload text p ∧ p.iss = some v.issuer
  | expiry => ∃ p, SaysPayload text p ∧ p.LiveAt now
  | notBefore => ∃ p, SaysPayload text p ∧ v.Allows now p.nbf
  | issuedAt => ∃ p, SaysPayload text p ∧ v.Allows now p.iat
  | subject => ∃ p, SaysPayload text p ∧ p.HasSubject

/-- Every check before this one passes. -/
def TokenCheck.Reached (c : TokenCheck) : Prop :=
  ∀ d : TokenCheck, d.rank < c.rank → d.Passes check v set now text

/-- A check fails, and every check before it passes. -/
structure TokenCheck.FirstFailure (c : TokenCheck) : Prop where
  fails : ¬ c.Passes check v set now text
  reached : c.Reached check v set now text

end

/-- How the failure of a check is answered. Only an answer about a key carries a part of the
token. -/
inductive TokenCheck.Answer (text : String) : TokenCheck → TokenRejection → Prop
  | present : Answer text .present (.malformedToken .emptyToken)
  | segments : Answer text .segments (.malformedToken .segments)
  | header : Answer text .header (.malformedToken .header)
  | payloadEncoding : Answer text .payloadEncoding (.malformedToken .payloadEncoding)
  | payloadClaims : Answer text .payloadClaims (.malformedToken .payloadClaims)
  | expiryPresent : Answer text .expiryPresent (.malformedToken .missingExpiry)
  | kid : Answer text .kid .unknownKid
  | key {h : TokenHeader} {kid : String} (spelt : SaysHeader text h) (named : h.kid = some kid) :
      Answer text .key (.keyNotFound kid)
  | algorithm : Answer text .algorithm .signatureInvalid
  | signature : Answer text .signature .signatureInvalid
  | audience : Answer text .audience .audienceMismatch
  | issuer : Answer text .issuer .issuerMismatch
  | expiry : Answer text .expiry .expired
  | notBefore : Answer text .notBefore .notYetValid
  | issuedAt : Answer text .issuedAt .issuedAtInvalid
  | subject : Answer text .subject .missingSubject

end TokenGate
