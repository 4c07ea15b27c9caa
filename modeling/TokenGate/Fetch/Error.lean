import TokenGate.Time.Duration

/-! # Why a key document could not be had -/

namespace TokenGate

/-- The causes, from the endpoint's address to the document's content. -/
inductive FetchError where
  | invalidEndpoint (uri reason : String)
  | timeout (after : Duration)
  /-- The connection failed or ended early. -/
  | transport
  | httpStatus (status : UInt16)
  | bodyTooLarge (limit : UInt64)
  | invalidDocument (reason : String)
  /-- Every entry was turned away. -/
  | noUsableKeys (candidates : UInt64)
  deriving DecidableEq, Repr

namespace FetchError

/-- The short name under which a failure is counted. -/
def kind : FetchError → String
  | invalidEndpoint .. => "invalid_endpoint"
  | timeout _ => "timeout"
  | transport => "transport"
  | httpStatus _ => "http_status"
  | bodyTooLarge _ => "body_too_large"
  | invalidDocument _ => "invalid_document"
  | noUsableKeys _ => "no_usable_keys"

def message : FetchError → String
  | invalidEndpoint uri reason => "invalid JWKS endpoint " ++ uri ++ ": " ++ reason
  | timeout after => "JWKS request timed out after " ++ after.describe
  | transport => "JWKS request failed"
  | httpStatus status => s!"JWKS endpoint returned HTTP {status.toNat}"
  | bodyTooLarge limit => s!"JWKS document exceeds {limit.toNat} bytes"
  | invalidDocument reason => "invalid JWKS document: " ++ reason
  | noUsableKeys candidates =>
    s!"JWKS document contains no usable signing keys ({candidates.toNat} entries inspected)"

end FetchError

end TokenGate
