import TokenGate.Fetch.Error
import TokenGate.Settings.Resolution

/-! # Fetchers of key documents -/

namespace TokenGate

/-- Where key documents come from, how long a fetch may take, and how large a document may be. -/
structure Fetcher where
  endpoint : Url
  timeout : Duration
  limit : UInt64 := 262144
  deriving DecidableEq, Repr

namespace Fetcher

def ofUrl (endpoint : Url) (timeout : Duration) : Except FetchError Fetcher :=
  if endpoint.isSecure then .ok { endpoint := endpoint, timeout := timeout }
  else
    .error (.invalidEndpoint endpoint.write
      "JWKS endpoint must use HTTPS (HTTP only allowed for loopback hosts)")

def ofSettings (s : Settings) : Except FetchError Fetcher :=
  match s.resolvedEndpoint with
  | .error e => .error (.invalidEndpoint (s.jwksUri.getD "") e.message)
  | .ok url => (ofUrl url s.fetchTimeout).map fun f => { f with limit := s.maxDocumentBytes }

end Fetcher

end TokenGate
