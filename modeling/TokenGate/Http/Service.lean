import TokenGate.Http.Authentication
import TokenGate.Http.Layers
import TokenGate.Key.Cache
import TokenGate.Token.Session

/-! # The service

Three paths: whether the service is alive, whether it has keys, and who the caller is. Only the last
asks for credentials, and it does so before it looks at the method. -/

namespace TokenGate.Http

def alive : Handler := fun _ =>
  .ok { response := .ofJsonText 200 (Json.record [("status", .text "ok")]).write }

def count (n : Nat) : Json := .number (.natural n.toUInt64)

/-- The service is ready once it has a fetched key set. -/
def readiness (set : KeySet) : Response :=
  if set.fetched then
    .ofJsonText 200 (Json.record [("status", .text "ready"),
      ("key_set_generation", count set.generation), ("key_count", count set.size)]).write
  else .ofJsonText 503 (Json.record [("status", .text "waiting_for_keys")]).write

def ready (set : KeySet) : Handler := fun _ => .ok { response := readiness set }

def caller (c : Claims) : Response :=
  .ofJsonText 200 (Json.record [("id", .text c.subject), ("issuer", .text c.issuer),
    ("audience", .list (c.audience.map .text))]).write

/-- A handler for callers who are known. -/
def protect (validate : String → Except TokenRejection Claims) (h : Claims → Handler) : Handler :=
  fun r =>
    match authenticate validate r with
    | .ok claims => (h claims r).map fun reply => { reply with endUser := some claims.subject }
    | .error reason => .ok { response := reason.response }

def routes (validate : String → Except TokenRejection Claims) (set : KeySet) :
    List (String × Handler) :=
  [("/healthz", alive.readOnly.withAllow), ("/readyz", (ready set).readOnly.withAllow),
    ("/v1/me", (protect validate fun claims =>
      Handler.readOnly fun _ => .ok { response := caller claims }).withAllow)]

/-- The service over a session's cache, clock and validator. -/
def service (check : SignatureCheck) (s : Session) : Handler :=
  .ofRoutes <| routes
    (fun token => (s.validator.validate check s.cache.current s.now token).1) s.cache.current

def answer (check : SignatureCheck) (s : Session) (generated : FieldValue) (r : Request) : Reply :=
  serve generated (service check s) r

end TokenGate.Http
