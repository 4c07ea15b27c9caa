import TokenGate.Json.Fields
import TokenGate.Json.Printer
import TokenGate.Key.Policy
import TokenGate.Time.Duration

/-! # Settings of authentication

Everything needed to fetch keys and to validate tokens of one issuer. In a document every setting
may be missing, and durations are whole seconds. -/

namespace TokenGate

/-- The settings. The issuer is given, or follows from the name of a hosted tenant; the endpoint of
the keys is given, or follows from the issuer. -/
structure Settings where
  issuer : Option String := none
  tenant : Option String := none
  audience : String := ""
  jwksUri : Option String := none
  refreshInterval : Duration := .ofSeconds 900
  fetchTimeout : Duration := .ofSeconds 10
  clockSkew : Duration := .ofSeconds 60
  startupTimeout : Duration := .ofSeconds 10
  requireKeys : Bool := false
  emptyPolicy : EmptySetPolicy := .preserveExisting
  maxDocumentBytes : UInt64 := 262144
  deriving DecidableEq, Repr

namespace Settings

def fieldNames : List String :=
  ["issuer", "tenant", "audience", "jwks_uri", "refresh_interval", "fetch_timeout", "clock_skew",
    "startup_timeout", "require_keys_on_startup", "empty_key_set_policy", "max_document_bytes"]

def seconds? (j : Json) : Option Duration := j.natural?.map .ofSeconds

def ofJson? (j : Json) : Option Settings := do
  let fields ← j.fields? fieldNames
  let field (name : String) : Option Json := fields.get? fieldNames name
  let default : Settings := {}
  let issuer ← Json.optional? Json.text? (field "issuer")
  let tenant ← Json.optional? Json.text? (field "tenant")
  let audience ← Json.defaulted? Json.text? default.audience (field "audience")
  let jwksUri ← Json.optional? Json.text? (field "jwks_uri")
  let refreshInterval ←
    Json.defaulted? seconds? default.refreshInterval (field "refresh_interval")
  let fetchTimeout ← Json.defaulted? seconds? default.fetchTimeout (field "fetch_timeout")
  let clockSkew ← Json.defaulted? seconds? default.clockSkew (field "clock_skew")
  let startupTimeout ← Json.defaulted? seconds? default.startupTimeout (field "startup_timeout")
  let requireKeys ←
    Json.defaulted? Json.bool? default.requireKeys (field "require_keys_on_startup")
  let emptyPolicy ←
    Json.defaulted? (fun v => v.choice?.bind EmptySetPolicy.ofName?) default.emptyPolicy
      (field "empty_key_set_policy")
  let maxDocumentBytes ←
    Json.defaulted? Json.natural? default.maxDocumentBytes (field "max_document_bytes")
  return ⟨issuer, tenant, audience, jwksUri, refreshInterval, fetchTimeout, clockSkew,
    startupTimeout, requireKeys, emptyPolicy, maxDocumentBytes⟩

def textJson : Option String → Json
  | some s => .text s
  | none => .null

/-- A duration in whole seconds, as a value. -/
def secondsJson (d : Duration) : Json := .number (.natural d.roundedSeconds.toUInt64)

def toJson (s : Settings) : Json :=
  .record [("issuer", textJson s.issuer), ("tenant", textJson s.tenant),
    ("audience", .text s.audience), ("jwks_uri", textJson s.jwksUri),
    ("refresh_interval", secondsJson s.refreshInterval),
    ("fetch_timeout", secondsJson s.fetchTimeout), ("clock_skew", secondsJson s.clockSkew),
    ("startup_timeout", secondsJson s.startupTimeout),
    ("require_keys_on_startup", .bool s.requireKeys),
    ("empty_key_set_policy", .text s.emptyPolicy.name),
    ("max_document_bytes", .number (.natural s.maxDocumentBytes))]

def write (s : Settings) : String := s.toJson.write

end Settings

end TokenGate
