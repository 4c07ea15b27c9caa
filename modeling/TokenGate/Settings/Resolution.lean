import TokenGate.Settings.Basic
import TokenGate.Text.Quoted
import TokenGate.Token.Validation
import TokenGate.Url.Parser

/-! # Resolving settings

The issuer and the endpoint that settings mean, and whether settings can be used. A blank text
counts as absent. -/

namespace TokenGate

/-- Why settings cannot be used. -/
inductive SettingsError where
  | missing (name : String)
  | invalid (field reason : String)
  deriving DecidableEq, Repr

def SettingsError.message : SettingsError → String
  | missing name => "missing configuration value: " ++ name
  | invalid field reason => "invalid configuration value for " ++ field ++ ": " ++ reason

namespace Settings

/-- A text that is there and not blank. -/
def present (s : Option String) : Option String := s.filter fun t => !Text.blank t

def isTenantChar (c : Char) : Bool := c.isAlphanum || c == '-' || c == '.'

def hostedIssuer (tenant : String) : String := "https://" ++ tenant ++ ".auth0.com/"

/-- The issuer that the tenant's name stands for. -/
def tenantIssuer (s : Settings) : Except SettingsError String :=
  match (s.tenant.map Text.trim).filter fun t => t != "" with
  | none => .error (.missing "issuer or tenant")
  | some tenant =>
    if tenant.toList.all isTenantChar then .ok (hostedIssuer tenant)
    else .error (.invalid "tenant" (Text.quoted tenant ++ " is not a valid tenant name"))

/-- The issuer that tokens must name. -/
def resolvedIssuer (s : Settings) : Except SettingsError String :=
  match present s.issuer with
  | some issuer => .ok issuer
  | none => s.tenantIssuer

/-- The place of an issuer's keys. -/
def wellKnown (issuer : String) : String :=
  String.ofList (Text.dropTrailing (· == '/') issuer.toList) ++ "/.well-known/jwks.json"

/-- The endpoint's text, given or derived. -/
def endpointText (s : Settings) : Except SettingsError String :=
  match present s.jwksUri with
  | some uri => .ok uri
  | none => s.resolvedIssuer.map wellKnown

/-- The URL of a secure endpoint. -/
def endpointUrl (text : String) : Except SettingsError Url :=
  match Url.ofText text with
  | .error e => .error (.invalid "jwks_uri" e.message)
  | .ok url =>
    if url.isSecure then .ok url
    else .error (.invalid "jwks_uri" "must use HTTPS (HTTP only allowed for loopback hosts)")

/-- The endpoint to fetch keys from. -/
def resolvedEndpoint (s : Settings) : Except SettingsError Url :=
  s.endpointText.bind endpointUrl

/-- The settings can be used; the first fault counts. -/
def validate (s : Settings) : Except SettingsError Unit :=
  if Text.blank s.audience then .error (.missing "audience")
  else
    match s.resolvedEndpoint with
    | .error e => .error e
    | .ok _ =>
      if s.refreshInterval.isZero then .error (.invalid "refresh_interval" "must be non-zero")
      else if s.fetchTimeout.isZero then .error (.invalid "fetch_timeout" "must be non-zero")
      else if s.maxDocumentBytes == 0 then .error (.invalid "max_document_bytes" "must be non-zero")
      else .ok ()

/-- The validator of settings that can be used. -/
def validator (s : Settings) : Except SettingsError Validator :=
  s.validate.bind fun _ => s.resolvedIssuer.map fun issuer => ⟨issuer, s.audience, s.clockSkew⟩

end Settings

end TokenGate
