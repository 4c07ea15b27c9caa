import TokenGate.Launch.Basic

/-! # Flags and variables

Every decision of an operator has a flag on the command line and a variable in the environment.
What is given by either is kept apart from the defaults, so that a flag wins over its variable and
a decision made twice is noticed. -/

namespace TokenGate.Launch

/-- Why a launch does not happen. -/
inductive Refusal where
  | help
  | version
  | unknownArgument
  /-- A flag without a value has one. -/
  | unexpectedValue
  /-- A value is missing, or none of those possible. -/
  | invalidValue
  /-- A value cannot be read. -/
  | unreadableValue
  /-- A decision is made twice, or contradicts another. -/
  | conflict
  | missingArgument
  deriving DecidableEq, Repr

namespace Refusal

/-- Asking for help or for the version is no failure. -/
def exitCode : Refusal → Nat
  | help | version => 0
  | _ => 2

end Refusal

/-- What an operator has decided. -/
structure Given where
  host : Option IpAddress := none
  port : Option UInt16 := none
  environment : Option String := none
  issuer : Option String := none
  tenant : Option String := none
  audience : Option String := none
  jwksUri : Option String := none
  refreshInterval : Option UInt64 := none
  fetchTimeout : Option UInt64 := none
  clockSkew : Option UInt64 := none
  startupTimeout : Option UInt64 := none
  requireKeys : Option Bool := none
  shutdownTimeout : Option UInt64 := none
  logLevel : Option String := none
  jsonLogs : Option Bool := none
  deriving DecidableEq, Repr

/-- A launch with defaults for what has not been decided. -/
def Given.complete (g : Given) : Except Refusal Launch :=
  if g.issuer.isSome && g.tenant.isSome then .error .conflict
  else
    match g.audience with
    | none => .error .missingArgument
    | some audience =>
      let default : Launch := { audience := audience }
      .ok {
        host := g.host.getD default.host
        port := g.port.getD default.port
        environment := g.environment.getD default.environment
        issuer := g.issuer
        tenant := g.tenant
        audience := audience
        jwksUri := g.jwksUri
        refreshInterval := g.refreshInterval.getD default.refreshInterval
        fetchTimeout := g.fetchTimeout.getD default.fetchTimeout
        clockSkew := g.clockSkew.getD default.clockSkew
        startupTimeout := g.startupTimeout.getD default.startupTimeout
        requireKeys := g.requireKeys.getD default.requireKeys
        shutdownTimeout := g.shutdownTimeout.getD default.shutdownTimeout
        logLevel := g.logLevel.getD default.logLevel
        jsonLogs := g.jsonLogs.getD default.jsonLogs }

/-- A decision: its flag, its variable, and how its value is read and kept. -/
structure Flag where
  name : String
  environmentName : String
  isGiven : Given → Bool
  give : String → Given → Except Refusal Given

namespace Flag

/-- A decision with a value of some type. -/
def of (name environmentName : String) (read : String → Except Refusal α)
    (get : Given → Option α) (set : Given → Option α → Given) : Flag where
  name := name
  environmentName := environmentName
  isGiven g := (get g).isSome
  give s g := (read s).map fun value => set g (some value)

def text (s : String) : Except Refusal String := .ok s

def address (s : String) : Except Refusal IpAddress :=
  match IpAddress.ofText? s with
  | some a => .ok a
  | none => .error .unreadableValue

/-- A port; a sign is allowed. -/
def port (s : String) : Except Refusal UInt16 :=
  match Text.integer? s.toList with
  | some n => if 0 ≤ n ∧ n < UInt16.size then .ok n.toNat.toUInt16 else .error .unreadableValue
  | none => .error .unreadableValue

/-- A count of 64 bits; a plus sign is allowed. -/
def count (s : String) : Except Refusal UInt64 :=
  match Text.natural? s.toList with
  | some n => if n < UInt64.size then .ok n.toUInt64 else .error .unreadableValue
  | none => .error .unreadableValue

/-- One of two words. -/
def choice (s : String) : Except Refusal Bool :=
  if s == "true" then .ok true
  else if s == "false" then .ok false
  else .error .invalidValue

def all : List Flag := [
  .of "host" "APP_HOST" address Given.host fun g v => { g with host := v },
  .of "port" "APP_PORT" port Given.port fun g v => { g with port := v },
  .of "environment" "ENVIRONMENT" text Given.environment fun g v => { g with environment := v },
  .of "issuer" "IAM_ISSUER" text Given.issuer fun g v => { g with issuer := v },
  .of "tenant" "IAM_TENANT" text Given.tenant fun g v => { g with tenant := v },
  .of "audience" "IAM_AUDIENCE" text Given.audience fun g v => { g with audience := v },
  .of "jwks-uri" "IAM_JWKS_URI" text Given.jwksUri fun g v => { g with jwksUri := v },
  .of "refresh-interval-secs" "IAM_REFRESH_INTERVAL_SECS" count Given.refreshInterval
    fun g v => { g with refreshInterval := v },
  .of "fetch-timeout-secs" "IAM_FETCH_TIMEOUT_SECS" count Given.fetchTimeout
    fun g v => { g with fetchTimeout := v },
  .of "clock-skew-secs" "IAM_CLOCK_SKEW_SECS" count Given.clockSkew
    fun g v => { g with clockSkew := v },
  .of "startup-timeout-secs" "IAM_STARTUP_TIMEOUT_SECS" count Given.startupTimeout
    fun g v => { g with startupTimeout := v },
  .of "require-keys-on-startup" "IAM_REQUIRE_KEYS_ON_STARTUP" choice Given.requireKeys
    fun g v => { g with requireKeys := v },
  .of "shutdown-timeout-secs" "SHUTDOWN_TIMEOUT_SECS" count Given.shutdownTimeout
    fun g v => { g with shutdownTimeout := v },
  .of "log-level" "LOG_LEVEL" text Given.logLevel fun g v => { g with logLevel := v },
  .of "log-json" "LOG_JSON" choice Given.jsonLogs fun g v => { g with jsonLogs := v }]

def named? (name : String) : Option Flag := all.find? fun f => f.name == name

/-- A value is taken for a decision that has not been made. -/
def take (f : Flag) (value : String) (g : Given) : Except Refusal Given :=
  if f.isGiven g then .error .conflict else f.give value g

/-- The decisions not made yet are read from the environment. -/
def takeEnvironment (environment : String → Option String) (g : Given) : Except Refusal Given :=
  all.foldlM (fun g f =>
    if f.isGiven g then .ok g
    else
      match environment f.environmentName with
      | some value => f.give value g
      | none => .ok g) g

end Flag

end TokenGate.Launch
