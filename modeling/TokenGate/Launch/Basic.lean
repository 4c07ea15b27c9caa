import TokenGate.Net.Address
import TokenGate.Settings.Basic
import TokenGate.Telemetry.Config

/-! # How the service is launched

All that the operator of a service decides: where it listens, whose tokens it accepts, how long
things may take, and what it logs. -/

namespace TokenGate

def serviceName : String := "keystone-server"

def serviceVersion : String := "0.4.0"

/-- The decisions of an operator. Only the audience has no default; durations are whole seconds. -/
structure Launch where
  host : IpAddress := .any
  port : UInt16 := 8080
  environment : String := "development"
  issuer : Option String := none
  tenant : Option String := none
  audience : String
  jwksUri : Option String := none
  refreshInterval : UInt64 := 900
  fetchTimeout : UInt64 := 10
  clockSkew : UInt64 := 60
  startupTimeout : UInt64 := 10
  requireKeys : Bool := false
  shutdownTimeout : UInt64 := 15
  logLevel : String := "info,keystone_auth=debug,keystone_server=debug,tower_http=info"
  jsonLogs : Bool := true
  deriving DecidableEq, Repr

namespace Launch

def address (l : Launch) : SocketAddress := ⟨l.host, l.port⟩

/-- The settings of authentication; those that an operator cannot choose have their defaults. -/
def settings (l : Launch) : Settings where
  issuer := l.issuer
  tenant := l.tenant
  audience := l.audience
  jwksUri := l.jwksUri
  refreshInterval := .ofSeconds l.refreshInterval
  fetchTimeout := .ofSeconds l.fetchTimeout
  clockSkew := .ofSeconds l.clockSkew
  startupTimeout := .ofSeconds l.startupTimeout
  requireKeys := l.requireKeys

def telemetry (l : Launch) : Telemetry.Config where
  serviceName := serviceName
  serviceVersion := serviceVersion
  environment := l.environment
  logLevel := l.logLevel
  jsonLogs := l.jsonLogs

end Launch

end TokenGate
