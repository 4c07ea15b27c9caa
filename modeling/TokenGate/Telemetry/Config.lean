import TokenGate.Telemetry.Filter

/-! # The configuration of telemetry

How a service names itself in its log, which records it writes, and how. A filter from the
environment goes before the configured one, unless it is no filter. How a filter is read is a
parameter. -/

namespace TokenGate.Telemetry

/-- Reads the text of a filter. -/
abbrev FilterReader := (text : String) → Except DirectiveError Filter

/-- The configuration. -/
structure Config where
  serviceName : String := "keystone"
  serviceVersion : String := "0.4.0"
  environment : String := "development"
  /-- The text of the filter. -/
  logLevel : String := "info,keystone_auth=debug,keystone_server=debug"
  /-- One JSON object a line, or lines for people. -/
  jsonLogs : Bool := true
  /-- To the error stream, or to the output. -/
  stderrOutput : Bool := false
  deriving DecidableEq, Repr

/-- Why telemetry cannot be set up. -/
inductive SetupError where
  | blankServiceName
  | filter (e : DirectiveError)
  /-- Records already go somewhere. -/
  | subscribed
  deriving DecidableEq, Repr

namespace SetupError

def isConfiguration : SetupError → Bool
  | blankServiceName => true
  | filter e => !e.isFatal
  | subscribed => false

/-- The reader of filters gave up, and the attempt with it. -/
def isFatal : SetupError → Bool
  | filter e => e.isFatal
  | blankServiceName | subscribed => false

def message : SetupError → String
  | blankServiceName => "Invalid telemetry configuration: service name must not be empty"
  | filter e => "Invalid telemetry configuration: Invalid log level: " ++ e.message
  | subscribed =>
    "Tracing subscriber error: a global default trace dispatcher has already been set"

end SetupError

namespace Config

/-- The filter in force: the environment's if it is one, else the configured one. A reader that
gives up over the environment's is not asked about the other. -/
def filter (read : FilterReader) (c : Config) (ambient : Option String) :
    Except DirectiveError Filter :=
  match ambient.map read with
  | some (.ok f) => .ok f
  | some (.error e) => if e.isFatal then .error e else read c.logLevel
  | none => read c.logLevel

/-- A configuration without fault has a name and a filter. -/
def validate (read : FilterReader) (c : Config) (ambient : Option String) :
    Except SetupError Unit :=
  if Text.blank c.serviceName then .error .blankServiceName
  else ((c.filter read ambient).mapError .filter).map fun _ => ()

end Config

end TokenGate.Telemetry
