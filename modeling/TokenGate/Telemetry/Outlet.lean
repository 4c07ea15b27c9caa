import TokenGate.Telemetry.Config
import TokenGate.Telemetry.Record

/-! # The outlet of records

A program has one outlet for its records. Who receives them is set at most once and then stays.
Setting it up succeeds the first time that the configuration is without fault. Who set it up holds a
guard, and giving it up is recorded, but does not free the outlet. -/

namespace TokenGate.Telemetry

/-- Who receives records: which of them, and how they are written. -/
structure Subscriber where
  filter : Filter
  jsonLogs : Bool
  stderrOutput : Bool
  deriving DecidableEq, Repr

/-- What is written for a record. -/
inductive Line where
  | object (j : Json)
  | text (s : String)
  deriving Repr

/-- The evidence of a setup. -/
structure Guard where
  config : Config
  deriving DecidableEq, Repr

namespace Guard

def serviceName (g : Guard) : String := g.config.serviceName

end Guard

namespace Subscriber

/-- The span around a record, if it is turned on. -/
def span? (s : Subscriber) (r : Record) : Option Span := r.span.filter s.filter.turnsOn

def passes (s : Subscriber) (r : Record) : Bool :=
  s.filter.passes (s.span? r) r.target r.level r.fieldNames

/-- What is written for a record that passes. -/
def line (s : Subscriber) (r : Record) : Line :=
  let shown := { r with span := s.span? r }
  if s.jsonLogs then .object shown.toJson else .text shown.write

end Subscriber

/-- An outlet: who receives the records, and what was written to the output and the error stream. -/
structure Outlet where
  subscriber : Option Subscriber := none
  stdout : List Line := []
  stderr : List Line := []
  deriving Repr

namespace Outlet

def target : String := "keystone_telemetry::init"

def openingRecord (c : Config) : Record where
  target := target
  level := .info
  message := "Keystone telemetry initialized"
  fields := [("service_name", .text c.serviceName), ("service_version", .text c.serviceVersion),
    ("environment", .text c.environment), ("json_logs", .bool c.jsonLogs)]

def closingRecord (c : Config) : Record where
  target := target
  level := .info
  message := "Shutting down keystone telemetry"
  fields := [("service_name", .text c.serviceName)]

def record (r : Record) (o : Outlet) : Outlet :=
  match o.subscriber with
  | none => o
  | some s =>
    if !s.passes r then o
    else if s.stderrOutput then { o with stderr := o.stderr ++ [s.line r] }
    else { o with stdout := o.stdout ++ [s.line r] }

/-- The subscriber that a configuration asks for. -/
def subscriberOf (c : Config) (f : Filter) : Subscriber := ⟨f, c.jsonLogs, c.stderrOutput⟩

/-- An attempt to set telemetry up. The filter is read once to find faults, and again to be used. -/
def setUp (read : FilterReader) (c : Config) (ambient : Option String) (o : Outlet) :
    Outlet × Except SetupError Guard :=
  match c.validate read ambient with
  | .error e => (o, .error e)
  | .ok () =>
    match c.filter read ambient with
    | .error e => (o, .error (.filter e))
    | .ok f =>
      match o.subscriber with
      | some _ => (o, .error .subscribed)
      | none =>
        ({ o with subscriber := some (subscriberOf c f) }.record (openingRecord c), .ok ⟨c⟩)

/-- A guard is given up. -/
def giveUp (g : Guard) (o : Outlet) : Outlet := o.record (closingRecord g.config)

/-- What a program does with its outlet. -/
inductive Step where
  | setUp (c : Config) (ambient : Option String)
  | record (r : Record)
  | giveUp (g : Guard)
  deriving Repr

/-- A step, and the result of an attempt. -/
def step (read : FilterReader) (o : Outlet) : Step → Outlet × Option (Except SetupError Guard)
  | .setUp c ambient => let (o, result) := o.setUp read c ambient; (o, some result)
  | .record r => (o.record r, none)
  | .giveUp g => (o.giveUp g, none)

/-- Steps one after another, and the results of the attempts among them. -/
def run (read : FilterReader) (o : Outlet) :
    List Step → Outlet × List (Except SetupError Guard)
  | [] => (o, [])
  | s :: rest =>
    let (o', result) := o.step read s
    let (final, results) := run read o' rest
    (final, result.toList ++ results)

end Outlet

end TokenGate.Telemetry
