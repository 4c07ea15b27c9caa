import TokenGate.Fetch.Fetcher
import TokenGate.Launch.Basic
import TokenGate.Refresh.Timeline

/-! # Starting the server

The settings are checked, the refresh loop is started, and the server waits for the first key set
before it listens. Without one it refuses to start, or serves anyway, as the operator decided. When
starting fails behind the start of the loop, the loop is stopped. -/

namespace TokenGate

/-- Why the server does not start. -/
inductive StartupError where
  | settings (e : SettingsError)
  | fetcher (e : FetchError)
  | validator (e : SettingsError)
  /-- No key set came in time. -/
  | noKeys (timeout : Duration)
  | address (a : SocketAddress)
  deriving DecidableEq, Repr

def StartupError.message : StartupError → String
  | settings e => "invalid authentication configuration: " ++ e.message
  | fetcher e => "cannot build JWKS fetcher: " ++ e.message
  | validator e => "cannot build token validator: " ++ e.message
  | noKeys timeout => "no signing keys fetched within " ++ timeout.describe
  | address a => "cannot bind " ++ a.write

/-- What the server finds around it. -/
structure Surroundings where
  /-- A client for fetching can be built. -/
  hasClient : Bool := true
  /-- How the fetches of a fetcher turn out, by number. -/
  provider : Fetcher → Nat → Refresh.Course
  /-- An address is free to listen at. -/
  canListen : SocketAddress → Bool := fun _ => true

/-- A refresh loop at work: who refreshes, how its fetches turn out, and where it is. -/
structure RefreshTask where
  refresher : Refresher
  provider : Nat → Refresh.Course
  timeline : Refresh.Timeline := {}

namespace RefreshTask

def cache (task : RefreshTask) : KeyCache := task.timeline.loop.refresh.cache

def isCancelled (task : RefreshTask) : Bool := task.timeline.cancelled

/-- Time passes until the first install, for at most a span. -/
def waitInstalled (task : RefreshTask) (span : Duration) : RefreshTask :=
  { task with
    timeline := task.timeline.waitInstalled task.refresher task.provider span.toNanos }

def advance (task : RefreshTask) (nanos : Nat) : RefreshTask :=
  { task with
    timeline := task.timeline.advanceTo task.refresher task.provider (task.timeline.now + nanos) }

def cancel (task : RefreshTask) : RefreshTask :=
  { task with timeline := task.timeline.cancel }

def lateRecord (timeout : Duration) : LogRecord :=
  ⟨.warn, "Key refresh loop did not stop in time", [("timeout", timeout.describe)]⟩

/-- The loop is stopped and has a span of time to return. -/
def stop (task : RefreshTask) (timeout : Duration) : RefreshTask × Log :=
  let stopped := { task with
    timeline := task.timeline.stop task.refresher task.provider timeout.toNanos }
  (stopped, if stopped.timeline.loop.isRunning then [lateRecord timeout] else [])

end RefreshTask

/-- A server that listens, with its refresh loop at work. -/
structure Server where
  address : SocketAddress
  validator : Validator
  refresh : RefreshTask
  shutdownTimeout : Duration

/-- How starting ends: a server or an error, the refresh loop if one was started, and the log. -/
structure Startup where
  result : Except StartupError Server
  refresh : Option RefreshTask := none
  log : Log := []

namespace Server

def loadedRecord (keys : Nat) : LogRecord :=
  ⟨.info, "Signing keys loaded", [("key_count", toString keys)]⟩

/-- The wait for keys was in vain, and they are required. -/
def refusingRecord (timeout : Duration) : LogRecord :=
  ⟨.error, "No signing keys fetched, refusing to start", [("timeout", timeout.describe)]⟩

/-- The wait for keys was in vain, and they are not required. -/
def servingAnywayRecord (timeout : Duration) : LogRecord :=
  ⟨.warn, "No signing keys fetched yet, serving anyway; tokens are rejected until the first "
    ++ "refresh succeeds", [("timeout", timeout.describe)]⟩

/-- The wait for the first key set, and whether starting goes on. -/
def awaitKeys (s : Settings) (task : RefreshTask) :
    RefreshTask × Except StartupError Unit × Log :=
  let task := task.waitInstalled s.startupTimeout
  if task.cache.isInitialized then (task, .ok (), [loadedRecord task.cache.current.size])
  else if s.requireKeys then
    (task, .error (.noKeys s.startupTimeout), [refusingRecord s.startupTimeout])
  else (task, .ok (), [servingAnywayRecord s.startupTimeout])

/-- Starting fails while the loop is at work. -/
def abort (timeout : Duration) (e : StartupError) (task : RefreshTask) (log : Log) : Startup :=
  let (task, late) := task.stop timeout
  ⟨.error e, some task, log ++ late⟩

/-- Starting behind the start of the loop. -/
def startWith (around : Surroundings) (l : Launch) (v : Validator) (task : RefreshTask) :
    Startup :=
  let timeout := Duration.ofSeconds l.shutdownTimeout
  match awaitKeys l.settings task with
  | (task, .error e, log) => abort timeout e task log
  | (task, .ok (), log) =>
    if around.canListen l.address then ⟨.ok ⟨l.address, v, task, timeout⟩, some task, log⟩
    else abort timeout (.address l.address) task log

/-- The fetcher of the settings, given that a client can be built. -/
def fetcher (around : Surroundings) (s : Settings) : Except FetchError Fetcher :=
  (Fetcher.ofSettings s).bind fun f => if around.hasClient then .ok f else .error .transport

/-- Starting the server: whatever is refused first ends it. -/
def start (around : Surroundings) (l : Launch) : Startup :=
  let s := l.settings
  match s.validate with
  | .error e => { result := .error (.settings e) }
  | .ok () =>
    match fetcher around s with
    | .error e => { result := .error (.fetcher e) }
    | .ok f =>
      match s.validator with
      | .error e => { result := .error (.validator e) }
      | .ok v =>
        startWith around l v ⟨.ofSettings f.endpoint.write s, around.provider f, {}⟩

end Server

end TokenGate
