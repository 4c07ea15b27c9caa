import TokenGate.Http.Service
import TokenGate.Server.Startup

/-! # Serving and shutting down

A server answers requests until it is told to stop or its HTTP side ends by itself. Told to stop, it
cancels the refresh loop, lets open connections end, and waits for the loop, each for at most the
shutdown timeout. The address of the listener is read only to be logged, so whether that can fail
depends on the log. -/

namespace TokenGate

/-- What tells a server to stop. -/
inductive ShutdownSignal where
  /-- An interrupt from the terminal. -/
  | interrupt
  /-- A request to terminate. -/
  | terminate
  /-- Whoever runs the server. -/
  | caller
  deriving DecidableEq, Repr

/-- What is logged about a signal. -/
def ShutdownSignal.records : ShutdownSignal → Log
  | interrupt => [⟨.info, "Ctrl+C received, initiating shutdown", []⟩]
  | terminate => [⟨.info, "SIGTERM received, initiating shutdown", []⟩]
  | caller => []

/-- Why serving fails. -/
inductive ServingError where
  /-- The address of the listener cannot be read. -/
  | localAddress
  | failed
  | panicked
  deriving DecidableEq, Repr

/-- How the HTTP side ends. -/
inductive HttpEnd where
  | finished
  | failed
  | panicked
  deriving DecidableEq, Repr

/-- What the end of the HTTP side means. -/
def HttpEnd.result : HttpEnd → Except ServingError Unit
  | finished => .ok ()
  | failed => .error .failed
  | panicked => .error .panicked

/-- How serving goes. Spans are nanoseconds. -/
structure Serving where
  /-- The levels at which the log takes up records. -/
  enabled : Level → Bool := fun _ => true
  /-- The address of the listener, if it can be read. -/
  localAddress : Option SocketAddress
  /-- How long it is before a signal comes or the HTTP side ends. -/
  span : Nat := 0
  /-- What tells the server to stop; nothing if the HTTP side ends by itself. -/
  signal : Option ShutdownSignal
  /-- How long open connections last behind the signal. -/
  drain : Nat := 0
  ending : HttpEnd := .finished

/-- The records that the log takes up. -/
def Serving.takenUp (how : Serving) (log : Log) : Log := log.filter fun r => how.enabled r.level

/-- How serving ends. -/
structure Served where
  result : Except ServingError Unit
  refresh : RefreshTask
  log : Log

namespace Server

/-- The validator, the cache and the clock with which a request is answered. -/
def session (s : Server) (now : UInt64) : Session where
  validator := s.validator
  cache := s.refresh.cache
  now := now

def answer (check : SignatureCheck) (now : UInt64) (generated : Http.FieldValue) (s : Server)
    (r : Http.Request) : Http.Reply :=
  Http.answer check (s.session now) generated r

/-- The server some time later. -/
def advance (nanos : Nat) (s : Server) : Server :=
  { s with refresh := s.refresh.advance nanos }

def listeningRecord (a : SocketAddress) : LogRecord :=
  ⟨.info, "Keystone server listening", [("addr", a.write)]⟩

def drainingRecord : LogRecord := ⟨.info, "Shutdown requested, draining connections", []⟩

def openRecord (timeout : Duration) : LogRecord :=
  ⟨.warn, "Connections still open after shutdown timeout", [("timeout", timeout.describe)]⟩

def stoppedRecord : LogRecord := ⟨.info, "Keystone server stopped", []⟩

/-- The HTTP side ends by itself. -/
def finish (s : Server) (ending : HttpEnd) : Served :=
  let (task, late) := s.refresh.stop s.shutdownTimeout
  ⟨ending.result, task, late⟩

/-- The server is told to stop. -/
def shutDown (s : Server) (drain : Nat) (ending : HttpEnd) : Served :=
  let timeout := s.shutdownTimeout
  let stillOpen := decide (timeout.toNanos < drain)
  let task := s.refresh.cancel.advance (min drain timeout.toNanos)
  let (task, late) := task.stop timeout
  ⟨if stillOpen then .ok () else ending.result, task,
    [drainingRecord] ++ (if stillOpen then [openRecord timeout] else []) ++ late
      ++ [stoppedRecord]⟩

/-- Serving until the end of the HTTP side. -/
def serveHttp (how : Serving) (s : Server) : Served :=
  let s := s.advance how.span
  match how.signal with
  | none => s.finish how.ending
  | some signal =>
    let served := s.shutDown how.drain how.ending
    { served with log := signal.records ++ served.log }

/-- Serving until the end. Where the log takes it up that the server listens, the address of the
listener is read first. -/
def serve (how : Serving) (s : Server) : Served :=
  if how.enabled .info && how.localAddress.isNone then ⟨.error .localAddress, s.refresh, []⟩
  else
    let served := s.serveHttp how
    let listening := how.localAddress.toList.map listeningRecord
    { served with log := how.takenUp (listening ++ served.log) }

end Server

/-- Why a run of the server fails. -/
inductive RunError where
  | startup (e : StartupError)
  | serving (e : ServingError)
  deriving DecidableEq, Repr

/-- A run of the server from its start to its end, and its log. -/
def Server.run (around : Surroundings) (how : Serving) (l : Launch) :
    Except RunError Unit × Log :=
  let startup := start around l
  match startup.result with
  | .error e => (.error (.startup e), how.takenUp startup.log)
  | .ok s =>
    let served := s.serve how
    (served.result.mapError .serving, how.takenUp startup.log ++ served.log)

end TokenGate
