import TokenGate.Key.Cache
import TokenGate.Token.Validation

/-! # Validation sessions

One cache, one clock that moves only when told to, and one validator, used by a sequence of
commands. Snapshots of the cache can be held under names and installed again. -/

namespace TokenGate

/-- A session. -/
structure Session where
  validator : Validator
  cache : KeyCache := .new
  now : UInt64
  held : List (String × KeySet) := []
  metrics : Metrics := []
  deriving Repr

namespace Session

/-- What a session is told to do. -/
inductive Command where
  /-- Install the set of a key document that is read at a time. -/
  | install (document : List UInt8) (time : SystemTime := 0)
  /-- Install a given set. -/
  | installSet (set : KeySet)
  /-- Keep the current snapshot under a name. -/
  | hold (slot : String)
  /-- Show a snapshot. -/
  | held (slot : String)
  /-- Install a snapshot again; the uninitialized set if there is none. -/
  | reinstall (slot : String)
  | validate (token : String)
  | setClock (now : UInt64)
  /-- Move the clock on; it wraps. -/
  | advance (seconds : UInt64)
  | state
  /-- Wait for the first install, while nothing else happens. -/
  | wait
  | describe
  deriving Repr

/-- What a session answers. -/
inductive Answer where
  | installed (generation : Nat)
  | refused (reason : FetchError)
  | held (slot : String)
  | snapshot (set : Option KeySet)
  | verdict (v : Except TokenRejection Claims)
  | clock (now : UInt64)
  | state (cache : KeyCache) (now : UInt64)
  | initialized (known : Bool)
  | description (text : String)
  deriving Repr

def withSet (s : Session) (set : KeySet) : Session × Answer × Log :=
  let cache := s.cache.install set
  ({ s with cache := cache }, .installed cache.generation, [cache.installRecord])

def held? (s : Session) (slot : String) : Option KeySet := Json.lookup? s.held slot

/-- One command carried out. -/
def step (check : SignatureCheck) (s : Session) : Command → Session × Answer × Log
  | .install document time =>
    match KeySet.ofDocument document time with
    | (.error reason, log) => (s, .refused reason, log)
    | (.ok set, log) =>
      let (s', answer, log') := s.withSet set
      (s', answer, log ++ log')
  | .installSet set => s.withSet set
  | .hold slot =>
    ({ s with held := Json.put s.held slot s.cache.current }, .held slot, [])
  | .held slot => (s, .snapshot (s.held? slot), [])
  | .reinstall slot => s.withSet ((s.held? slot).getD .uninitialized)
  | .validate token =>
    let (verdict, log) := s.validator.validate check s.cache.current s.now token
    ({ s with metrics := s.metrics.apply (Validator.verdictMetric verdict) }, .verdict verdict, log)
  | .setClock now => ({ s with now := now }, .clock now, [])
  | .advance seconds => ({ s with now := s.now + seconds }, .clock (s.now + seconds), [])
  | .state => (s, .state s.cache s.now, [])
  | .wait => (s, .initialized s.cache.isInitialized, [])
  | .describe => (s, .description (s.validator.describe s.cache.generation), [])

/-- Commands carried out in order, with the answers and what each logged. -/
def run (check : SignatureCheck) (s : Session) : List Command → Session × List (Answer × Log)
  | [] => (s, [])
  | command :: rest =>
    let (s', answer) := s.step check command
    let (s'', answers) := run check s' rest
    (s'', answer :: answers)

end Session

end TokenGate
