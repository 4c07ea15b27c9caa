import TokenGate.Refresh.Cycle

/-! # The refresh loop

The loop refreshes the cache at once and then in its interval. It is a task that is polled: a poll
does whatever is due at that moment and ends where the loop waits, for a tick or for a fetch.
Cancellation is looked at first, while the loop waits for a tick and, where the policy abandons
fetches, while a fetch is under way. Moments and spans are nanoseconds.

A tick that is served late moves the ticks behind it; one served within the grace does not. -/

namespace TokenGate.Refresh

/-- A fetch as it turns out: how long it takes, and what it yields. -/
structure Course where
  span : Nat
  result : FetchResult
  deriving Repr

/-- How late a tick may be served and still keep its place. -/
def grace : Nat := 5000000

/-- When the tick behind one is due that was due at one moment and served at another. -/
def nextTick (interval due served : Nat) : Nat :=
  if due + grace < served then served + interval else due + interval

/-- Where the loop is. -/
inductive Phase where
  /-- It has not been polled. -/
  | created
  /-- It waits for the tick due at a moment. -/
  | waiting (due : Nat)
  /-- A fetch ends at a moment; the tick behind it is due at another. -/
  | fetching (finish : Nat) (course : Course) (due : Nat)
  | stopped (moment : Nat)
  deriving Repr

/-- The loop with its cache. Its fetches are numbered from zero. -/
structure Loop where
  /-- The system's time at moment zero. -/
  epoch : SystemTime := 0
  phase : Phase := .created
  /-- Fetches begun. -/
  calls : Nat := 0
  refresh : RefreshState := {}
  /-- The moment of the last poll. -/
  polled : Nat := 0
  deriving Repr

namespace Loop

def isRunning (l : Loop) : Bool :=
  match l.phase with
  | .stopped _ => false
  | _ => true

def stoppedAt? (l : Loop) : Option Nat :=
  match l.phase with
  | .stopped moment => some moment
  | _ => none

/-- The moment at which something is due without cancellation. -/
def wake? (l : Loop) : Option Nat :=
  match l.phase with
  | .created => some 0
  | .waiting due => some due
  | .fetching finish _ _ => some finish
  | .stopped _ => none

def startRecord (r : Refresher) : LogRecord :=
  ⟨.info, "Starting JWKS refresh loop",
    [("jwks_uri", r.endpoint), ("interval_secs", toString r.interval.seconds.toNat),
      ("cancel_policy", r.cancelPolicy.describe)]⟩

def stopRecord (s : RefreshStats) : LogRecord :=
  ⟨.info, "JWKS refresh loop stopped",
    [("attempts", toString s.attempts), ("installs", toString s.installs),
      ("failures", toString s.failures)]⟩

def abandonRecord : LogRecord := ⟨.debug, "Abandoning in-flight JWKS fetch", []⟩

/-- The first tick is due at once. -/
def start (r : Refresher) (now : Nat) (l : Loop) : Loop :=
  { l with phase := .waiting now, refresh := l.refresh.logged [startRecord r] }

def stop (now : Nat) (l : Loop) : Loop :=
  { l with phase := .stopped now, refresh := l.refresh.logged [stopRecord l.refresh.stats] }

/-- A tick is served: the next fetch begins. -/
def beginFetch (r : Refresher) (provider : Nat → Course) (now due : Nat) (l : Loop) : Loop :=
  let course := provider l.calls
  { l with
    phase := .fetching (now + course.span) course (nextTick r.interval.toNanos due now)
    calls := l.calls + 1
    refresh := l.refresh.attempt }

/-- A fetch ends: its result is applied. -/
def endFetch (r : Refresher) (course : Course) (now due : Nat) (l : Loop) : Loop :=
  { l with
    phase := .waiting due
    refresh := (l.refresh.complete r course.result (l.epoch + now)).1 }

/-- The next thing that the loop does at a moment; nothing if it waits or has returned. -/
def advance? (r : Refresher) (provider : Nat → Course) (now : Nat) (cancelled : Bool) (l : Loop) :
    Option Loop :=
  match l.phase with
  | .created => some (l.start r now)
  | .waiting due =>
    if cancelled then some (l.stop now)
    else if due ≤ now then some (l.beginFetch r provider now due)
    else none
  | .fetching finish course due =>
    if cancelled && r.cancelPolicy == .abandonInFlight then
      some ({ l with refresh := l.refresh.logged [abandonRecord] }.stop now)
    else if finish ≤ now then some (l.endFetch r course now due)
    else none
  | .stopped _ => none

/-- Up to so many things one after another. -/
def advanceUpTo (r : Refresher) (provider : Nat → Course) (now : Nat) (cancelled : Bool) :
    Nat → Loop → Loop
  | 0, l => l
  | count + 1, l =>
    match l.advance? r provider now cancelled with
    | some l' => advanceUpTo r provider now cancelled count l'
    | none => l

/-- A poll. At one moment at most a fetch ends, a fetch begins and ends, and the loop starts before
or stops behind that, since the ticks are further apart than the grace. -/
def poll (r : Refresher) (provider : Nat → Course) (now : Nat) (cancelled : Bool) (l : Loop) :
    Loop :=
  { l with polled := now }.advanceUpTo r provider now cancelled 4

/-- The loop polled whenever something is due, up to a moment, as long as a condition holds. -/
def runWhile (r : Refresher) (provider : Nat → Course) (cancelled : Bool) (goOn : Loop → Bool)
    (limit : Nat) (l : Loop) : Loop :=
  match _woken : l.wake? with
  | none => l
  | some now =>
    if goOn l = true ∧ now ≤ limit then
      let l' := l.poll r provider now cancelled
      match _ahead : l'.wake? with
      | none => l'
      | some next =>
        if now < next then runWhile r provider cancelled goOn limit l' else l'
    else l
termination_by limit + 1 - l.wake?.getD 0
decreasing_by
  simp only [_woken, _ahead, Option.getD_some, l']
  omega

end Loop

end TokenGate.Refresh
