/-! # Log records and metrics

What the library reports besides its answers: records with a level, a fixed message and fields in a
fixed order, and counters and gauges with labels. Both are plain values, so a statement can speak
about them. -/

namespace TokenGate

/-- How important a record is. -/
inductive Level where
  | trace
  | debug
  | info
  | warn
  | error
  deriving DecidableEq, Repr

def Level.name : Level → String
  | .trace => "TRACE"
  | .debug => "DEBUG"
  | .info => "INFO"
  | .warn => "WARN"
  | .error => "ERROR"

/-- A log record. -/
structure LogRecord where
  level : Level
  message : String
  fields : List (String × String) := []
  deriving DecidableEq, Repr

/-- Records in the order they were written. -/
abbrev Log := List LogRecord

/-- A counter or gauge by name and labels. -/
structure MetricKey where
  name : String
  labels : List (String × String)
  deriving DecidableEq, Repr

/-- A change of one metric. -/
inductive MetricEvent where
  | count (key : MetricKey)
  | gauge (key : MetricKey) (value : Nat)
  deriving DecidableEq, Repr

/-- The metrics touched so far, in order of their first change. -/
abbrev Metrics := List (MetricKey × Nat)

namespace Metrics

/-- The value of a metric; untouched ones are zero. -/
def value (m : Metrics) (key : MetricKey) : Nat :=
  ((m.find? fun entry => entry.1 == key).map (·.2)).getD 0

def set : Metrics → MetricKey → Nat → Metrics
  | [], key, n => [(key, n)]
  | (k, v) :: rest, key, n => if k == key then (k, n) :: rest else (k, v) :: set rest key n

def apply (m : Metrics) : MetricEvent → Metrics
  | .count key => m.set key (m.value key + 1)
  | .gauge key n => m.set key n

def applyAll (m : Metrics) (events : List MetricEvent) : Metrics :=
  events.foldl apply m

/-- The value of a metric that was touched. -/
def value? (m : Metrics) (key : MetricKey) : Option Nat :=
  (m.find? fun entry => entry.1 == key).map (·.2)

theorem value?_set (m : Metrics) (key other : MetricKey) (n : Nat) :
    (m.set key n).value? other = if key = other then some n else m.value? other := by
  induction m with
  | nil => by_cases same : key = other <;> simp [set, value?, same]
  | cons entry rest ih =>
    obtain ⟨k, v⟩ := entry
    simp only [value?] at ih
    by_cases found : k = key
    · subst found
      by_cases same : k = other <;> simp [set, value?, same]
    · by_cases here : k = other
      · subst here
        simp [set, value?, found, Ne.symm found]
      · simp [set, value?, found, here, ih]

theorem value_set (m : Metrics) (key other : MetricKey) (n : Nat) :
    (m.set key n).value other = if key = other then n else m.value other := by
  change ((m.set key n).value? other).getD 0 = _
  rw [value?_set]
  split <;> rfl

/-- Counting adds one to its own metric and leaves the others. -/
theorem value_count (m : Metrics) (key other : MetricKey) :
    (m.apply (.count key)).value other = m.value other + if key = other then 1 else 0 := by
  simp only [apply, value_set]
  split
  · next same => rw [same]
  · rw [Nat.add_zero]

end Metrics

def MetricKey.write (key : MetricKey) : String :=
  key.name ++ "\x7b" ++ ",".intercalate (key.labels.map fun l => l.1 ++ "=" ++ l.2) ++ "\x7d"

end TokenGate
