/-! # Durations and moments

A duration has whole seconds and a part below a second, counted in nanoseconds. Moments of the
validator's clock are whole seconds of 64 bits: setting a clock forward wraps, allowing for skew
saturates. -/

namespace TokenGate

/-- A span of time. -/
structure Duration where
  seconds : UInt64
  nanos : Nat
  nanos_lt : nanos < 1000000000 := by decide
  deriving DecidableEq, Repr

namespace Duration

def ofSeconds (seconds : UInt64) : Duration := ⟨seconds, 0, by decide⟩

def ofMillis (millis : Nat) : Duration :=
  ⟨(millis / 1000).toUInt64, millis % 1000 * 1000000, by omega⟩

/-- Whole seconds and any count of nanoseconds, those beyond a second carried over. -/
def ofParts (seconds : UInt64) (nanos : Nat) : Duration :=
  ⟨seconds + (nanos / 1000000000).toUInt64, nanos % 1000000000, Nat.mod_lt _ (by decide)⟩

def zero : Duration := ofSeconds 0

instance : Inhabited Duration := ⟨zero⟩

def isZero (d : Duration) : Bool := d.seconds == 0 && d.nanos == 0

def toNanos (d : Duration) : Nat := d.seconds.toNat * 1000000000 + d.nanos

/-- The span in whole seconds, the nearest count, half a second upwards. -/
def roundedSeconds (d : Duration) : Nat :=
  d.seconds.toNat + if 500000000 ≤ d.nanos then 1 else 0

/-- The first `places` decimal places of a fraction, without zeros at the end. -/
def fractionChars (places : Nat) (fraction : Nat) : List Char :=
  let ds := Nat.toDigits 10 fraction
  let padded := List.replicate (places - ds.length) '0' ++ ds
  (padded.reverse.dropWhile (· == '0')).reverse

/-- A whole part, a fraction of some places, and a unit. -/
def inUnit (whole : Nat) (places fraction : Nat) (unit : String) : String :=
  let f := fractionChars places fraction
  toString whole ++ (if f.isEmpty then "" else "." ++ String.ofList f) ++ unit

/-- The span in the largest unit with a whole part, exactly. -/
def describe (d : Duration) : String :=
  if d.seconds != 0 then inUnit d.seconds.toNat 9 d.nanos "s"
  else if 1000000 ≤ d.nanos then inUnit (d.nanos / 1000000) 6 (d.nanos % 1000000) "ms"
  else if 1000 ≤ d.nanos then inUnit (d.nanos / 1000) 3 (d.nanos % 1000) "µs"
  else inUnit d.nanos 0 0 "ns"

end Duration

/-- The system's own time, which the validator's clock need not follow: nanoseconds since the
beginning of 1970, negative before it. -/
abbrev SystemTime := Int

/-- The last moment of the clock. -/
def lastMoment : UInt64 := 0xFFFFFFFFFFFFFFFF

/-- A later moment, at most the last one. -/
def laterBy (moment seconds : UInt64) : UInt64 :=
  if moment.toNat + seconds.toNat < UInt64.size then moment + seconds else lastMoment

/-- A later moment is the sum, or the last moment of the clock. -/
theorem toNat_laterBy (moment seconds : UInt64) :
    (laterBy moment seconds).toNat = min (moment.toNat + seconds.toNat) (UInt64.size - 1) := by
  unfold laterBy
  split
  · next h => rw [UInt64.toNat_add, Nat.mod_eq_of_lt h]; omega
  · next h =>
    have : lastMoment.toNat = UInt64.size - 1 := by decide
    omega

/-- Saturating changes no comparison with a moment of the clock. -/
theorem laterBy_lt_iff (moment seconds bound : UInt64) :
    laterBy moment seconds < bound ↔ moment.toNat + seconds.toNat < bound.toNat := by
  have bounded := bound.toNat_lt
  have size : UInt64.size = 0x10000000000000000 := rfl
  rw [UInt64.lt_iff_toNat_lt, toNat_laterBy]
  omega

end TokenGate
