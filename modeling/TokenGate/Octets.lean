/-! # Octets and natural numbers

Big-endian octets of natural numbers, both ways. -/

namespace TokenGate.Octets

/-- The number of big-endian octets. -/
def natural (octets : List UInt8) : Nat :=
  octets.foldl (fun n octet => n * 256 + octet.toNat) 0

/-- The last `count` big-endian octets of a number. -/
def ofNatural : (count : Nat) → Nat → List UInt8
  | 0, _ => []
  | count + 1, n => ofNatural count (n / 256) ++ [(n % 256).toUInt8]

end TokenGate.Octets
