import TokenGate.Decimal.Binary64

/-! # The fewest digits that read back

A magnitude stands for the interval of reals that round to it. Its decimal form takes the coarsest
grid of powers of ten with a point in that interval, and of two such points the nearer. -/

namespace TokenGate.Decimal

/-- `digits * 10 ^ exponent`. -/
structure Scientific where
  digits : Nat
  exponent : Int
  deriving DecidableEq, Repr

namespace Binary64

/-- The lower end of the interval and its upper end, in quarters of a unit of the last place. The
interval is narrower below a power of two. -/
def quarters (x : Binary64) : Nat × Nat :=
  if x.mantissa == Nat.pow 2 52 && x.exponent != leastExponent then
    (4 * x.mantissa - 1, 4 * x.mantissa + 2)
  else (4 * x.mantissa - 2, 4 * x.mantissa + 2)

/-- Comparison of `n * 10 ^ k` with `q` quarters of a unit of the last place. -/
def compareScaled (x : Binary64) (n : Nat) (k : Int) (q : Nat) : Ordering :=
  compare (n * Nat.pow 10 k.toNat * powerOfTwo (2 - x.exponent))
    (q * Nat.pow 10 (-k).toNat * powerOfTwo (x.exponent - 2))

/-- A grid point rounds to the magnitude: it lies between the ends, which belong to the interval
when the mantissa is even. -/
def holds (x : Binary64) (n : Nat) (k : Int) : Bool :=
  let low := x.compareScaled n k x.quarters.1
  let high := x.compareScaled n k x.quarters.2
  if x.mantissa % 2 == 0 then low != .lt && high != .gt else low == .gt && high == .lt

/-- The greatest grid point that is not above the magnitude. -/
def floorOnGrid (x : Binary64) (k : Int) : Nat :=
  x.numerator * Nat.pow 10 (-k).toNat / (x.denominator * Nat.pow 10 k.toNat)

/-- Of the two grid points around the magnitude, the nearer one that rounds to it. -/
def onGrid? (x : Binary64) (k : Int) : Option Nat :=
  let n := x.floorOnGrid k
  match x.holds n k, x.holds (n + 1) k with
  | true, true =>
    match x.compareScaled (2 * n + 1) k (8 * x.mantissa) with
    | .gt => some n
    | .lt => some (n + 1)
    | .eq => some (if n % 2 == 0 then n else n + 1)
  | true, false => some n
  | false, true => some (n + 1)
  | false, false => none

/-- The first hit while the grid becomes finer. -/
def shortestFrom (x : Binary64) : Nat → Int → Scientific
  | 0, k => ⟨x.floorOnGrid k, k⟩
  | steps + 1, k =>
    match x.onGrid? k with
    | some n => ⟨n, k⟩
    | none => shortestFrom x steps (k - 1)

/-- Removes the zeros at the end of the digits; `fuel` bounds their number. -/
def withoutTrailingZeros : Nat → Scientific → Scientific
  | 0, s => s
  | fuel + 1, s =>
    if s.digits % 10 == 0 && s.digits != 0 then
      withoutTrailingZeros fuel ⟨s.digits / 10, s.exponent + 1⟩
    else s

/-- The shortest decimal form. No magnitude needs a grid finer than eighteen places below its
leading digit, and the search starts at a power of ten above it. -/
def shortest (x : Binary64) : Scientific :=
  if x.isZero then ⟨0, 0⟩
  else
    let bits : Int := (x.mantissa.log2 : Int) + x.exponent
    let above := bits * 30103 / 100000 + 2
    withoutTrailingZeros 20 (x.shortestFrom 22 above)

end Binary64

end TokenGate.Decimal
