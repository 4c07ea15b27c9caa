/-! # Finite binary floating-point magnitudes

A magnitude is `mantissa * 2 ^ exponent` with a mantissa of at most 53 bits and an exponent of at
least -1074: the non-negative finite values of the 64-bit binary format. Rounding goes to the
nearest magnitude, a tie to the even mantissa, and fails where the format has no finite value. -/

namespace TokenGate.Decimal

/-- A non-negative finite value of the 64-bit binary format. -/
structure Binary64 where
  mantissa : Nat
  exponent : Int
  deriving DecidableEq, Repr, Inhabited

namespace Binary64

/-- The least exponent, that of the subnormal values. -/
def leastExponent : Int := -1074

def zero : Binary64 := ⟨0, leastExponent⟩

def isZero (x : Binary64) : Bool := x.mantissa == 0

/-- A power of two when its index is positive, else one. -/
def powerOfTwo (e : Int) : Nat := Nat.pow 2 e.toNat

/-- The quotient rounded to the nearest natural number, a tie to the even one. -/
def roundedQuotient (num den : Nat) : Nat :=
  let q := num / den
  let r := num % den
  if 2 * r < den then q
  else if den < 2 * r then q + 1
  else if q % 2 == 0 then q else q + 1

/-- The exponent at which a positive quotient has a mantissa of 53 bits, or the least one. -/
def quotientExponent (num den : Nat) : Int :=
  let e : Int := (num.log2 : Int) - (den.log2 : Int) - 53
  let wide := num * powerOfTwo (-e) / (den * powerOfTwo e)
  max leastExponent (if Nat.pow 2 53 ≤ wide then e + 1 else e)

/-- The magnitude nearest to a quotient, unless that is beyond the greatest finite one. -/
def ofQuotient? (num den : Nat) : Option Binary64 :=
  if num == 0 then some zero
  else
    let e := quotientExponent num den
    let m := roundedQuotient (num * powerOfTwo (-e)) (den * powerOfTwo e)
    let x : Binary64 := if m == Nat.pow 2 53 then ⟨Nat.pow 2 52, e + 1⟩ else ⟨m, e⟩
    if x.exponent ≤ 971 then some x else none

def numerator (x : Binary64) : Nat := x.mantissa * powerOfTwo x.exponent

def denominator (x : Binary64) : Nat := powerOfTwo (-x.exponent)

def mul? (x y : Binary64) : Option Binary64 :=
  ofQuotient? (x.numerator * y.numerator) (x.denominator * y.denominator)

def div? (x y : Binary64) : Option Binary64 :=
  ofQuotient? (x.numerator * y.denominator) (x.denominator * y.numerator)

/-- The greatest power of ten the format holds has index 308. -/
def greatestPowerOfTen : Nat := 308

def powerOfTen (k : Nat) : Binary64 :=
  (ofQuotient? (Nat.pow 10 k) 1).getD zero

/-- `x` scaled down by `10 ^ k`, after `steps` divisions by the greatest power of ten that the
format holds; every division rounds, and zero ends the run early. -/
def scaleDownFrom? : Nat → Binary64 → Nat → Option Binary64
  | 0, x, k => x.div? (powerOfTen k)
  | steps + 1, x, k =>
    if x.isZero then some x
    else
      match x.div? (powerOfTen greatestPowerOfTen) with
      | some y => scaleDownFrom? steps y (k - greatestPowerOfTen)
      | none => none

/-- `x` scaled down by a power of ten in steps that the format can hold. -/
def scaleDown? (x : Binary64) (k : Nat) : Option Binary64 :=
  scaleDownFrom? ((k - 1) / greatestPowerOfTen) x k

/-- The magnitude read from a significand and a power of ten: the significand is rounded first,
then scaled. Scaling up must take a single step unless the significand is zero. -/
def ofScaled? (significand : Nat) (exponent : Int) : Option Binary64 := do
  let x ← ofQuotient? significand 1
  if exponent < 0 then x.scaleDown? (-exponent).toNat
  else if exponent ≤ greatestPowerOfTen then x.mul? (powerOfTen exponent.toNat)
  else if x.isZero then some x
  else none

end Binary64

end TokenGate.Decimal
