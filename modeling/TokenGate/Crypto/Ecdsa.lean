import TokenGate.Crypto.Rsa

/-! # Elliptic-curve signatures

Verification over the two prime curves whose linear coefficient is -3. Points are computed in
weighted projective coordinates, where the affine point is `(x / z ^ 2, y / z ^ 3)`; a weight of
zero is the point at infinity. -/

namespace TokenGate.Ecdsa

open TokenGate.Sha2 (Digest)

/-- A curve `y ^ 2 = x ^ 3 - 3 x + b` over the integers modulo a prime, with a base point of prime
order. -/
structure Curve where
  prime : Nat
  b : Nat
  order : Nat
  baseX : Nat
  baseY : Nat
  size : Nat
  digest : Digest
  deriving DecidableEq, Repr

def p256 : Curve where
  prime := 0xFFFFFFFF00000001000000000000000000000000FFFFFFFFFFFFFFFFFFFFFFFF
  b := 0x5AC635D8AA3A93E7B3EBBD55769886BC651D06B0CC53B0F63BCE3C3E27D2604B
  order := 0xFFFFFFFF00000000FFFFFFFFFFFFFFFFBCE6FAADA7179E84F3B9CAC2FC632551
  baseX := 0x6B17D1F2E12C4247F8BCE6E563A440F277037D812DEB33A0F4A13945D898C296
  baseY := 0x4FE342E2FE1A7F9B8EE7EB4A7C0F9E162BCE33576B315ECECBB6406837BF51F5
  size := 32
  digest := .bits256

def p384 : Curve where
  prime := 0xFFFFFFFFFFFFFFFFFFFFFFFFFFFFFFFFFFFFFFFFFFFFFFFFFFFFFFFFFFFFFFFEFFFFFFFF0000000000000000FFFFFFFF
  b := 0xB3312FA7E23EE7E4988E056BE3F82D19181D9C6EFE8141120314088F5013875AC656398D8A2ED19D2A85C8EDD3EC2AEF
  order := 0xFFFFFFFFFFFFFFFFFFFFFFFFFFFFFFFFFFFFFFFFFFFFFFFFC7634D81F4372DDF581A0DB248B0A77AECEC196ACCC52973
  baseX := 0xAA87CA22BE8B05378EB1C71EF320AD746E1D3B628BA79B9859F741E082542A385502F25DBF55296C3A545E3872760AB7
  baseY := 0x3617DE4A96262C6F5D9E98BF9292DC29F8F41DBD289A147CE9DA3113B5F0B8C00A60B1CE1D7E819D7A431D7C90EA0E5F
  size := 48
  digest := .bits384

/-- A point by its weighted coordinates. -/
structure Point where
  x : Nat
  y : Nat
  z : Nat
  deriving DecidableEq, Repr

def Point.infinity : Point := ⟨1, 1, 0⟩

namespace Curve

def sub (c : Curve) (a b : Nat) : Nat := (a + (c.prime - b % c.prime)) % c.prime

def double (c : Curve) (q : Point) : Point :=
  if q.z == 0 || q.y == 0 then .infinity
  else
    let p := c.prime
    let yy := q.y * q.y % p
    let s := 4 * q.x * yy % p
    let zz := q.z * q.z % p
    let m := c.sub (3 * q.x * q.x) (3 * zz * zz)
    let x := c.sub (m * m) (2 * s)
    ⟨x, c.sub (m * c.sub s x) (8 * yy * yy), 2 * q.y * q.z % p⟩

/-- The sum of two points. -/
def add (c : Curve) (q r : Point) : Point :=
  if q.z == 0 then r
  else if r.z == 0 then q
  else
    let p := c.prime
    let qq := q.z * q.z % p
    let rr := r.z * r.z % p
    let u := q.x * rr % p
    let v := r.x * qq % p
    let s := q.y * rr % p * r.z % p
    let t := r.y * qq % p * q.z % p
    if u == v then if s == t then c.double q else .infinity
    else
      let h := c.sub v u
      let k := c.sub t s
      let hh := h * h % p
      let hhh := hh * h % p
      let uhh := u * hh % p
      let x := c.sub (c.sub (k * k) hhh) (2 * uhh)
      ⟨x, c.sub (k * c.sub uhh x) (s * hhh), q.z * r.z % p * h % p⟩

/-- A multiple of a point, by the bits of the factor from the lowest up. -/
def multiple (c : Curve) (k : Nat) (q : Point) : Point :=
  if k = 0 then .infinity
  else
    let half := c.multiple (k / 2) (c.double q)
    if k % 2 == 1 then c.add half q else half
termination_by k

def base (c : Curve) : Point := ⟨c.baseX, c.baseY, 1⟩

/-- Coordinates below the prime that satisfy the curve's equation. -/
def contains (c : Curve) (x y : Nat) : Bool :=
  x < c.prime && y < c.prime && y * y % c.prime == (c.sub (x * x * x) (3 * x) + c.b) % c.prime

def inverse (modulus a : Nat) : Nat := Rsa.powMod a (modulus - 2) modulus

/-- The affine abscissa of a point other than infinity. -/
def abscissa? (c : Curve) (q : Point) : Option Nat :=
  if q.z == 0 then none
  else
    let w := inverse c.prime q.z
    some (q.x * (w * w % c.prime) % c.prime)

/-- The point of a key: two coordinates of the curve's size. -/
def point? (c : Curve) (key : List UInt8) : Option Point :=
  let x := Octets.natural (key.take c.size)
  let y := Octets.natural (key.drop c.size)
  if key.length == 2 * c.size && c.contains x y then some ⟨x, y, 1⟩ else none

/-- A signature of two numbers of the curve's size, each from one to below the order, verifies. -/
def verify (c : Curve) (key message signature : List UInt8) : Bool :=
  match c.point? key with
  | none => false
  | some q =>
    let r := Octets.natural (signature.take c.size)
    let s := Octets.natural (signature.drop c.size)
    if signature.length == 2 * c.size && 0 < r && r < c.order && 0 < s && s < c.order then
      let e := Octets.natural (c.digest.hash message)
      let w := inverse c.order s
      let sum := c.add (c.multiple (e * w % c.order) c.base) (c.multiple (r * w % c.order) q)
      match c.abscissa? sum with
      | some x => x % c.order == r
      | none => false
    else false

end Curve

end TokenGate.Ecdsa
