import TokenGate.Octets

/-! # SHA-2

The digests of 256, 384 and 512 bits. One compression serves both word sizes; constants are the
leading fraction bits of square and cube roots of the first primes. -/

namespace TokenGate.Sha2

/-- The greatest natural number whose `k`-th power is at most `n`, searched below `2 ^ bits`. -/
def rootFloor (k n : Nat) : (bits : Nat) → Nat → Nat
  | 0, r => r
  | bits + 1, r =>
    let r' := r + Nat.pow 2 bits
    rootFloor k n bits (if Nat.pow r' k ≤ n then r' else r)

/-- The first 64 fraction bits of the `k`-th root of `n`. -/
def rootFraction (k n : Nat) : Nat :=
  rootFloor k (n * Nat.pow 2 (64 * k)) 72 0 % UInt64.size

def primes : List Nat :=
  (List.range 410).filter fun n =>
    2 ≤ n && (List.range n).all fun d => d < 2 || n % d != 0

def cubeFractions : List Nat := primes.map (rootFraction 3)

def squareFractions : List Nat := (primes.take 16).map (rootFraction 2)

/-- The working words. -/
structure State (w : Nat) where
  a : BitVec w
  b : BitVec w
  c : BitVec w
  d : BitVec w
  e : BitVec w
  f : BitVec w
  g : BitVec w
  h : BitVec w

namespace State

def toList (s : State w) : List (BitVec w) := [s.a, s.b, s.c, s.d, s.e, s.f, s.g, s.h]

/-- The words of a list, zero where the list is short. -/
def ofList (ws : List (BitVec w)) : State w :=
  ⟨ws.getD 0 0, ws.getD 1 0, ws.getD 2 0, ws.getD 3 0, ws.getD 4 0, ws.getD 5 0, ws.getD 6 0,
    ws.getD 7 0⟩

def add (s t : State w) : State w := ofList (List.zipWith (· + ·) s.toList t.toList)

end State

/-- What a word size decides: rotations, round constants, and how many octets a block and a length
field take. -/
structure Core (w : Nat) where
  bigZero : List Nat
  bigOne : List Nat
  smallZero : List Nat
  smallOne : List Nat
  constants : List (BitVec w)
  block : Nat

def Core.wordOctets (_ : Core w) : Nat := w / 8

/-- Exclusive or of rotations to the right. -/
def rotations (amounts : List Nat) (x : BitVec w) : BitVec w :=
  amounts.foldl (fun acc n => acc ^^^ x.rotateRight n) 0

/-- Exclusive or of two rotations and, for the last amount, a shift. -/
def mixing (amounts : List Nat) (x : BitVec w) : BitVec w :=
  rotations (amounts.take 2) x ^^^ (x >>> amounts.getD 2 0)

/-- The word that follows a window of sixteen words. -/
def Core.nextWord (c : Core w) (window : List (BitVec w)) : BitVec w :=
  mixing c.smallOne (window.getD 14 0) + window.getD 9 0 + mixing c.smallZero (window.getD 1 0)
    + window.getD 0 0

/-- One round with its constant and its message word. -/
def Core.round (c : Core w) (k m : BitVec w) (s : State w) : State w :=
  let choice := (s.e &&& s.f) ^^^ (~~~s.e &&& s.g)
  let majority := (s.a &&& s.b) ^^^ (s.a &&& s.c) ^^^ (s.b &&& s.c)
  let t := s.h + rotations c.bigOne s.e + choice + k + m
  ⟨t + rotations c.bigZero s.a + majority, s.a, s.b, s.c, s.d + t, s.e, s.f, s.g⟩

/-- A round per constant over a sliding window of the message schedule. -/
def Core.rounds (c : Core w) : List (BitVec w) → List (BitVec w) → State w → State w
  | [], _, s => s
  | k :: ks, window, s =>
    c.rounds ks (window.drop 1 ++ [c.nextWord window]) (c.round k (window.getD 0 0) s)

/-- Consecutive parts of one size, as many as `count`. -/
def parts (size : Nat) : (count : Nat) → List α → List (List α)
  | 0, _ => []
  | count + 1, xs => xs.take size :: parts size count (xs.drop size)

/-- A block of octets as sixteen words. -/
def Core.words (c : Core w) (block : List UInt8) : List (BitVec w) :=
  (parts c.wordOctets 16 block).map fun p => BitVec.ofNat w (Octets.natural p)

/-- The message with a one bit, zeros, and its length in bits, to full blocks. -/
def Core.padded (c : Core w) (message : List UInt8) : List UInt8 :=
  let lengthOctets := c.block / 8
  let used := (message.length + 1 + lengthOctets) % c.block
  let zeros := if used == 0 then 0 else c.block - used
  message ++ 0x80 :: List.replicate zeros 0 ++ Octets.ofNatural lengthOctets (message.length * 8)

/-- The state after all blocks. -/
def Core.run (c : Core w) (start : State w) (message : List UInt8) : State w :=
  let text := c.padded message
  (parts c.block (text.length / c.block) text).foldl
    (fun s block => s.add (c.rounds c.constants (c.words block) s)) start

def Core.output (c : Core w) (s : State w) : List UInt8 :=
  s.toList.flatMap fun x => Octets.ofNatural c.wordOctets x.toNat

/-- Words of 32 bits in blocks of 64 octets. -/
def core32 : Core 32 :=
  ⟨[2, 13, 22], [6, 11, 25], [7, 18, 3], [17, 19, 10],
    (cubeFractions.take 64).map fun f => BitVec.ofNat 32 (f / UInt32.size), 64⟩

/-- Words of 64 bits in blocks of 128 octets. -/
def core64 : Core 64 :=
  ⟨[28, 34, 39], [14, 18, 41], [1, 8, 7], [19, 61, 6], cubeFractions.map (BitVec.ofNat 64), 128⟩

def sha256 (message : List UInt8) : List UInt8 :=
  let start := State.ofList ((squareFractions.take 8).map fun f => BitVec.ofNat 32 (f / UInt32.size))
  core32.output (core32.run start message)

def sha512 (message : List UInt8) : List UInt8 :=
  let start := State.ofList ((squareFractions.take 8).map (BitVec.ofNat 64))
  core64.output (core64.run start message)

def sha384 (message : List UInt8) : List UInt8 :=
  let start := State.ofList ((squareFractions.drop 8).map (BitVec.ofNat 64))
  (core64.output (core64.run start message)).take 48

/-- The digests by size. -/
inductive Digest where
  | bits256
  | bits384
  | bits512
  deriving DecidableEq, Repr

def Digest.hash : Digest → List UInt8 → List UInt8
  | .bits256 => sha256
  | .bits384 => sha384
  | .bits512 => sha512

def Digest.size : Digest → Nat
  | .bits256 => 32
  | .bits384 => 48
  | .bits512 => 64

end TokenGate.Sha2
