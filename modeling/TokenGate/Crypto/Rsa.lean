import TokenGate.Crypto.Sha2
import TokenGate.Der.Basic

/-! # RSA signatures

Verification of signatures in the two encodings of PKCS #1: the deterministic one with the digest's
full description, and the probabilistic one with a mask of the same digest and a salt as long as
the digest. -/

namespace TokenGate.Rsa

open TokenGate.Sha2 (Digest)

/-- `base ^ exponent` modulo `modulus`, by squaring. -/
def powMod (base exponent modulus : Nat) : Nat :=
  if exponent = 0 then 1 % modulus
  else
    let half := powMod (base * base % modulus) (exponent / 2) modulus
    if exponent % 2 == 1 then base * half % modulus else half
termination_by exponent

/-- A public key. -/
structure PublicKey where
  modulus : Nat
  exponent : Nat
  deriving DecidableEq, Repr

def bitLength (n : Nat) : Nat := if n = 0 then 0 else n.log2 + 1

namespace PublicKey

/-- Keys that may verify: an odd modulus of 2048 to 8192 bits and an odd exponent of 2 to 33
bits. -/
def usable (k : PublicKey) : Bool :=
  2048 ≤ bitLength k.modulus && bitLength k.modulus ≤ 8192 && k.modulus % 2 == 1
    && 2 ≤ bitLength k.exponent && bitLength k.exponent ≤ 33 && k.exponent % 2 == 1

/-- A usable key from big-endian octets without leading zeros. -/
def ofOctets? (modulus exponent : List UInt8) : Option PublicKey :=
  let k : PublicKey := ⟨Octets.natural modulus, Octets.natural exponent⟩
  if modulus.head? != some 0 && exponent.head? != some 0 && k.usable then some k else none

def size (k : PublicKey) : Nat := (bitLength k.modulus + 7) / 8

/-- A positive number in the strict encoding: shortest form, no sign bit. -/
def positive? (octets : List UInt8) : Option (Nat × List UInt8) := do
  let (content, rest) ← Der.primitive? true Der.integerTag octets
  match content with
  | [] => none
  | [a] => if a < 0x80 && a != 0 then some (a.toNat, rest) else none
  | a :: b :: _ =>
    if a < 0x80 && !(a == 0 && b < 0x80) then some (Octets.natural content, rest) else none

def ofSequence? (octets : List UInt8) : Option PublicKey := do
  let (content, rest) ← Der.sequence? true octets
  let (modulus, content) ← positive? content
  let (exponent, content) ← positive? content
  if rest.isEmpty && content.isEmpty then some ⟨modulus, exponent⟩ else none

def ofSubjectKey? (octets : List UInt8) : Option PublicKey := do
  let (content, rest) ← Der.sequence? true octets
  let (identifier, content) ← Der.sequence? true content
  let (algorithm, parameters) ← Der.primitive? true Der.objectIdentifierTag identifier
  let (null, parameters) ← Der.primitive? true Der.nullTag parameters
  let (unused, key, content) ← Der.bitString? true content
  if rest.isEmpty && content.isEmpty && parameters.isEmpty && null.isEmpty && unused == 0
      && algorithm == [0x2A, 0x86, 0x48, 0x86, 0xF7, 0x0D, 0x01, 0x01, 0x01] then
    ofSequence? key
  else none

/-- A usable key from either encoding. -/
def ofDer? (octets : List UInt8) : Option PublicKey :=
  ((ofSequence? octets).orElse fun _ => ofSubjectKey? octets).filter usable

/-- The encoded message that a signature hides. A signature is as long as the modulus and below
it. -/
def recover? (k : PublicKey) (signature : List UInt8) : Option (List UInt8) :=
  let s := Octets.natural signature
  if signature.length == k.size && s < k.modulus then
    some (Octets.ofNatural k.size (powMod s k.exponent k.modulus))
  else none

end PublicKey

/-- The last arc of a digest's identifier. -/
def digestArc : Digest → UInt8
  | .bits256 => 1
  | .bits384 => 2
  | .bits512 => 3

def digestInfo (d : Digest) (hash : List UInt8) : List UInt8 :=
  [0x30, (d.size + 17).toUInt8, 0x30, 0x0D, 0x06, 0x09, 0x60, 0x86, 0x48, 0x01, 0x65, 0x03, 0x04,
    0x02, digestArc d, 0x05, 0x00, 0x04, d.size.toUInt8] ++ hash

def deterministic (d : Digest) (size : Nat) (message : List UInt8) : List UInt8 :=
  let info := digestInfo d (d.hash message)
  0x00 :: 0x01 :: List.replicate (size - info.length - 3) 0xFF ++ 0x00 :: info

def verifyDeterministic (d : Digest) (k : PublicKey) (message signature : List UInt8) : Bool :=
  k.recover? signature == some (deterministic d k.size message)

/-- The first octets of the mask grown from a seed. -/
def mask (d : Digest) (seed : List UInt8) (length : Nat) : List UInt8 :=
  let blocks := (List.range (length / d.size + 1)).flatMap fun i =>
    d.hash (seed ++ Octets.ofNatural 4 i)
  blocks.take length

/-- Clears the first `bits` bits of the first octet. -/
def clearLeading (bits : Nat) : List UInt8 → List UInt8
  | [] => []
  | octet :: rest => (octet.toNat % Nat.pow 2 (8 - bits)).toUInt8 :: rest

/-- An encoded message of `bits` bits is a probabilistic encoding of the message. -/
def isProbabilistic (d : Digest) (bits : Nat) (message encoded : List UInt8) : Bool :=
  let length := (bits + 7) / 8
  let spare := 8 * length - bits
  let maskedLength := length - d.size - 1
  let masked := encoded.take maskedLength
  let hash := (encoded.drop maskedLength).take d.size
  let block := clearLeading spare (List.zipWith (· ^^^ ·) masked (mask d hash maskedLength))
  let zeros := maskedLength - d.size - 1
  let salt := block.drop (zeros + 1)
  encoded.length == length && 2 * d.size + 2 ≤ length
    && encoded.getLast? == some 0xBC
    && clearLeading spare masked == masked
    && block.take (zeros + 1) == List.replicate zeros 0x00 ++ [0x01]
    && hash == d.hash (List.replicate 8 0x00 ++ d.hash message ++ salt)

/-- A probabilistic signature verifies. The encoding is one bit shorter than the modulus. -/
def verifyProbabilistic (d : Digest) (k : PublicKey) (message signature : List UInt8) : Bool :=
  let bits := bitLength k.modulus - 1
  match k.recover? signature with
  | some encoded =>
    if bits % 8 == 0 then
      encoded.head? == some 0 && isProbabilistic d bits message (encoded.drop 1)
    else isProbabilistic d bits message encoded
  | none => false

end TokenGate.Rsa
