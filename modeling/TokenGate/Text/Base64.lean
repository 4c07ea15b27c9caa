/-! # Base64

Strict reading of base64 in the two dialects the library meets: the URL-safe alphabet without
padding and the standard alphabet with canonical padding. Bits that the last symbol carries beyond
the last octet must be zero, so a text has at most one reading and an octet list one spelling.

Every refusal names its cause. All groups of four before the last group come first; the last group
alone may hold padding. -/

namespace TokenGate.Base64

/-- The two symbols in which the alphabets differ, and whether the last group is padded. -/
structure Dialect where
  sixtyTwo : UInt8
  sixtyThree : UInt8
  padded : Bool
  deriving DecidableEq, Repr

/-- URL-safe symbols, no padding. -/
def urlSafe : Dialect := ⟨0x2D, 0x5F, false⟩

/-- Standard symbols, canonical padding. -/
def standard : Dialect := ⟨0x2B, 0x2F, true⟩

/-- Why a text is not base64 of a dialect. -/
inductive Error where
  /-- A symbol outside the alphabet, or padding where none may stand. -/
  | symbol (octet : UInt8) (offset : Nat)
  /-- A last symbol with bits beyond the last octet. -/
  | lastSymbol (octet : UInt8) (offset : Nat)
  /-- A last group of one symbol. -/
  | length (symbols : Nat)
  /-- Padding that the dialect forbids, or too little of it. -/
  | padding
  deriving DecidableEq, Repr

def Error.message : Error → String
  | .symbol octet offset => s!"Invalid symbol {octet.toNat}, offset {offset}."
  | .lastSymbol octet offset => s!"Invalid last symbol {octet.toNat}, offset {offset}."
  | .length symbols => s!"Invalid input length: {symbols}"
  | .padding => "Invalid padding"

def pad : UInt8 := 0x3D

/-- The six bits a symbol stands for. -/
def Dialect.digit? (d : Dialect) (octet : UInt8) : Option Nat :=
  if 0x41 ≤ octet && octet ≤ 0x5A then some (octet.toNat - 0x41)
  else if 0x61 ≤ octet && octet ≤ 0x7A then some (octet.toNat - 0x61 + 26)
  else if 0x30 ≤ octet && octet ≤ 0x39 then some (octet.toNat - 0x30 + 52)
  else if octet == d.sixtyTwo then some 62
  else if octet == d.sixtyThree then some 63
  else none

/-- A symbol at a known offset, which must be of the alphabet. -/
def Dialect.digit (d : Dialect) (offset : Nat) (octet : UInt8) : Except Error Nat :=
  match d.digit? octet with
  | some n => .ok n
  | none => .error (.symbol octet offset)

def threeOctets (a b c e : Nat) : List UInt8 :=
  let n := ((a * 64 + b) * 64 + c) * 64 + e
  [(n / 65536).toUInt8, (n / 256 % 256).toUInt8, (n % 256).toUInt8]

/-- Full groups of four symbols, none of them padding. -/
def Dialect.groups (d : Dialect) (offset : Nat) : List UInt8 → Except Error (List UInt8)
  | a :: b :: c :: e :: rest => do
    let a ← d.digit offset a
    let b ← d.digit (offset + 1) b
    let c ← d.digit (offset + 2) c
    let e ← d.digit (offset + 3) e
    return threeOctets a b c e ++ (← d.groups (offset + 4) rest)
  | _ => .ok []

/-- What the last group holds: its digits, its last symbol that is not padding, and the count of
padding symbols behind them. -/
structure LastGroup where
  digits : List Nat
  last : UInt8
  padding : Nat

/-- The last group read symbol by symbol. Padding may start at the third place only, and nothing
but padding may follow it. -/
def Dialect.lastGroup (d : Dialect) (start : Nat) (place : Nat) (seen : LastGroup) :
    List UInt8 → Except Error LastGroup
  | [] => .ok seen
  | octet :: rest =>
    if octet == pad then
      if place < 2 then .error (.symbol octet (start + place))
      else d.lastGroup start (place + 1) { seen with padding := seen.padding + 1 } rest
    else if 0 < seen.padding then .error (.symbol pad (start + place - seen.padding))
    else do
      let digit ← d.digit (start + place) octet
      d.lastGroup start (place + 1)
        { seen with digits := seen.digits ++ [digit], last := octet } rest

/-- The octets of a last group, given how many symbols stand before it. -/
def Dialect.finish (d : Dialect) (start : Nat) (last : LastGroup) : Except Error (List UInt8) :=
  if d.padded && (last.padding + last.digits.length) % 4 != 0 then .error .padding
  else if !d.padded && 0 < last.padding then .error .padding
  else
    match last.digits with
    | [a, b] =>
      if b % 16 == 0 then .ok [(a * 4 + b / 16).toUInt8]
      else .error (.lastSymbol last.last (start + 1))
    | [a, b, c] =>
      if c % 4 == 0 then .ok [(a * 4 + b / 16).toUInt8, (b % 16 * 16 + c / 4).toUInt8]
      else .error (.lastSymbol last.last (start + 2))
    | [a, b, c, e] => .ok (threeOctets a b c e)
    | _ => .ok []

/-- Where the last group starts: it holds one to four symbols. -/
def lastStart (length : Nat) : Nat :=
  (length - 1) / 4 * 4

/-- The octets that a text spells. A foreign symbol left over at the very end is reported before
any other. -/
def Dialect.decode (d : Dialect) (text : List UInt8) : Except Error (List UInt8) := do
  if text.length % 4 == 1 then
    match text.getLast? with
    | some octet => if octet != pad then discard (d.digit (text.length - 1) octet)
    | none => pure ()
  let start := lastStart text.length
  let front ← d.groups 0 (text.take start)
  let last ← d.lastGroup start 0 ⟨[], 0, 0⟩ (text.drop start)
  if !text.isEmpty && last.digits.length < 2 then
    .error (.length (start + last.digits.length))
  else
    return front ++ (← d.finish start last)

def Dialect.decodeText (d : Dialect) (s : String) : Except Error (List UInt8) :=
  d.decode s.toUTF8.toList

end TokenGate.Base64
