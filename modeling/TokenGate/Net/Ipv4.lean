import TokenGate.Text.Blank
import TokenGate.Text.Digits

/-! # IPv4 addresses

Two readings of an address. The strict one takes four decimal numbers. The one for hosts of URLs
takes one to four numbers in octal, decimal or hexadecimal notation, the last of which fills the
octets that are left. -/

namespace TokenGate

/-- An IPv4 address, its first octet the highest. -/
structure Ipv4 where
  bits : UInt32
  deriving DecidableEq, Repr, Inhabited

namespace Ipv4

def ofOctets (a b c d : Nat) : Ipv4 :=
  ⟨(((a * 256 + b) * 256 + c) * 256 + d).toUInt32⟩

def octets (a : Ipv4) : List Nat :=
  let n := a.bits.toNat
  [n / 16777216, n / 65536 % 256, n / 256 % 256, n % 256]

def write (a : Ipv4) : String :=
  ".".intercalate (a.octets.map toString)

/-- Addresses of the machine itself begin with 127. -/
def isLoopback (a : Ipv4) : Bool :=
  a.bits.toNat / 16777216 == 127

/-- A decimal octet without zeros in front. -/
def octet? (s : String) : Option Nat :=
  if s.length ≤ 3 && (s.length == 1 || s.front != '0') then
    (Text.numeral? 10 s.toList).filter (· ≤ 255)
  else none

/-- The address that four decimal octets spell. -/
def ofDotted? (s : String) : Option Ipv4 :=
  match (Text.splitAt '.' s).mapM octet? with
  | some [a, b, c, d] => some (ofOctets a b c d)
  | _ => none

/-- A number of a host: hexadecimal behind `0x`, octal behind another zero, else decimal. Nothing
behind the sign of a base is zero. -/
def hostNumber? (s : String) : Option Nat :=
  match s.toList with
  | [] => none
  | '0' :: x :: rest =>
    if x == 'x' || x == 'X' then
      if rest.isEmpty then some 0 else Text.numeral? 16 rest
    else Text.numeral? 8 (x :: rest)
  | ds => Text.numeral? 10 ds

/-- The parts of a host between points, an empty one at the end left out. -/
def hostParts (host : String) : List String :=
  let parts := Text.splitAt '.' host
  if 1 < parts.length && parts.getLast? == some "" then parts.dropLast else parts

/-- A host whose last part is a number, or consists of digits, is meant as an address. -/
def endsInNumber (host : String) : Bool :=
  match (hostParts host).getLast? with
  | none => false
  | some last => (last != "" && last.toList.all Char.isDigit) || (hostNumber? last).isSome

/-- The numbers of an address, the last filling the octets left by the others. -/
def ofNumbers? (numbers : List Nat) : Option Ipv4 :=
  let first := numbers.dropLast
  let left := 4 - first.length
  match numbers.getLast? with
  | none => none
  | some last =>
    if numbers.length ≤ 4 && first.all (· ≤ 255) && last < Nat.pow 256 left then
      some ⟨(first.foldl (fun n octet => n * 256 + octet) 0 * Nat.pow 256 left + last).toUInt32⟩
    else none

def ofHost? (host : String) : Option Ipv4 :=
  ((hostParts host).mapM hostNumber?).bind ofNumbers?

end Ipv4

end TokenGate
