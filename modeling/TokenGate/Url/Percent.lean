import TokenGate.Text.Digits
import TokenGate.Text.Symbol

/-! # Percent-encoding

Each part of a URL has a set of characters that may not stand in it as they are. They are written
as the octets of their UTF-8 form, each a percent sign and two upper-case hexadecimal digits. A
percent sign itself is never encoded, so a part that is encoded already stays as it is. -/

namespace TokenGate.Percent

/-- Which ASCII characters a part of a URL encodes besides controls. -/
abbrev EncodeSet := List Char

def fragmentSet : EncodeSet := [' ', '"', '<', '>', '\x60']

def querySet : EncodeSet := [' ', '"', '#', '<', '>']

def specialQuerySet : EncodeSet := '\x27' :: querySet

def pathSet : EncodeSet := fragmentSet ++ ['#', '?', '^', '\x7b', '\x7d']

def userInfoSet : EncodeSet := pathSet ++ ['/', ':', ';', '=', '@', '[', '\\', ']', '|']

def controlSet : EncodeSet := []

/-- Controls and characters beyond ASCII are encoded everywhere, others as the set says. -/
def mustEncode (set : EncodeSet) (c : Char) : Bool :=
  c.toNat < 0x20 || 0x7F ≤ c.toNat || set.contains c

def upperHex (n : Nat) : Char :=
  if n < 10 then Char.ofNat (48 + n) else Char.ofNat (55 + n)

def encodeOctet (octet : UInt8) : List Char :=
  ['%', upperHex (octet.toNat / 16), upperHex (octet.toNat % 16)]

def encodeChar (set : EncodeSet) (c : Char) : List Char :=
  if mustEncode set c then (Text.encodeUtf8 (String.singleton c)).flatMap encodeOctet else [c]

def encode (set : EncodeSet) (cs : List Char) : List Char :=
  cs.flatMap (encodeChar set)

/-- The octets of some characters, a percent sign and two hexadecimal digits standing for one
octet. -/
def decode : List Char → List UInt8
  | [] => []
  | '%' :: a :: b :: rest =>
    match Text.hexDigit? a, Text.hexDigit? b with
    | some high, some low => (high * 16 + low).toUInt8 :: decode rest
    | _, _ => 0x25 :: decode (a :: b :: rest)
  | c :: rest => Text.encodeUtf8 (String.singleton c) ++ decode rest

end TokenGate.Percent
