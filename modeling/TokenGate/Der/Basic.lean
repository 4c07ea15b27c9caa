import TokenGate.Octets

/-! # Distinguished encoding

Elements of a tag, a length and a content. Lengths are definite; whether a length must also be as
short as possible is up to the reader. -/

namespace TokenGate.Der

/-- The kind of a tag. -/
inductive TagClass where
  | universal
  | application
  | contextual
  | privateUse
  deriving DecidableEq, Repr

/-- A tagged content. -/
structure Element where
  tagClass : TagClass
  constructed : Bool
  tag : Nat
  content : List UInt8
  deriving DecidableEq, Repr

/-- The class in the two high bits of the first octet. -/
def TagClass.ofOctet (octet : UInt8) : TagClass :=
  match octet.toNat / 64 with
  | 0 => .universal
  | 1 => .application
  | 2 => .contextual
  | _ => .privateUse

/-- A tag number in base 128, at most `places` digits, most significant first. -/
def longTag? : (places : Nat) → Nat → List UInt8 → Option (Nat × List UInt8)
  | 0, _, _ => none
  | _, _, [] => none
  | places + 1, n, octet :: rest =>
    let n := n * 128 + octet.toNat % 128
    if octet < 0x80 then some (n, rest) else longTag? places n rest

/-- A definite length. A strict one uses the short form below 128 and no leading zero. -/
def length? (strict : Bool) : List UInt8 → Option (Nat × List UInt8)
  | [] => none
  | octet :: rest =>
    if octet < 0x80 then some (octet.toNat, rest)
    else
      let count := octet.toNat - 128
      if count == 0 || count == 127 || rest.length < count then none
      else
        let octets := rest.take count
        let n := Octets.natural octets
        if strict && (n < 128 || octets.head? == some 0) then none
        else some (n, rest.drop count)

/-- The first element of some octets, and the octets behind it. -/
def element? (strict : Bool) : List UInt8 → Option (Element × List UInt8)
  | [] => none
  | first :: rest => do
    let (tag, rest) ←
      if first.toNat % 32 == 31 then longTag? 5 0 rest else some (first.toNat % 32, rest)
    let (length, rest) ← length? strict rest
    if rest.length < length then none
    else
      some (⟨TagClass.ofOctet first, first.toNat / 32 % 2 == 1, tag, rest.take length⟩,
        rest.drop length)

/-- Universal tags. -/
def integerTag : Nat := 2
def bitStringTag : Nat := 3
def octetStringTag : Nat := 4
def nullTag : Nat := 5
def objectIdentifierTag : Nat := 6
def sequenceTag : Nat := 16
def utcTimeTag : Nat := 23
def generalizedTimeTag : Nat := 24

/-- An element of one tag number. -/
def tagged? (strict : Bool) (tag : Nat) (octets : List UInt8) : Option (Element × List UInt8) := do
  let (e, rest) ← element? strict octets
  if e.tag == tag then some (e, rest) else none

def primitive? (strict : Bool) (tag : Nat) (octets : List UInt8) :
    Option (List UInt8 × List UInt8) := do
  let (e, rest) ← tagged? strict tag octets
  if !e.constructed && e.tagClass == .universal then some (e.content, rest) else none

def sequence? (strict : Bool) (octets : List UInt8) : Option (List UInt8 × List UInt8) := do
  let (e, rest) ← tagged? strict sequenceTag octets
  if e.constructed && e.tagClass == .universal then some (e.content, rest) else none

/-- The octets of a bit string, whose unused bits are zero. -/
def bitString? (strict : Bool) (octets : List UInt8) : Option (Nat × List UInt8 × List UInt8) := do
  let (content, rest) ← primitive? strict bitStringTag octets
  match content with
  | [] => none
  | unused :: bits =>
    if 7 < unused.toNat then none
    else
      match bits.getLast? with
      | none => if unused == 0 then some (0, [], rest) else none
      | some last =>
        if last.toNat % Nat.pow 2 unused.toNat == 0 then some (unused.toNat, bits, rest) else none

end TokenGate.Der
