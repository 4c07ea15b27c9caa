import TokenGate.Der.Basic

/-! # Certificates

Just enough of an X.509 certificate to reach the subject's public key. Every part before and after
the key must have its shape, but names, extension values and signatures are not looked into. -/

namespace TokenGate.Der

/-- A subject's public key: the identifier of its algorithm and the octets of the key. -/
structure SubjectKey where
  algorithm : List UInt8
  key : List UInt8
  deriving DecidableEq, Repr

/-- The encoded identifier of RSA encryption keys, 1.2.840.113549.1.1.1. -/
def rsaEncryption : List UInt8 := [0x2A, 0x86, 0x48, 0x86, 0xF7, 0x0D, 0x01, 0x01, 0x01]

/-- An algorithm identifier: an object identifier, then at most one parameter. -/
def algorithmIdentifier? (octets : List UInt8) : Option (List UInt8 × List UInt8) := do
  let (content, rest) ← sequence? false octets
  let (algorithm, parameters) ← primitive? false objectIdentifierTag content
  if !parameters.isEmpty then discard (element? false parameters)
  return (algorithm, rest)

def twoDigits? : List UInt8 → Option (Nat × List UInt8)
  | a :: b :: rest =>
    if 0x30 ≤ a && a ≤ 0x39 && 0x30 ≤ b && b ≤ 0x39 then
      some ((a.toNat - 0x30) * 10 + (b.toNat - 0x30), rest)
    else none
  | _ => none

/-- A zone: `Z`, or hours and minutes ahead or behind. -/
def isZone : List UInt8 → Bool
  | [0x5A] => true
  | sign :: rest =>
    (sign == 0x2B || sign == 0x2D) &&
      match twoDigits? rest with
      | some (hours, rest) =>
        match twoDigits? rest with
        | some (minutes, []) => hours ≤ 23 && minutes ≤ 59
        | _ => false
      | none => false
  | [] => false

def daysInMonth (year month : Nat) : Nat :=
  match month with
  | 2 => if year % 4 == 0 && (year % 100 != 0 || year % 400 == 0) then 29 else 28
  | 4 | 6 | 9 | 11 => 30
  | _ => 31

def isDate (year month day : Nat) : Bool :=
  1 ≤ month && month ≤ 12 && 1 ≤ day && day ≤ daysInMonth year month

/-- A time with a year of two digits, seconds optional. -/
def isUtcTime (content : List UInt8) : Bool :=
  let checked : Option Bool := do
    let (year, rest) ← twoDigits? content
    let (month, rest) ← twoDigits? rest
    let (day, rest) ← twoDigits? rest
    let (hour, rest) ← twoDigits? rest
    let (minute, rest) ← twoDigits? rest
    let year := if 50 ≤ year then 1900 + year else 2000 + year
    let (second, rest) :=
      match twoDigits? rest with
      | some r => r
      | none => (0, rest)
    return isDate year month day && hour ≤ 23 && minute ≤ 59 && second ≤ 59 && isZone rest
  checked.getD false

/-- A fraction of a second: a point or comma and digits. -/
def withoutFraction : List UInt8 → List UInt8
  | 0x2E :: rest => rest.dropWhile fun octet => 0x30 ≤ octet && octet ≤ 0x39
  | 0x2C :: rest => rest.dropWhile fun octet => 0x30 ≤ octet && octet ≤ 0x39
  | rest => rest

/-- A time with a year of four digits; minutes, seconds, fraction and zone are optional. -/
def isGeneralizedTime (content : List UInt8) : Bool :=
  let checked : Option Bool := do
    let (century, rest) ← twoDigits? content
    let (year, rest) ← twoDigits? rest
    let (month, rest) ← twoDigits? rest
    let (day, rest) ← twoDigits? rest
    let (hour, rest) ← twoDigits? rest
    let (minute, rest) := (twoDigits? rest).getD (0, rest)
    let (second, rest) := (twoDigits? rest).getD (0, rest)
    let rest := withoutFraction rest
    return isDate (century * 100 + year) month day && hour ≤ 23 && minute ≤ 59 && second ≤ 59
      && (rest.isEmpty || isZone rest)
  checked.getD false

def time? (octets : List UInt8) : Option (List UInt8) := do
  let (e, rest) ← element? false octets
  if e.tagClass == .universal && !e.constructed
      && ((e.tag == utcTimeTag && isUtcTime e.content)
        || (e.tag == generalizedTimeTag && isGeneralizedTime e.content)) then
    some rest
  else none

/-- A version is a number of at most 32 bits in the shortest form. -/
def isVersion (octets : List UInt8) : Bool :=
  match primitive? false integerTag octets with
  | some (content, _) =>
    match content with
    | [] => false
    | [a] => a < 0x80
    | a :: b :: rest =>
      a < 0x80 && !(a == 0 && b < 0x80) && (rest.length ≤ 2 || (a == 0 && rest.length ≤ 3))
  | none => false

/-- The octets behind an optional part with a contextual tag; a part with the tag must pass. -/
def optionalPart? (tag : Nat) (pass : List UInt8 → Bool) (octets : List UInt8) :
    Option (List UInt8) :=
  if octets.isEmpty then some octets
  else do
    let (e, rest) ← element? false octets
    if e.tag == tag && e.tagClass == .contextual then
      if pass e.content then some rest else none
    else some octets

def withoutBoolean (octets : List UInt8) : List UInt8 :=
  match element? false octets with
  | some (e, rest) =>
    if e.tagClass == .universal && e.tag == 1 && !e.constructed && e.content.length == 1 then rest
    else octets
  | none => octets

/-- An extension: an identifier, an optional truth value, and a value. -/
def isExtension (content : List UInt8) : Bool :=
  match primitive? false objectIdentifierTag content with
  | some (_, rest) => (primitive? false octetStringTag (withoutBoolean rest)).isSome
  | none => false

/-- Extensions one after another, to the end; `fuel` bounds their number. -/
def allExtensions : (fuel : Nat) → List UInt8 → Bool
  | _, [] => true
  | 0, _ => false
  | fuel + 1, octets =>
    match sequence? false octets with
    | some (content, rest) => isExtension content && allExtensions fuel rest
    | none => false

/-- What may follow the key in the signed part: nothing, or one sequence of extensions. -/
def isExtensionsPart (octets : List UInt8) : Bool :=
  if octets.isEmpty then true
  else
    match octets with
    | [] => true
    | first :: rest =>
      if first.toNat % 32 == 3 then
        match length? false rest with
        | some (_, rest) =>
          match sequence? false rest with
          | some (content, []) => allExtensions content.length content
          | _ => false
        | none => false
      else false

def subjectKey? (octets : List UInt8) : Option (SubjectKey × List UInt8) := do
  let (content, rest) ← sequence? false octets
  let (algorithm, content) ← algorithmIdentifier? content
  let (_, key, _) ← bitString? false content
  return (⟨algorithm, key⟩, rest)

/-- A bit string under an implicit tag. -/
def isBitContent (content : List UInt8) : Bool :=
  match content with
  | [] => false
  | unused :: bits =>
    match bits.getLast? with
    | none => unused == 0
    | some last => unused.toNat ≤ 7 && last.toNat % Nat.pow 2 unused.toNat == 0

/-- The subject's public key in the signed part of a certificate. -/
def signedPart? (octets : List UInt8) : Option SubjectKey := do
  let octets ← optionalPart? 0 isVersion octets
  let (_, octets) ← tagged? false integerTag octets
  let (_, octets) ← algorithmIdentifier? octets
  let (_, octets) ← sequence? false octets
  let (validity, octets) ← sequence? false octets
  let afterStart ← time? validity
  discard (time? afterStart)
  let (_, octets) ← sequence? false octets
  let (key, octets) ← subjectKey? octets
  let octets ← optionalPart? 1 isBitContent octets
  let octets ← optionalPart? 2 isBitContent octets
  if isExtensionsPart octets then some key else none

/-- The subject's public key of a certificate; what follows the certificate is ignored. -/
def certificateKey? (octets : List UInt8) : Option SubjectKey := do
  let (content, _) ← sequence? false octets
  let (signed, rest) ← sequence? false content
  let key ← signedPart? signed
  let (_, rest) ← algorithmIdentifier? rest
  discard (bitString? false rest)
  return key

end TokenGate.Der
