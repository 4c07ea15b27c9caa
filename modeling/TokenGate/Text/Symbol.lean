/-! # Octets read as characters

A document arrives as octets that should be UTF-8. Reading them keeps what is not: every octet
that begins no well-formed character becomes a stray symbol of its own, so a reader can refuse it
where a text is kept and pass over it where nothing is. An ASCII octet is never part of a stray. -/

namespace TokenGate.Text

/-- A character, or an octet that belongs to no well-formed character. -/
inductive Symbol where
  | char (c : Char)
  | stray (octet : UInt8)
  deriving DecidableEq, Repr, Inhabited

/-- A continuation octet carries six bits. -/
def continuation? (octet : UInt8) : Option Nat :=
  if 0x80 ≤ octet && octet < 0xC0 then some (octet.toNat - 0x80) else none

/-- A code point that a sequence of some length may encode: at least the length's own least value,
and no surrogate. -/
def scalar? (least : Nat) (n : Nat) : Option Char :=
  if least ≤ n && decide n.isValidChar then some (Char.ofNat n) else none

def twoOctets? (a b : UInt8) : Option Char :=
  if 0xC0 ≤ a && a < 0xE0 then do
    scalar? 0x80 ((a.toNat - 0xC0) * 64 + (← continuation? b))
  else none

def threeOctets? (a b c : UInt8) : Option Char :=
  if 0xE0 ≤ a && a < 0xF0 then do
    scalar? 0x800 (((a.toNat - 0xE0) * 64 + (← continuation? b)) * 64 + (← continuation? c))
  else none

def fourOctets? (a b c d : UInt8) : Option Char :=
  if 0xF0 ≤ a && a < 0xF8 then do
    scalar? 0x10000 ((((a.toNat - 0xF0) * 64 + (← continuation? b)) * 64
      + (← continuation? c)) * 64 + (← continuation? d))
  else none

/-- Octets as symbols, taking at each place the one well-formed sequence that begins there. -/
def symbols : List UInt8 → List Symbol
  | [] => []
  | a :: rest =>
    if a < 0x80 then .char (Char.ofUInt8 a) :: symbols rest
    else
      match rest with
      | b :: c :: d :: rest' =>
        match twoOctets? a b, threeOctets? a b c, fourOctets? a b c d with
        | some x, _, _ => .char x :: symbols (c :: d :: rest')
        | none, some x, _ => .char x :: symbols (d :: rest')
        | none, none, some x => .char x :: symbols rest'
        | none, none, none => .stray a :: symbols (b :: c :: d :: rest')
      | [b, c] =>
        match twoOctets? a b, threeOctets? a b c with
        | some x, _ => .char x :: symbols [c]
        | none, some x => [.char x]
        | none, none => .stray a :: symbols [b, c]
      | [b] =>
        match twoOctets? a b with
        | some x => [.char x]
        | none => .stray a :: symbols [b]
      | [] => [.stray a]
termination_by octets => octets.length

def ofText (s : String) : List Symbol :=
  s.toList.map Symbol.char

/-- The character of a symbol that is not stray. -/
def Symbol.char? : Symbol → Option Char
  | .char c => some c
  | .stray _ => none

/-- The text that symbols spell, unless one of them is stray. -/
def text? (ss : List Symbol) : Option String :=
  (ss.mapM Symbol.char?).map String.ofList

/-- The text that octets encode, if they are well-formed throughout. -/
def decodeUtf8? (octets : List UInt8) : Option String :=
  text? (symbols octets)

def encodeUtf8 (s : String) : List UInt8 :=
  s.toUTF8.toList

end TokenGate.Text
