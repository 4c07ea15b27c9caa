import TokenGate.Json.Basic
import TokenGate.Text.Digits
import TokenGate.Text.Symbol

/-! # JSON tokens

A document is cut into tokens one symbol at a time. Whether a text or a number can be kept is part
of its token: a text that holds a stray octet or half a surrogate pair, and a number beyond the
greatest finite magnitude, are tokens without content. Such a token may stand where its value is
passed over. A malformed escape, an unescaped control or a malformed number is no token at all. -/

namespace TokenGate.Json

open TokenGate.Text (Symbol)

/-- A token; a text or number without content cannot be kept. -/
inductive Token where
  | beginList
  | endList
  | beginRecord
  | endRecord
  | comma
  | colon
  | null
  | bool (b : Bool)
  | text (content : Option String)
  | number (content : Option Number)
  deriving DecidableEq, Repr

def isSpace (c : Char) : Bool :=
  c == ' ' || c == '\n' || c == '\t' || c == '\r'

/-- The tokens of one character. -/
def punctuation? (c : Char) : Option Token :=
  if c == '[' then some .beginList
  else if c == ']' then some .endList
  else if c == '\x7b' then some .beginRecord
  else if c == '\x7d' then some .endRecord
  else if c == ',' then some .comma
  else if c == ':' then some .colon
  else none

/-- A part of a text between its quotes. -/
inductive Piece where
  /-- A character written as itself or by a short escape. -/
  | plain (c : Char)
  /-- A sixteen-bit code written in hexadecimal. -/
  | code (n : Nat)
  /-- An octet that is no character. -/
  | stray
  deriving DecidableEq, Repr

def isHighSurrogate (n : Nat) : Bool := 0xD800 ≤ n && n ≤ 0xDBFF

def isLowSurrogate (n : Nat) : Bool := 0xDC00 ≤ n && n ≤ 0xDFFF

/-- The characters that pieces spell: surrogates must come in pairs, strays spell nothing. -/
def characters? : List Piece → Option (List Char)
  | [] => some []
  | .plain c :: rest => (characters? rest).map (c :: ·)
  | .stray :: _ => none
  | .code n :: rest =>
    if isHighSurrogate n then
      match rest with
      | .code m :: rest' =>
        if isLowSurrogate m then
          (characters? rest').map
            (Char.ofNat (0x10000 + (n - 0xD800) * 0x400 + (m - 0xDC00)) :: ·)
        else none
      | _ => none
    else if isLowSurrogate n then none
    else (characters? rest).map (Char.ofNat n :: ·)

/-- The character of a short escape, named by the character behind the backslash. -/
def shortEscape? (c : Char) : Option Char :=
  if c == '"' then some '"'
  else if c == '\\' then some '\\'
  else if c == '/' then some '/'
  else if c == 'b' then some '\x08'
  else if c == 'f' then some '\x0c'
  else if c == 'n' then some '\n'
  else if c == 'r' then some '\r'
  else if c == 't' then some '\t'
  else none

/-- The value of decimal digits read after `start`. -/
def digitsFrom (start : Nat) (digits : List Char) : Nat :=
  digits.foldl (fun n c => n * 10 + (c.toNat - 48)) start

/-- The greatest significand that is kept exactly. -/
def significandLimit : Nat := UInt64.size - 1

/-- Digits taken into a significand while it stays within its limit, and how many were taken. -/
def takeDigits (significand : Nat) : List Char → Nat × Nat
  | [] => (significand, 0)
  | c :: rest =>
    let next := significand * 10 + (c.toNat - 48)
    if next ≤ significandLimit then
      let (s, taken) := takeDigits next rest
      (s, taken + 1)
    else (significand, 0)

/-- The parts of a number as written. -/
structure Literal where
  isNegative : Bool
  whole : List Char
  fraction : Option (List Char)
  exponent : Option (Bool × List Char)
  deriving DecidableEq, Repr

/-- A run of at least one digit at the front, and what follows it. -/
def digitRun? (cs : List Char) : Option (List Char × List Char) :=
  match cs.takeWhile Char.isDigit with
  | [] => none
  | digits => some (digits, cs.dropWhile Char.isDigit)

/-- The exponent part: its sign and its digits. -/
def exponentPart? : List Char → Option (Option (Bool × List Char))
  | [] => some none
  | c :: rest =>
    if c == 'e' || c == 'E' then
      let (isNegative, digits) :=
        match rest with
        | '+' :: ds => (false, ds)
        | '-' :: ds => (true, ds)
        | ds => (false, ds)
      match digitRun? digits with
      | some (ds, []) => some (some (isNegative, ds))
      | _ => none
    else none

/-- The parts of a number: no leading zero, and digits on both sides of a point. -/
def literal? (cs : List Char) : Option Literal := do
  let (isNegative, cs) :=
    match cs with
    | '-' :: rest => (true, rest)
    | _ => (false, cs)
  let (whole, rest) ← digitRun? cs
  if whole.head? == some '0' && whole.length != 1 then none
  match rest with
  | '.' :: rest =>
    let (fraction, rest) ← digitRun? rest
    return ⟨isNegative, whole, some fraction, ← exponentPart? rest⟩
  | _ => return ⟨isNegative, whole, none, ← exponentPart? rest⟩

/-- The greatest exponent that is read digit by digit. -/
def exponentLimit : Nat := Nat.pow 2 31 - 1

/-- The magnitude of a significand and an exponent part. An exponent beyond its limit gives zero
when it is negative or the significand is zero, and no value otherwise. -/
def magnitude? (significand : Nat) (scale : Int) :
    Option (Bool × List Char) → Option Decimal.Binary64
  | none => Decimal.Binary64.ofScaled? significand scale
  | some (isNegative, digits) =>
    let exponent := digitsFrom 0 digits
    if exponentLimit < exponent then
      if isNegative || significand == 0 then some Decimal.Binary64.zero else none
    else
      Decimal.Binary64.ofScaled? significand
        (if isNegative then scale - exponent else scale + exponent)

/-- The number that a literal stands for, unless it is beyond the greatest finite magnitude. An
integer within the 64-bit ranges is kept exactly. Any other number has at most twenty significant
digits: those that no longer fit the significand only count as places. -/
def Literal.number? (l : Literal) : Option Number :=
  let (whole, takenWhole) := takeDigits 0 l.whole
  let dropped := l.whole.length - takenWhole
  match l.fraction, l.exponent with
  | none, none =>
    if dropped == 0 then
      if !l.isNegative then some (.natural whole.toUInt64)
      else if 0 < whole && whole ≤ Nat.pow 2 63 then some (.negative whole.toUInt64)
      else (Decimal.Binary64.ofScaled? whole 0).map (.real true)
    else (Decimal.Binary64.ofScaled? whole dropped).map (.real l.isNegative)
  | none, exponent => (magnitude? whole dropped exponent).map (.real l.isNegative)
  | some fraction, exponent =>
    let (significand, takenFraction) := takeDigits whole fraction
    (magnitude? significand ((dropped : Int) - takenFraction) exponent).map (.real l.isNegative)

/-- A run of characters outside texts that is neither blank nor punctuation. -/
def word? (cs : List Char) : Option Token :=
  if cs == ['n', 'u', 'l', 'l'] then some .null
  else if cs == ['t', 'r', 'u', 'e'] then some (.bool true)
  else if cs == ['f', 'a', 'l', 's', 'e'] then some (.bool false)
  else (literal? cs).map fun l => .number l.number?

/-- Characters that words are made of. -/
def isWordChar (c : Char) : Bool :=
  c.isAlphanum || c == '-' || c == '+' || c == '.'

/-- What has been begun when a symbol arrives; lists are in reverse. -/
inductive Mode where
  | between
  | word (chars : List Char)
  | text (pieces : List Piece)
  | escape (pieces : List Piece)
  | hex (pieces : List Piece) (count : Nat) (value : Nat)
  deriving DecidableEq, Repr

/-- One character between tokens. -/
def begin? (c : Char) : Option (List Token × Mode) :=
  if isSpace c then some ([], .between)
  else if c == '"' then some ([], .text [])
  else
    match punctuation? c with
    | some t => some ([t], .between)
    | none => if isWordChar c then some ([], .word [c]) else none

/-- The content of a text, given its pieces in reverse. -/
def textToken (pieces : List Piece) : Token :=
  .text ((characters? pieces.reverse).map String.ofList)

/-- One symbol: the tokens it completes and what is begun after it. -/
def step? : Mode → Symbol → Option (List Token × Mode)
  | .between, .char c => begin? c
  | .word chars, .char c =>
    if isWordChar c then some ([], .word (c :: chars))
    else do
      let t ← word? chars.reverse
      let (ts, mode) ← begin? c
      return (t :: ts, mode)
  | .text pieces, .char c =>
    if c == '"' then some ([textToken pieces], .between)
    else if c == '\\' then some ([], .escape pieces)
    else if c.toNat < 0x20 then none
    else some ([], .text (.plain c :: pieces))
  | .text pieces, .stray _ => some ([], .text (.stray :: pieces))
  | .escape pieces, .char c =>
    if c == 'u' then some ([], .hex pieces 0 0)
    else (shortEscape? c).map fun e => ([], .text (.plain e :: pieces))
  | .hex pieces count value, .char c => do
    let d ← Text.hexDigit? c
    let value := value * 16 + d
    if count == 3 then return ([], .text (.code value :: pieces))
    else return ([], .hex pieces (count + 1) value)
  | _, .stray _ => none

/-- What the end of the document completes. -/
def finish? : Mode → Option (List Token)
  | .between => some []
  | .word chars => (word? chars.reverse).map fun t => [t]
  | _ => none

/-- The tokens of the symbols that follow, behind those already found in reverse. -/
def tokensFrom? (mode : Mode) (found : List Token) : List Symbol → Option (List Token)
  | [] => (finish? mode).map fun ts => found.reverse ++ ts
  | s :: rest =>
    match step? mode s with
    | some (ts, mode') => tokensFrom? mode' (ts.reverse ++ found) rest
    | none => none

def tokens? (document : List Symbol) : Option (List Token) :=
  tokensFrom? .between [] document

end TokenGate.Json
