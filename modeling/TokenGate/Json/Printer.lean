import TokenGate.Json.Basic
import TokenGate.Decimal.Shortest

/-! # Writing JSON

Compact JSON: no blanks, members in order, the fewest escapes. -/

namespace TokenGate.Json

/-- How a magnitude is laid out from its shortest digits. -/
structure Layout where
  /-- The least index of the leading digit that is written with a point in place. -/
  leastPositional : Int
  /-- The greatest such index. -/
  greatestPositional : Int
  deriving Repr

/-- Magnitudes from `1e-5` up to below `1e16` are written in place, always with a point; the others
with an exponent that shows its sign. -/
def layout : Layout := ⟨-5, 15⟩

def digits (n : Nat) : List Char := Nat.toDigits 10 n

def Layout.write (l : Layout) (x : Decimal.Binary64) : List Char :=
  let s := x.shortest
  let ds := digits s.digits
  if s.digits == 0 then ['0', '.', '0']
  else
    let lead : Int := s.exponent + ds.length - 1
    if l.leastPositional ≤ lead && lead ≤ l.greatestPositional then
      if 0 ≤ s.exponent then ds ++ List.replicate s.exponent.toNat '0' ++ ['.', '0']
      else if 0 ≤ lead then
        ds.take (lead.toNat + 1) ++ '.' :: ds.drop (lead.toNat + 1)
      else '0' :: '.' :: List.replicate (-lead - 1).toNat '0' ++ ds
    else
      let mantissa :=
        match ds with
        | d :: rest@(_ :: _) => d :: '.' :: rest
        | _ => ds
      let sign := if lead < 0 then '-' else '+'
      mantissa ++ 'e' :: sign :: digits lead.natAbs

def Number.write : Number → List Char
  | .natural n => digits n.toNat
  | .negative n => '-' :: digits n.toNat
  | .real isNegative x => (if isNegative then ['-'] else []) ++ layout.write x

/-- The form of one character inside a text. -/
def escapedChar (c : Char) : List Char :=
  if c == '"' then ['\\', '"']
  else if c == '\\' then ['\\', '\\']
  else if c == '\x08' then ['\\', 'b']
  else if c == '\x0c' then ['\\', 'f']
  else if c == '\n' then ['\\', 'n']
  else if c == '\r' then ['\\', 'r']
  else if c == '\t' then ['\\', 't']
  else if c.toNat < 0x20 then
    ['\\', 'u', '0', '0', (c.toNat / 16).digitChar, (c.toNat % 16).digitChar]
  else [c]

def writeText (s : String) : List Char :=
  '"' :: s.toList.flatMap escapedChar ++ ['"']

mutual

def chars : Json → List Char
  | .null => ['n', 'u', 'l', 'l']
  | .bool true => ['t', 'r', 'u', 'e']
  | .bool false => ['f', 'a', 'l', 's', 'e']
  | .number n => n.write
  | .text s => writeText s
  | .list items => '[' :: itemChars items ++ [']']
  | .record members => '\x7b' :: memberChars members ++ ['\x7d']

def itemChars : List Json → List Char
  | [] => []
  | [j] => chars j
  | j :: rest => chars j ++ ',' :: itemChars rest

def memberChars : List (String × Json) → List Char
  | [] => []
  | [(name, j)] => writeText name ++ ':' :: chars j
  | (name, j) :: rest => writeText name ++ ':' :: chars j ++ ',' :: memberChars rest

end

def write (j : Json) : String := String.ofList (chars j)

end TokenGate.Json
