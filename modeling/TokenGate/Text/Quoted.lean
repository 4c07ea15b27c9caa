import TokenGate.Text.Class

/-! # Quoted texts

The form in which a text stands inside messages and descriptions: between double quotes, with a
backslash before the quote and the backslash, letters for the common controls, and a numeric
escape for every other character that has no shape of its own. -/

namespace TokenGate.Text

/-- The numeric escape of a character: its code point in lower-case hexadecimal. -/
def numericEscape (c : Char) : List Char :=
  ['\\', 'u', '\x7b'] ++ Nat.toDigits 16 c.toNat ++ ['\x7d']

/-- The form of one character inside quotes. -/
def quotedChar (c : Char) : List Char :=
  if c == '\x00' then ['\\', '0']
  else if c == '\t' then ['\\', 't']
  else if c == '\n' then ['\\', 'n']
  else if c == '\r' then ['\\', 'r']
  else if c == '"' then ['\\', '"']
  else if c == '\\' then ['\\', '\\']
  else if isGraphemeExtend c then numericEscape c
  else if isPrintable c then [c]
  else numericEscape c

/-- A text between quotes. -/
def quoted (s : String) : String :=
  String.ofList ('"' :: s.toList.flatMap quotedChar ++ ['"'])

/-- A text that may be absent. -/
def quotedOption : Option String → String
  | none => "None"
  | some s => "Some(" ++ quoted s ++ ")"

end TokenGate.Text
