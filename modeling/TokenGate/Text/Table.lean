import TokenGate.Text.Blank
import TokenGate.Text.Digits

/-! # Tables of code points

A table is written as lines of records with blanks between them; a record is a list of hexadecimal
numbers with commas between them. -/

namespace TokenGate.Text

def recordNumbers (record : List Char) : List Nat :=
  (pieces (· == ',') record).filterMap (numeral? 16)

def records (table : List String) : List (List Nat) :=
  table.flatMap fun line => (wordChars line.toList).map recordNumbers

end TokenGate.Text
