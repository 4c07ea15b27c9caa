/-! # Digits and numerals -/

namespace TokenGate.Text

/-- The value of a hexadecimal digit. -/
def hexDigit? (c : Char) : Option Nat :=
  if c.isDigit then some (c.toNat - 48)
  else if 'a' ≤ c && c ≤ 'f' then some (c.toNat - 87)
  else if 'A' ≤ c && c ≤ 'F' then some (c.toNat - 55)
  else none

/-- The value of digits in a base of at most sixteen; there must be some. -/
def numeral? (base : Nat) (ds : List Char) : Option Nat :=
  if ds.isEmpty then none
  else ds.foldlM (fun n c => (hexDigit? c).bind fun d =>
    if d < base then some (n * base + d) else none) 0

/-- The natural number of decimal digits, which a plus sign may precede. -/
def natural? : List Char → Option Nat
  | '+' :: ds => numeral? 10 ds
  | ds => numeral? 10 ds

/-- The integer of decimal digits, which a sign may precede. -/
def integer? : List Char → Option Int
  | '-' :: ds => (numeral? 10 ds).map fun n => -Int.ofNat n
  | cs => (natural? cs).map Int.ofNat

end TokenGate.Text
