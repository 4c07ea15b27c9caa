/-! # Punycode

A way to write any text in ASCII letters, digits and hyphens: the ASCII characters come first, then
the places of the others as a row of numbers, every number in digits of base 36 whose least weight
adapts to the numbers before it. -/

namespace TokenGate.Text.Punycode

def digitChar (d : Nat) : Char :=
  if d < 26 then Char.ofNat (97 + d) else Char.ofNat (22 + d)

def digitValue? (c : Char) : Option Nat :=
  if 'a' ≤ c && c ≤ 'z' then some (c.toNat - 97)
  else if 'A' ≤ c && c ≤ 'Z' then some (c.toNat - 65)
  else if '0' ≤ c && c ≤ '9' then some (c.toNat - 22)
  else none

/-- The bound under which the digit at a place ends its number. -/
def threshold (place bias : Nat) : Nat :=
  if place ≤ bias then 1 else if bias + 26 ≤ place then 26 else place - bias

theorem threshold_pos (place bias : Nat) : 1 ≤ threshold place bias := by
  unfold threshold
  split
  · exact Nat.le_refl 1
  · split <;> omega

/-- A bias and the rest of a delta that was divided down. -/
def divideDown (delta bias : Nat) : Nat × Nat :=
  if 455 < delta then divideDown (delta / 35) (bias + 36) else (delta, bias)
termination_by delta
decreasing_by omega

/-- The bias behind a delta, when so many characters are placed. -/
def adapt (delta placed : Nat) (first : Bool) : Nat :=
  let scaled := if first then delta / 700 else delta / 2
  let (rest, bias) := divideDown (scaled + scaled / placed) 0
  bias + 36 * rest / (rest + 38)

/-- The digits of a number from a place on. -/
def digits (bias place n : Nat) : List Char :=
  let t := threshold place bias
  if n < t then [digitChar n]
  else digitChar (t + (n - t) % (36 - t)) :: digits bias (place + 36) ((n - t) / (36 - t))
termination_by n
decreasing_by
  have pos := threshold_pos place bias
  have := Nat.div_le_self (n - threshold place bias) (36 - threshold place bias)
  omega

/-- The writer between two characters: the digits so far, the delta since the last, the bias, and
how many characters are placed. -/
structure Writer where
  out : List Char
  delta : Nat
  bias : Nat
  placed : Nat

/-- A character of the text passes while the places of the code point `m` are written. -/
def Writer.pass (basic m : Nat) (w : Writer) (c : Char) : Writer :=
  if c.toNat < m then { w with delta := w.delta + 1 }
  else if c.toNat == m then
    ⟨w.out ++ digits w.bias 36 w.delta, 0, adapt w.delta (w.placed + 1) (w.placed == basic),
      w.placed + 1⟩
  else w

/-- The places of code points, given in ascending order, from the code point `n` on. -/
def Writer.run (cs : List Char) (basic : Nat) : List Nat → Nat → Writer → Writer
  | [], _, w => w
  | m :: rest, n, w =>
    let w := { w with delta := w.delta + (m - n) * (w.placed + 1) }
    let w := cs.foldl (Writer.pass basic m) w
    Writer.run cs basic rest (m + 1) { w with delta := w.delta + 1 }

/-- The code points beyond ASCII in ascending order, each once. -/
def extended (cs : List Char) : List Nat :=
  (((cs.map Char.toNat).filter (0x80 ≤ ·)).mergeSort (· ≤ ·)).eraseDups

def encode (cs : List Char) : List Char :=
  let basic := cs.filter fun c => c.toNat < 0x80
  let w := Writer.run cs basic.length (extended cs) 0x80 ⟨[], 0, 72, basic.length⟩
  basic ++ (if basic.isEmpty then [] else ['-']) ++ w.out

/-- The reader between two digits: the text so far, the last code point and the place behind it, the
bias, and the number being read with the place and weight of its next digit. -/
structure Reader where
  text : List Char
  code : Nat
  index : Nat
  bias : Nat
  number : Nat
  place : Nat
  weight : Nat

/-- A number has ended: its character is put at its place. -/
def Reader.insert? (r : Reader) : Option Reader :=
  let count := r.text.length + 1
  let total := r.index + r.number
  let code := r.code + total / count
  let index := total % count
  if code.isValidChar then
    some ⟨r.text.take index ++ Char.ofNat code :: r.text.drop index, code, index + 1,
      adapt r.number count (r.index == 0), 0, 36, 1⟩
  else none

/-- One digit. -/
def Reader.step? (r : Reader) (c : Char) : Option Reader := do
  let d ← digitValue? c
  let t := threshold r.place r.bias
  let r := { r with number := r.number + d * r.weight }
  if d < t then r.insert?
  else return { r with place := r.place + 36, weight := r.weight * (36 - t) }

/-- The parts of a written form before and behind its last hyphen. -/
def parts (cs : List Char) : List Char × List Char :=
  if cs.contains '-' then
    let behind := (cs.reverse.takeWhile (· != '-')).reverse
    (cs.take (cs.length - behind.length - 1), behind)
  else ([], cs)

def decode? (cs : List Char) : Option (List Char) := do
  let (basic, places) := parts cs
  let r ← places.foldlM Reader.step? ⟨basic, 0x80, 0, 72, 0, 36, 1⟩
  if basic.all (fun c => c.toNat < 0x80) && r.place == 36 then some r.text else none

end TokenGate.Text.Punycode
