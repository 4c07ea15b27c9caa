import TokenGate.Net.Ipv4

/-! # IPv6 addresses

An address has eight pieces of sixteen bits. In its text a doubled colon stands for a run of zero
pieces, and the last two pieces may be an IPv4 address. -/

namespace TokenGate

/-- An IPv6 address. -/
structure Ipv6 where
  pieces : List UInt16
  length_pieces : pieces.length = 8
  deriving DecidableEq, Repr

namespace Ipv6

/-- A piece of one to four hexadecimal digits. -/
def piece? (s : String) : Option UInt16 :=
  if s.length ≤ 4 then (Text.numeral? 16 s.toList).map Nat.toUInt16 else none

def ofIpv4 (a : Ipv4) : List UInt16 :=
  [(a.bits.toNat / 65536).toUInt16, (a.bits.toNat % 65536).toUInt16]

/-- The pieces of texts between colons; the last text may be an IPv4 address. -/
def pieces? : List String → Option (List UInt16)
  | [] => some []
  | [last] => ((piece? last).map fun p => [p]).or ((Ipv4.ofDotted? last).map ofIpv4)
  | s :: rest => do return (← piece? s) :: (← pieces? rest)

def side (s : String) : List String :=
  if s == "" then [] else Text.splitAt ':' s

/-- The halves of a text at its first doubled colon. -/
def halves? : List Char → Option (List Char × List Char)
  | ':' :: ':' :: rest => some ([], rest)
  | c :: rest => (halves? rest).map fun h => (c :: h.1, h.2)
  | [] => none

/-- The address of exactly eight pieces. -/
def ofPieces? (ps : List UInt16) : Option Ipv6 :=
  if h : ps.length = 8 then some ⟨ps, h⟩ else none

/-- The address that a text spells. A doubled colon stands for at least one piece. -/
def ofText? (s : String) : Option Ipv6 :=
  match halves? s.toList with
  | none => (pieces? (Text.splitAt ':' s)).bind ofPieces?
  | some (left, right) => do
    let before ← (side (String.ofList left)).mapM piece?
    let after ← pieces? (side (String.ofList right))
    if before.length + after.length < 8 then
      ofPieces? (before ++ List.replicate (8 - before.length - after.length) 0 ++ after)
    else none

/-- The address of the machine itself is one. -/
def isLoopback (a : Ipv6) : Bool :=
  a.pieces == [0, 0, 0, 0, 0, 0, 0, 1]

/-- How many pieces in front are zero. -/
def zeros (ps : List UInt16) : Nat :=
  (ps.takeWhile (· == 0)).length

/-- Where the first of the longest runs of zeros begins, and how long it is. -/
def longestZeros (ps : List UInt16) : Nat × Nat :=
  (List.range ps.length).foldl
    (fun best i => let n := zeros (ps.drop i); if best.2 < n then (i, n) else best) (0, 0)

/-- Pieces in lower-case hexadecimal with colons between them. -/
def writePieces (ps : List UInt16) : String :=
  ":".intercalate (ps.map fun p => String.ofList (Nat.toDigits 16 p.toNat))

/-- The shortest text: a doubled colon for the first longest run of at least two zeros. -/
def write (a : Ipv6) : String :=
  let (start, count) := longestZeros a.pieces
  if 2 ≤ count then
    writePieces (a.pieces.take start) ++ "::" ++ writePieces (a.pieces.drop (start + count))
  else writePieces a.pieces

/-- The text in which an IPv4 address mapped into IPv6 stands in its own notation. -/
def writeMapped (a : Ipv6) : String :=
  match a.pieces with
  | [0, 0, 0, 0, 0, 0xFFFF, high, low] =>
    "::ffff:" ++ (Ipv4.mk (high.toNat * 65536 + low.toNat).toUInt32).write
  | _ => a.write

end Ipv6

end TokenGate
