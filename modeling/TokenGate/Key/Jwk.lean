import TokenGate.Json.Fields
import TokenGate.Json.Printer

/-! # JSON web keys

The public members of a key entry. Reading accepts a record or a list of the members in order,
passes over other members, and takes `null` for absent; writing names only the members that are
there, in their order. -/

namespace TokenGate

/-- A key entry. -/
structure Jwk where
  kty : String := ""
  kid : Option String := none
  use : Option String := none
  alg : Option String := none
  n : Option String := none
  e : Option String := none
  crv : Option String := none
  x : Option String := none
  y : Option String := none
  x5c : Option (List String) := none
  deriving DecidableEq, Repr

namespace Jwk

def memberNames : List String := ["kty", "kid", "use", "alg", "n", "e", "crv", "x", "y", "x5c"]

/-- The entry that a value describes. The key type is empty when missing, but not `null`. -/
def ofJson? (j : Json) : Option Jwk := do
  let fields ← j.fields? memberNames
  let text (name : String) : Option (Option String) :=
    Json.optional? Json.text? (fields.get? memberNames name)
  let kty ← Json.defaulted? Json.text? "" (fields.get? memberNames "kty")
  let kid ← text "kid"
  let use ← text "use"
  let alg ← text "alg"
  let n ← text "n"
  let e ← text "e"
  let crv ← text "crv"
  let x ← text "x"
  let y ← text "y"
  let x5c ← Json.optional? Json.texts? (fields.get? memberNames "x5c")
  return ⟨kty, kid, use, alg, n, e, crv, x, y, x5c⟩

/-- A member that is written only if it is there. -/
def member (name : String) (value : Option Json) : List (String × Json) :=
  match value with
  | some j => [(name, j)]
  | none => []

def toJson (k : Jwk) : Json :=
  .record <|
    [("kty", .text k.kty)]
      ++ member "kid" (k.kid.map .text)
      ++ member "use" (k.use.map .text)
      ++ member "alg" (k.alg.map .text)
      ++ member "n" (k.n.map .text)
      ++ member "e" (k.e.map .text)
      ++ member "crv" (k.crv.map .text)
      ++ member "x" (k.x.map .text)
      ++ member "y" (k.y.map .text)
      ++ member "x5c" (k.x5c.map fun certificates => .list (certificates.map .text))

def write (k : Jwk) : String := k.toJson.write

end Jwk

end TokenGate
