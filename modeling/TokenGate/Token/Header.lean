import TokenGate.Key.Algorithm
import TokenGate.Json.Fields

/-! # Token headers

A header is a record with an algorithm. Its registered members must have their types, a key in it
must be one, and every other member must be a text; of all that, only the algorithm and the key id
matter further on. -/

namespace TokenGate

/-- What a header says about the signature. -/
structure TokenHeader where
  algorithm : Algorithm
  kid : Option String
  deriving DecidableEq, Repr

namespace TokenHeader

def textMembers : List String :=
  ["typ", "cty", "jku", "kid", "x5u", "x5t", "x5t#S256", "enc", "zip", "url", "nonce"]

def listMembers : List String := ["x5c", "crit"]

def registered : List String := "alg" :: "jwk" :: textMembers ++ listMembers

/-- A value that is `null` or passes. -/
def nullOr (pass : Json → Bool) (j : Json) : Bool :=
  match j with
  | .null => true
  | _ => pass j

def isText (j : Json) : Bool := j.text?.isSome

def isTexts (j : Json) : Bool := j.texts?.isSome

/-- Curves a key in a header may be on. -/
def curves : List String := ["P-256", "P-384", "P-521", "Ed25519"]

/-- The member of a name is there, once, and passes. -/
def has (members : List (String × Json)) (name : String) (pass : Json → Bool) : Bool :=
  match members.filter fun m => m.1 == name with
  | [(_, j)] => pass j
  | _ => false

/-- The member of a name is absent, or there once and passes. -/
def mayHave (members : List (String × Json)) (name : String) (pass : Json → Bool) : Bool :=
  match members.filter fun m => m.1 == name with
  | [] => true
  | [(_, j)] => pass j
  | _ => false

/-- A choice among some names. -/
def isChoice (names : List String) (j : Json) : Bool :=
  match Json.choice? j with
  | some name => names.contains name
  | none => false

/-- The members that every key may have are well-typed. -/
def hasCommonMembers (members : List (String × Json)) : Bool :=
  mayHave members "use" (nullOr isText)
    && mayHave members "key_ops"
      (nullOr fun j => (j.items?.map fun items => items.all isText).getD false)
    && mayHave members "alg" (nullOr fun j => (Json.choice? j).isSome)
    && ["kid", "x5u", "x5t", "x5t#S256"].all (fun name => mayHave members name (nullOr isText))
    && mayHave members "x5c" (nullOr isTexts)

/-- The members of one of the four kinds of keys are there. -/
def hasKeyMembers (members : List (String × Json)) : Bool :=
  (has members "kty" (isChoice ["EC"]) && has members "crv" (isChoice curves)
      && has members "x" isText && has members "y" isText)
    || (has members "kty" (isChoice ["RSA"]) && has members "n" isText && has members "e" isText)
    || (has members "kty" (isChoice ["oct"]) && has members "k" isText)
    || (has members "kty" (isChoice ["OKP"]) && has members "crv" (isChoice curves)
      && has members "x" isText)

/-- A record of a key. -/
def isKeyRecord (members : List (String × Json)) : Bool :=
  hasCommonMembers members && hasKeyMembers members

/-- Every value of a raw record kept, repeated names included. -/
def keptMembers? (raw : Json.Raw) (depth : Nat) : Option (List (String × Json)) := do
  (← raw.members?).mapM fun (name, v) => do return (name, ← v.value? depth)

/-- A key in a header, which may be `null`. -/
def isKey (raw : Json.Raw) : Bool :=
  match raw with
  | .null => true
  | _ =>
    match keptMembers? raw (Json.depthLimit - 2) with
    | some members => isKeyRecord members
    | none => false

/-- A member other than the algorithm and the key has its type. -/
def isMember (name : String) (j : Json) : Bool :=
  if textMembers.contains name then nullOr isText j
  else if listMembers.contains name then nullOr isTexts j
  else isText j

/-- The header of a document. A registered member may be there once. -/
def ofOctets? (document : List UInt8) : Option TokenHeader := do
  let raw ← Json.raw? (Text.symbols document)
  let rawMembers ← raw.members?
  let members ← keptMembers? raw (Json.depthLimit - 1)
  let once := registered.all fun name => (members.filter fun m => m.1 == name).length ≤ 1
  let keys := (rawMembers.filter fun m => m.1 == "jwk").all fun m => isKey m.2
  let others := members.filter fun m => m.1 != "alg" && m.1 != "jwk"
  if once && keys && others.all fun m => isMember m.1 m.2 then do
    let algorithm ← Algorithm.ofName? (← Json.choice? (← Json.lookup? members "alg"))
    return ⟨algorithm, (Json.lookup? members "kid").bind Json.text?⟩
  else none

end TokenHeader

end TokenGate
