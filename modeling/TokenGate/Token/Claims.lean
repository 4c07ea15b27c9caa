import TokenGate.Json.Fields
import TokenGate.Json.Printer

/-! # Claims

The payload of a token as it is written, and the claims of an accepted token as they are handed on.
Members of the payload without a meaning here are extra claims: they keep their order, and a
repeated one its first place and last value. -/

namespace TokenGate

/-- Whom a token is meant for: one name, or a list. -/
inductive Audience where
  | single (name : String)
  | many (names : List String)
  deriving DecidableEq, Repr

namespace Audience

/-- The audience of a value. -/
def ofJson? : Json → Option Audience
  | .text name => some (.single name)
  | j => j.texts?.map .many

def names : Audience → List String
  | single name => [name]
  | many names => names

def contains (a : Audience) (name : String) : Bool := a.names.contains name

/-- Which of the two forms it has. -/
def variant : Audience → String
  | single _ => "Single"
  | many _ => "Many"

/-- The value of an audience, in its form. -/
def toJson : Audience → Json
  | single name => .text name
  | many names => .list (names.map .text)

end Audience

/-- The claims of a payload, each possibly absent. -/
structure Payload where
  sub : Option String
  iss : Option String
  aud : Option Audience
  exp : Option UInt64
  nbf : Option UInt64
  iat : Option UInt64
  jti : Option String
  extra : List (String × Json)
  deriving Repr

namespace Payload

def claimNames : List String := ["sub", "iss", "aud", "exp", "nbf", "iat", "jti"]

/-- The payload of a document: a record in which a claim with a meaning occurs at most once. -/
def ofOctets? (document : List UInt8) : Option Payload := do
  let raw ← Json.raw? (Text.symbols document)
  let members ← (← raw.members?).mapM fun (name, v) => do
    return (name, ← v.value? (Json.depthLimit - 1))
  let once := claimNames.all fun name => (members.filter fun m => m.1 == name).length ≤ 1
  let claim (name : String) : Option Json := Json.lookup? members name
  if once then do
    let sub ← Json.optional? Json.text? (claim "sub")
    let iss ← Json.optional? Json.text? (claim "iss")
    let aud ← Json.optional? Audience.ofJson? (claim "aud")
    let exp ← Json.optional? Json.natural? (claim "exp")
    let nbf ← Json.optional? Json.natural? (claim "nbf")
    let iat ← Json.optional? Json.natural? (claim "iat")
    let jti ← Json.optional? Json.text? (claim "jti")
    let extra := Json.lastValues (members.filter fun m => !claimNames.contains m.1)
    return ⟨sub, iss, aud, exp, nbf, iat, jti, extra⟩
  else none

end Payload

/-- The claims of an accepted token. -/
structure Claims where
  subject : String
  issuer : String
  audience : List String
  expiresAt : UInt64
  notBefore : Option UInt64
  issuedAt : Option UInt64
  tokenId : Option String
  keyId : String
  extra : List (String × Json)
  deriving Repr

namespace Claims

/-- A moment as a value. -/
def moment (m : UInt64) : Json := .number (.natural m)

/-- The claims as members: those with a meaning first, then the extra ones as they are. -/
def members (c : Claims) : List (String × Json) :=
  [("subject", .text c.subject), ("issuer", .text c.issuer),
    ("audience", .list (c.audience.map .text)), ("expires_at", moment c.expiresAt)]
    ++ ((c.notBefore.map fun m => ("not_before", moment m)).toList)
    ++ ((c.issuedAt.map fun m => ("issued_at", moment m)).toList)
    ++ ((c.tokenId.map fun s => ("token_id", Json.text s)).toList)
    ++ [("key_id", .text c.keyId)] ++ c.extra

def write (c : Claims) : String := (Json.record c.members).write

end Claims

end TokenGate
