import TokenGate.Crypto.Sha2

/-! # Signature algorithms

The algorithms a token header may name. A key verifies exactly one of the RSA or elliptic-curve
ones; symmetric ones and EdDSA can be named but never verified. -/

namespace TokenGate

/-- The algorithms of token headers. -/
inductive Algorithm where
  | hs256
  | hs384
  | hs512
  | es256
  | es384
  | rs256
  | rs384
  | rs512
  | ps256
  | ps384
  | ps512
  | edDsa
  deriving DecidableEq, Repr

/-- Key families that verify signatures. -/
inductive KeyType where
  | rsa
  | ec
  deriving DecidableEq, Repr

def KeyType.name : KeyType → String
  | .rsa => "Rsa"
  | .ec => "Ec"

namespace Algorithm

def all : List Algorithm :=
  [.hs256, .hs384, .hs512, .es256, .es384, .rs256, .rs384, .rs512, .ps256, .ps384, .ps512, .edDsa]

def name : Algorithm → String
  | hs256 => "HS256"
  | hs384 => "HS384"
  | hs512 => "HS512"
  | es256 => "ES256"
  | es384 => "ES384"
  | rs256 => "RS256"
  | rs384 => "RS384"
  | rs512 => "RS512"
  | ps256 => "PS256"
  | ps384 => "PS384"
  | ps512 => "PS512"
  | edDsa => "EdDSA"

def ofName? (s : String) : Option Algorithm :=
  all.find? fun a => a.name == s

/-- The family of keys that verify an algorithm. -/
def keyType? : Algorithm → Option KeyType
  | rs256 | rs384 | rs512 | ps256 | ps384 | ps512 => some .rsa
  | es256 | es384 => some .ec
  | hs256 | hs384 | hs512 | edDsa => none

theorem ofName?_name (a : Algorithm) : ofName? a.name = some a := by
  cases a <;> decide

end Algorithm

end TokenGate
