import TokenGate.Key.Algorithm
import TokenGate.Key.Jwk
import TokenGate.Der.Certificate
import TokenGate.Text.Base64
import TokenGate.Text.Quoted

/-! # Signing keys

The filter through which a key entry becomes a key that verifies signatures. Checks run in a fixed
order and the first failure is the reason for turning the entry away. The filter looks at how
material is written, not at whether it makes a key: numbers that no verification accepts pass. -/

namespace TokenGate

/-- Public key material. -/
inductive Material where
  /-- Modulus and exponent. -/
  | rsa (modulus exponent : List UInt8)
  /-- The octets of an RSA key as a certificate carries them. -/
  | encodedRsa (key : List UInt8)
  /-- The two coordinates of a point. -/
  | ec (x y : List UInt8)
  deriving DecidableEq, Repr

namespace Material

/-- The material that the texts of a modulus and an exponent spell. -/
def ofNumberTexts (modulus exponent : String) : Except Base64.Error Material := do
  let modulus ← Base64.urlSafe.decodeText modulus
  let exponent ← Base64.urlSafe.decodeText exponent
  return .rsa modulus exponent

/-- The material that the texts of two coordinates spell. -/
def ofPointTexts (x y : String) : Except Base64.Error Material := do
  let x ← Base64.urlSafe.decodeText x
  let y ← Base64.urlSafe.decodeText y
  return .ec x y

end Material

/-- A key with the one algorithm it verifies. -/
structure SigningKey where
  kid : String
  algorithm : Algorithm
  keyType : KeyType
  material : Material
  deriving DecidableEq, Repr

/-- A key is described without its material. -/
def SigningKey.describe (k : SigningKey) : String :=
  "SigningKey \x7b kid: " ++ Text.quoted k.kid ++ ", algorithm: " ++ k.algorithm.name
    ++ ", key_type: " ++ k.keyType.name ++ ", .. \x7d"

/-- What is wrong with key material. -/
inductive MaterialError where
  /-- A component is not base64 of its dialect. -/
  | encoding (component : String) (cause : Base64.Error)
  /-- A component spells no octet. -/
  | empty (component : String)
  /-- The components do not make a key. -/
  | construction (cause : Base64.Error)
  /-- The first certificate has not the shape of one. -/
  | certificate
  /-- The first certificate carries another kind of key. -/
  | otherKey
  deriving DecidableEq, Repr

def MaterialError.message : MaterialError → String
  | encoding component cause => component ++ ": " ++ cause.message
  | empty component => "empty " ++ component
  | construction cause => "Base64 error: " ++ cause.message
  | certificate => "x5c: "
  | otherKey => "x5c certificate does not carry an RSA key"

/-- Why an entry is turned away. -/
inductive Jwk.Rejection where
  | missingKid
  | notForSignature (use : Option String)
  | unsupportedKeyType (kty : String)
  | unsupportedAlgorithm (name : String)
  | missingMaterial
  | invalidMaterial (cause : MaterialError)
  deriving DecidableEq, Repr

def Jwk.Rejection.message : Jwk.Rejection → String
  | missingKid => "missing kid"
  | notForSignature use => "key use " ++ Text.quotedOption use ++ " is not sig"
  | unsupportedKeyType kty => "unsupported key type " ++ Text.quoted kty
  | unsupportedAlgorithm name => "unsupported algorithm " ++ Text.quoted name
  | missingMaterial => "no public key material"
  | invalidMaterial cause => "invalid key material: " ++ cause.message

namespace Jwk

/-- A member that is there and not empty. -/
def nonEmpty (value : Option String) : Option String :=
  value.filter fun s => s != ""

/-- The algorithm that a key type, curve and algorithm name declare or imply. -/
def algorithm (k : Jwk) : Except Rejection Algorithm :=
  if k.kty == "RSA" then
    match k.alg with
    | none => .ok .rs256
    | some name =>
      match Algorithm.ofName? name with
      | some a => if a.keyType? == some .rsa then .ok a else .error (.unsupportedAlgorithm name)
      | none => .error (.unsupportedAlgorithm name)
  else if k.kty == "EC" then
    if k.crv == some "P-256" && (k.alg == none || k.alg == some "ES256") then .ok .es256
    else if k.crv == some "P-384" && (k.alg == none || k.alg == some "ES384") then .ok .es384
    else .error (.unsupportedAlgorithm (k.crv.getD "-" ++ "/" ++ k.alg.getD "-"))
  else .error (.unsupportedKeyType k.kty)

/-- A component is URL-safe base64 of some octets. -/
def checkComponent (name value : String) : Except Rejection Unit :=
  match Base64.urlSafe.decodeText value with
  | .ok [] => .error (.invalidMaterial (.empty name))
  | .ok _ => .ok ()
  | .error cause => .error (.invalidMaterial (.encoding name cause))

/-- Material from components that have been checked. -/
def construct (made : Except Base64.Error Material) : Except Rejection Material :=
  made.mapError fun cause => .invalidMaterial (.construction cause)

/-- The RSA key of a certificate in standard base64. -/
def certificateMaterial (encoded : String) : Except Rejection Material :=
  match Base64.standard.decodeText encoded with
  | .error cause => .error (.invalidMaterial (.encoding "x5c" cause))
  | .ok octets =>
    match Der.certificateKey? octets with
    | none => .error (.invalidMaterial .certificate)
    | some subject =>
      if subject.algorithm == Der.rsaEncryption then .ok (.encodedRsa subject.key)
      else .error (.invalidMaterial .otherKey)

/-- RSA material: modulus and exponent if both are there, else the first certificate. -/
def rsaMaterial (k : Jwk) : Except Rejection Material :=
  match nonEmpty k.n, nonEmpty k.e with
  | some n, some e => do
    checkComponent "n" n
    checkComponent "e" e
    construct (Material.ofNumberTexts n e)
  | _, _ =>
    match k.x5c.bind (·.head?) with
    | some leaf => certificateMaterial leaf
    | none => .error .missingMaterial

def ecMaterial (k : Jwk) : Except Rejection Material :=
  match nonEmpty k.x, nonEmpty k.y with
  | some x, some y => do
    checkComponent "x" x
    checkComponent "y" y
    construct (Material.ofPointTexts x y)
  | _, _ => .error .missingMaterial

/-- The key of an entry, or the first reason to turn it away. -/
def signingKey (k : Jwk) : Except Rejection SigningKey :=
  match nonEmpty k.kid with
  | none => .error .missingKid
  | some kid =>
    if k.use != some "sig" then .error (.notForSignature k.use)
    else do
      let algorithm ← k.algorithm
      if k.kty == "RSA" then return ⟨kid, algorithm, .rsa, ← k.rsaMaterial⟩
      else return ⟨kid, algorithm, .ec, ← k.ecMaterial⟩

end Jwk

end TokenGate
