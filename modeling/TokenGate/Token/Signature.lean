import TokenGate.Crypto.Ecdsa
import TokenGate.Token.Validation

/-! # Verifying under key material

The signature check that joins keys and algorithms. Material of the wrong family, or that makes no
usable key, verifies nothing. -/

namespace TokenGate

/-- The RSA key that material makes, if it is one. -/
def Material.rsaKey? : Material → Option Rsa.PublicKey
  | rsa modulus exponent => Rsa.PublicKey.ofOctets? modulus exponent
  | encodedRsa key => Rsa.PublicKey.ofDer? key
  | ec _ _ => none

/-- The curve key that material makes: the octets of both coordinates in a row. -/
def Material.curveKey? : Material → Option (List UInt8)
  | ec x y => some (x ++ y)
  | _ => none

/-- Verification with a verifier for an RSA key. -/
def Material.verifyRsa (material : Material) (verify : Rsa.PublicKey → Bool) : Bool :=
  (material.rsaKey?.map verify).getD false

/-- Verification with a curve. -/
def Material.verifyCurve (material : Material) (curve : Ecdsa.Curve)
    (message signature : List UInt8) : Bool :=
  (material.curveKey?.map fun key => curve.verify key message signature).getD false

/-- The signature check of the registered algorithms. -/
def verifySignature : SignatureCheck := fun material algorithm message signature =>
  match algorithm with
  | .rs256 => material.verifyRsa fun k => Rsa.verifyDeterministic .bits256 k message signature
  | .rs384 => material.verifyRsa fun k => Rsa.verifyDeterministic .bits384 k message signature
  | .rs512 => material.verifyRsa fun k => Rsa.verifyDeterministic .bits512 k message signature
  | .ps256 => material.verifyRsa fun k => Rsa.verifyProbabilistic .bits256 k message signature
  | .ps384 => material.verifyRsa fun k => Rsa.verifyProbabilistic .bits384 k message signature
  | .ps512 => material.verifyRsa fun k => Rsa.verifyProbabilistic .bits512 k message signature
  | .es256 => material.verifyCurve Ecdsa.p256 message signature
  | .es384 => material.verifyCurve Ecdsa.p384 message signature
  | .hs256 | .hs384 | .hs512 | .edDsa => false

end TokenGate
