import TokenGate.Proofs.Key.Filter

/-! # What a key entry says of its key

An entry declares an algorithm or leaves it to be inferred from its kind, and it carries material of
that kind. Both are relations between the members of an entry and what they say, apart from the
order in which the filter looks at them. A key that passes the filter is what its entry says. -/

namespace TokenGate

def Material.family : Material → KeyType
  | .rsa .. => .rsa
  | .encodedRsa _ => .rsa
  | .ec .. => .ec

/-- The algorithm of an entry: the one it declares, or without one the usual one of its kind. -/
inductive Jwk.Means (k : Jwk) : Algorithm → Prop
  | declared {a : Algorithm} (named : k.alg = some a.name) : Means k a
  | rsa (kty : k.kty = "RSA") (silent : k.alg = none) : Means k .rs256
  | p256 (kty : k.kty = "EC") (curve : k.crv = some "P-256") (silent : k.alg = none) :
      Means k .es256
  | p384 (kty : k.kty = "EC") (curve : k.crv = some "P-384") (silent : k.alg = none) :
      Means k .es384

/-- The material that the members of an entry spell. A certificate counts where there are not both
numbers of an RSA key. -/
inductive Jwk.Carries (k : Jwk) : Material → Prop
  | numbers {n e : String} {modulus exponent : List UInt8} (hasModulus : nonEmpty k.n = some n)
      (hasExponent : nonEmpty k.e = some e) (first : Base64.urlSafe.decodeText n = .ok modulus)
      (second : Base64.urlSafe.decodeText e = .ok exponent) : Carries k (.rsa modulus exponent)
  | certificate {leaf : String} {rest : List String} {octets : List UInt8}
      {subject : Der.SubjectKey} (without : nonEmpty k.n = none ∨ nonEmpty k.e = none)
      (chain : k.x5c = some (leaf :: rest))
      (decoded : Base64.standard.decodeText leaf = .ok octets)
      (parsed : Der.certificateKey? octets = some subject)
      (rsa : subject.algorithm = Der.rsaEncryption) : Carries k (.encodedRsa subject.key)
  | point {x y : String} {first second : List UInt8} (hasX : nonEmpty k.x = some x)
      (hasY : nonEmpty k.y = some y) (decodedX : Base64.urlSafe.decodeText x = .ok first)
      (decodedY : Base64.urlSafe.decodeText y = .ok second) : Carries k (.ec first second)

/-- A key is what an entry says: one for signatures, with an id, and with an algorithm and material
of the family that the entry names. -/
structure Jwk.Describes (k : Jwk) (key : SigningKey) : Prop where
  kid : k.kid = some key.kid
  kid_ne : key.kid ≠ ""
  use : k.use = some "sig"
  kty : k.kty = key.keyType.kty
  algorithm : k.Means key.algorithm
  family : key.algorithm.keyType? = some key.keyType
  material : k.Carries key.material
  materialFamily : key.material.family = key.keyType

namespace Jwk

variable {k : Jwk}

private theorem Supports.means {a : Algorithm} (supported : k.Supports a) : k.Means a := by
  cases supported with
  | rsa kty silent => exact .rsa kty silent
  | rsaNamed kty named listed => exact .declared named
  | p256 kty curve named =>
    rcases named with silent | named
    · exact .p256 kty curve silent
    · exact .declared named
  | p384 kty curve named =>
    rcases named with silent | named
    · exact .p384 kty curve silent
    · exact .declared named

private theorem Supplies.carries {family : KeyType} {material : Material}
    (supplied : k.Supplies family material) : k.Carries material ∧ material.family = family := by
  cases supplied with
  | numbers hasN hasE spellsN spellsE =>
    exact ⟨.numbers (nonEmpty_eq_some_iff.2 hasN) (nonEmpty_eq_some_iff.2 hasE)
      (Base64.decodeText_urlSafe_iff.2 spellsN) (Base64.decodeText_urlSafe_iff.2 spellsE), rfl⟩
  | certificate without chain spells parsed rsa =>
    simp only [← nonEmpty_eq_none_iff] at without
    exact ⟨.certificate without chain (Base64.decodeText_standard_iff.2 spells) parsed rsa, rfl⟩
  | point hasX hasY spellsX spellsY =>
    exact ⟨.point (nonEmpty_eq_some_iff.2 hasX) (nonEmpty_eq_some_iff.2 hasY)
      (Base64.decodeText_urlSafe_iff.2 spellsX) (Base64.decodeText_urlSafe_iff.2 spellsY), rfl⟩

/-- A key that passes the filter is what its entry says. -/
theorem describes_of_signingKey {key : SigningKey} (passed : k.signingKey = .ok key) :
    k.Describes key := by
  have yields := signingKey_eq_ok_iff.1 passed
  obtain ⟨family, keyType, kty⟩ := yields.algorithm.keyType
  obtain rfl := Option.some.inj (keyType.symm.trans yields.keyType)
  obtain ⟨carries, ofFamily⟩ := yields.material.carries
  exact ⟨yields.kid.present, yields.kid.something, yields.use, kty, yields.algorithm.means, keyType,
    carries, ofFamily⟩

end Jwk

end TokenGate
