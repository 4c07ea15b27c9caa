import TokenGate.Proofs.Key.Material
import TokenGate.Proofs.Result

/-! # Admission of an entry

What an entry must say to be admitted, and what may be wrong with it, each told by its members
alone. The filter admits an entry as the key it describes, and otherwise reports the first of the
faults it has: its id, its use, its algorithm, its material. -/

namespace TokenGate

/-- How an entry names a family of keys. -/
def KeyType.kty : KeyType → String
  | .rsa => "RSA"
  | .ec => "EC"

theorem KeyType.kty_inj {family family' : KeyType} :
    family.kty = family'.kty ↔ family = family' := by
  cases family <;> cases family' <;> decide

namespace Algorithm

/-- An algorithm is known by its own name and by no other. -/
theorem ofName?_eq_some_iff {s : String} {a : Algorithm} : ofName? s = some a ↔ s = a.name := by
  constructor
  · intro named
    have same : a.name = s := by simpa using List.find?_some named
    exact same.symm
  · rintro rfl
    exact ofName?_name a

theorem keyType?_eq_rsa_iff {a : Algorithm} :
    a.keyType? = some .rsa ↔ a ∈ [.rs256, .rs384, .rs512, .ps256, .ps384, .ps512] := by
  cases a <;> decide

end Algorithm

namespace Jwk

/-- The supported kinds, curves and algorithm names, with the algorithm that each of them means. -/
inductive Supports (k : Jwk) : Algorithm → Prop
  | rsa (kty : k.kty = "RSA") (silent : k.alg = none) : Supports k .rs256
  | rsaNamed {a : Algorithm} (kty : k.kty = "RSA") (named : k.alg = some a.name)
      (listed : a ∈ [.rs256, .rs384, .rs512, .ps256, .ps384, .ps512]) : Supports k a
  | p256 (kty : k.kty = "EC") (curve : k.crv = some "P-256")
      (named : k.alg = none ∨ k.alg = some "ES256") : Supports k .es256
  | p384 (kty : k.kty = "EC") (curve : k.crv = some "P-384")
      (named : k.alg = none ∨ k.alg = some "ES384") : Supports k .es384

/-- An entry is for signatures, and it has an id, a supported algorithm and material: those of a
key. -/
structure Yields (k : Jwk) (key : SigningKey) : Prop where
  kid : Has k.kid key.kid
  use : k.use = some "sig"
  algorithm : k.Supports key.algorithm
  keyType : key.algorithm.keyType? = some key.keyType
  material : k.Supplies key.keyType key.material

/-- What may be wrong with kind, curve and algorithm name. -/
inductive AlgorithmFault (k : Jwk) : Rejection → Prop
  | kty (notRsa : k.kty ≠ "RSA") (notEc : k.kty ≠ "EC") :
      AlgorithmFault k (.unsupportedKeyType k.kty)
  | rsa {name : String} (kty : k.kty = "RSA") (named : k.alg = some name)
      (unsupported : ∀ a, ¬ k.Supports a) : AlgorithmFault k (.unsupportedAlgorithm name)
  | ec (kty : k.kty = "EC") (unsupported : ∀ a, ¬ k.Supports a) :
      AlgorithmFault k (.unsupportedAlgorithm (k.crv.getD "-" ++ "/" ++ k.alg.getD "-"))

/-- What may be wrong with an entry. -/
inductive Faults (k : Jwk) : Rejection → Prop
  | kid (lacks : Lacks k.kid) : Faults k .missingKid
  | use (other : k.use ≠ some "sig") : Faults k (.notForSignature k.use)
  | algorithm {r : Rejection} (fault : k.AlgorithmFault r) : Faults k r
  | material {family : KeyType} {r : Rejection} (kty : k.kty = family.kty)
      (fault : k.MaterialFault family r) : Faults k r

/-- The order of reasons. -/
def Rejection.rank : Rejection → Nat
  | missingKid => 0
  | notForSignature _ => 1
  | unsupportedKeyType _ => 2
  | unsupportedAlgorithm _ => 2
  | missingMaterial => 3
  | invalidMaterial _ => 3

variable {k : Jwk}

/-! ## The algorithm -/

/-- A supported algorithm is one of the family that the entry names. -/
theorem Supports.keyType {a : Algorithm} (supported : k.Supports a) :
    ∃ family : KeyType, a.keyType? = some family ∧ k.kty = family.kty := by
  cases supported with
  | rsa kty silent => exact ⟨.rsa, rfl, kty⟩
  | rsaNamed kty named listed => exact ⟨.rsa, Algorithm.keyType?_eq_rsa_iff.2 listed, kty⟩
  | p256 kty curve named => exact ⟨.ec, rfl, kty⟩
  | p384 kty curve named => exact ⟨.ec, rfl, kty⟩

/-- The algorithm of an entry is the one that its kind, curve and algorithm name mean. -/
theorem algorithm_eq_ok_iff {a : Algorithm} : k.algorithm = .ok a ↔ k.Supports a := by
  constructor
  · intro given
    unfold Jwk.algorithm at given
    split at given
    · next rsa =>
      have kty : k.kty = "RSA" := by simpa using rsa
      split at given
      · next silent =>
        obtain rfl := Except.ok.inj given
        exact .rsa kty silent
      · next name named =>
        split at given
        · next a' known =>
          split at given
          · next family =>
            obtain rfl := Except.ok.inj given
            obtain rfl := Algorithm.ofName?_eq_some_iff.1 known
            exact .rsaNamed kty named (Algorithm.keyType?_eq_rsa_iff.1 (by simpa using family))
          · cases given
        · cases given
    · split at given
      · next ec =>
        have kty : k.kty = "EC" := by simpa using ec
        split at given
        · next p256 =>
          obtain rfl := Except.ok.inj given
          simp only [Bool.and_eq_true, Bool.or_eq_true, beq_iff_eq] at p256
          exact .p256 kty p256.1 p256.2
        · split at given
          · next p384 =>
            obtain rfl := Except.ok.inj given
            simp only [Bool.and_eq_true, Bool.or_eq_true, beq_iff_eq] at p384
            exact .p384 kty p384.1 p384.2
          · cases given
      · cases given
  · intro supported
    cases supported with
    | rsa kty silent => simp [Jwk.algorithm, kty, silent]
    | rsaNamed kty named listed =>
      have family := Algorithm.keyType?_eq_rsa_iff.2 listed
      simp [Jwk.algorithm, kty, named, Algorithm.ofName?_name, family]
    | p256 kty curve named =>
      rcases named with named | named <;> simp [Jwk.algorithm, kty, curve, named]
    | p384 kty curve named =>
      rcases named with named | named <;> simp [Jwk.algorithm, kty, curve, named]

/-- An entry with a fault in its algorithm supports none. -/
theorem AlgorithmFault.not_supports {r : Rejection} (fault : k.AlgorithmFault r) (a : Algorithm) :
    ¬ k.Supports a := by
  cases fault with
  | kty notRsa notEc =>
    intro supported
    obtain ⟨family, -, kty⟩ := supported.keyType
    cases family with
    | rsa => exact notRsa kty
    | ec => exact notEc kty
  | rsa kty named unsupported => exact unsupported a
  | ec kty unsupported => exact unsupported a

theorem AlgorithmFault.unique {r r' : Rejection} (fault : k.AlgorithmFault r)
    (fault' : k.AlgorithmFault r') : r = r' := by
  cases fault <;> cases fault' <;> simp_all

private theorem fault_of_algorithm {r : Rejection} (failed : k.algorithm = .error r) :
    k.AlgorithmFault r := by
  have unsupported (a : Algorithm) : ¬ k.Supports a := by
    rw [← algorithm_eq_ok_iff, failed]
    exact nofun
  unfold Jwk.algorithm at failed
  split at failed
  · next rsa =>
    have kty : k.kty = "RSA" := by simpa using rsa
    split at failed
    · cases failed
    · next name named =>
      have same : r = .unsupportedAlgorithm name := by
        split at failed
        · split at failed
          · cases failed
          · exact (Except.error.inj failed).symm
        · exact (Except.error.inj failed).symm
      exact same ▸ .rsa kty named unsupported
  · next notRsa =>
    split at failed
    · next ec =>
      split at failed
      · cases failed
      split at failed
      · cases failed
      exact Except.error.inj failed ▸ .ec (by simpa using ec) unsupported
    · next notEc =>
      exact Except.error.inj failed ▸ .kty (by simpa using notRsa) (by simpa using notEc)

/-- The reason for having no algorithm is the fault of kind, curve and algorithm name. -/
theorem algorithm_eq_error_iff {r : Rejection} : k.algorithm = .error r ↔ k.AlgorithmFault r := by
  constructor
  · exact fault_of_algorithm
  · intro fault
    cases decided : k.algorithm with
    | ok a => exact absurd (algorithm_eq_ok_iff.1 decided) (fault.not_supports a)
    | error r' => rw [(fault_of_algorithm decided).unique fault]

/-! ## The entry -/

/-- Behind id, use and algorithm only the material decides. -/
theorem signingKey_of_supports {id : String} (kid : Has k.kid id) (use : k.use = some "sig")
    {a : Algorithm} (supported : k.Supports a) {family : KeyType}
    (keyType : a.keyType? = some family) :
    k.signingKey = (k.materialOf family).map (⟨id, a, family, ·⟩) := by
  obtain ⟨family', keyType', kty⟩ := supported.keyType
  obtain rfl : family' = family := Option.some.inj (keyType'.symm.trans keyType)
  have given := algorithm_eq_ok_iff.2 supported
  rw [signingKey, nonEmpty_eq_some_iff.2 kid, use, given, kty]
  cases family' with
  | rsa =>
    rw [materialOf]
    cases k.rsaMaterial <;> rfl
  | ec =>
    rw [materialOf]
    cases k.ecMaterial <;> rfl

private theorem signingKey_of_algorithmFault {id : String} (kid : Has k.kid id)
    (use : k.use = some "sig") {r : Rejection} (fault : k.AlgorithmFault r) :
    k.signingKey = .error r := by
  rw [signingKey, nonEmpty_eq_some_iff.2 kid, use, algorithm_eq_error_iff.2 fault]
  rfl

private theorem Yields.not_faults {key : SigningKey} (yields : k.Yields key) (r : Rejection) :
    ¬ k.Faults r := by
  intro faults
  cases faults with
  | kid lacks => exact yields.kid.not_lacks lacks
  | use other => exact other yields.use
  | algorithm fault => exact fault.not_supports _ yields.algorithm
  | material kty fault =>
    obtain ⟨family, keyType, kty'⟩ := yields.algorithm.keyType
    obtain rfl := KeyType.kty_inj.1 (kty.symm.trans kty')
    obtain rfl := Option.some.inj (keyType.symm.trans yields.keyType)
    have given := materialOf_eq_ok_iff.2 yields.material
    rw [materialOf_eq_error_iff.2 fault] at given
    cases given

theorem AlgorithmFault.rank_eq {r : Rejection} (fault : k.AlgorithmFault r) : r.rank = 2 := by
  cases fault <;> rfl

theorem MaterialFault.rank_eq {family : KeyType} {r : Rejection}
    (fault : k.MaterialFault family r) : r.rank = 3 := by
  cases fault with
  | numbers hasN hasE fault => cases fault <;> rfl
  | certificate without chain fault => cases fault <;> rfl
  | nothing without chain => rfl
  | coordinates hasX hasY fault => cases fault <;> rfl
  | halfPoint without => rfl

/-- At every place in the order there is at most one fault. -/
theorem Faults.eq_of_rank {r r' : Rejection} (faults : k.Faults r) (faults' : k.Faults r')
    (same : r.rank = r'.rank) : r = r' := by
  have later {r : Rejection} : k.AlgorithmFault r → r.rank = 2 := AlgorithmFault.rank_eq
  have last {family : KeyType} {r : Rejection} : k.MaterialFault family r → r.rank = 3 :=
    MaterialFault.rank_eq
  cases faults with
  | kid lacks =>
    cases faults' with
    | kid lacks' => rfl
    | use other => cases same
    | algorithm fault => rw [later fault] at same; cases same
    | material kty fault => rw [last fault] at same; cases same
  | use other =>
    cases faults' with
    | kid lacks => cases same
    | use other' => rfl
    | algorithm fault => rw [later fault] at same; cases same
    | material kty fault => rw [last fault] at same; cases same
  | algorithm fault =>
    rw [later fault] at same
    cases faults' with
    | kid lacks => cases same
    | use other => cases same
    | algorithm fault' => exact fault.unique fault'
    | material kty fault' => rw [last fault'] at same; cases same
  | material kty fault =>
    rw [last fault] at same
    cases faults' with
    | kid lacks => cases same
    | use other => cases same
    | algorithm fault' => rw [later fault'] at same; cases same
    | material kty' fault' =>
      obtain rfl := KeyType.kty_inj.1 (kty.symm.trans kty')
      have failed := materialOf_eq_error_iff.2 fault
      rw [materialOf_eq_error_iff.2 fault'] at failed
      exact (Except.error.inj failed).symm

private theorem Faults.one_le {id : String} {r : Rejection} (kid : Has k.kid id)
    (faults : k.Faults r) : 1 ≤ r.rank := by
  cases faults with
  | kid lacks => exact absurd lacks kid.not_lacks
  | use other => exact Nat.le_refl 1
  | algorithm fault => simp [fault.rank_eq]
  | material kty fault => simp [fault.rank_eq]

private theorem Faults.two_le {id : String} {r : Rejection} (kid : Has k.kid id)
    (use : k.use = some "sig") (faults : k.Faults r) : 2 ≤ r.rank := by
  cases faults with
  | kid lacks => exact absurd lacks kid.not_lacks
  | use other => exact absurd use other
  | algorithm fault => simp [fault.rank_eq]
  | material kty fault => simp [fault.rank_eq]

private theorem Faults.three_le {id : String} {a : Algorithm} {r : Rejection} (kid : Has k.kid id)
    (use : k.use = some "sig") (supported : k.Supports a) (faults : k.Faults r) : 3 ≤ r.rank := by
  cases faults with
  | kid lacks => exact absurd lacks kid.not_lacks
  | use other => exact absurd use other
  | algorithm fault => exact absurd supported (fault.not_supports a)
  | material kty fault => simp [fault.rank_eq]

/-- A fault before which there is no other. -/
structure FirstFault (k : Jwk) (r : Rejection) : Prop where
  faults : k.Faults r
  first : ∀ r', k.Faults r' → r.rank ≤ r'.rank

/-- The filter goes through the members in order and stops at the first fault. -/
theorem yields_or_fault (k : Jwk) :
    (∃ key, k.Yields key) ∨ ∃ r, k.FirstFault r ∧ k.signingKey = .error r := by
  rcases (has_or_lacks k.kid).symm with lacks | ⟨id, kid⟩
  · refine .inr ⟨.missingKid, ⟨.kid lacks, fun r' _ => Nat.zero_le _⟩, ?_⟩
    rw [signingKey, nonEmpty_eq_none_iff.2 lacks]
  by_cases other : k.use ≠ some "sig"
  · refine .inr ⟨.notForSignature k.use, ⟨.use other, fun r' faults => faults.one_le kid⟩, ?_⟩
    simp [signingKey, nonEmpty_eq_some_iff.2 kid, other]
  have use := Decidable.not_not.1 other
  cases decided : k.algorithm with
  | error r =>
    have fault := algorithm_eq_error_iff.1 decided
    refine .inr ⟨r, ⟨.algorithm fault, fun r' faults => ?_⟩,
      signingKey_of_algorithmFault kid use fault⟩
    rw [fault.rank_eq]
    exact faults.two_le kid use
  | ok a =>
    have supported := algorithm_eq_ok_iff.1 decided
    obtain ⟨family, keyType, kty⟩ := supported.keyType
    rcases supplies_or_fault k family with ⟨material, supplied⟩ | ⟨r, fault⟩
    · exact .inl ⟨⟨id, a, family, material⟩, kid, use, supported, keyType, supplied⟩
    · refine .inr ⟨r, ⟨.material kty fault, fun r' faults => ?_⟩, ?_⟩
      · rw [fault.rank_eq]
        exact faults.three_le kid use supported
      · rw [signingKey_of_supports kid use supported keyType, materialOf_eq_error_iff.2 fault]
        rfl

/-- An entry that describes a key is admitted as that key. -/
theorem signingKey_of_yields {key : SigningKey} (yields : k.Yields key) :
    k.signingKey = .ok key := by
  rw [signingKey_of_supports yields.kid yields.use yields.algorithm yields.keyType,
    materialOf_eq_ok_iff.2 yields.material]
  rfl

/-- An entry is admitted exactly as the key it describes. -/
theorem signingKey_eq_ok_iff {key : SigningKey} : k.signingKey = .ok key ↔ k.Yields key := by
  constructor
  · intro passed
    rcases yields_or_fault k with ⟨key', yields⟩ | ⟨r, -, failed⟩
    · rw [signingKey_of_yields yields] at passed
      rwa [← Except.ok.inj passed]
    · rw [failed] at passed
      cases passed
  · exact signingKey_of_yields

/-- An entry is turned away for exactly its first fault. -/
theorem signingKey_eq_error_iff {r : Rejection} : k.signingKey = .error r ↔ k.FirstFault r := by
  rcases yields_or_fault k with ⟨key, yields⟩ | ⟨r', first', failed⟩
  · rw [signingKey_of_yields yields]
    exact ⟨nofun, fun first => absurd first.faults (yields.not_faults r)⟩
  · rw [failed, Except.error.injEq]
    constructor
    · rintro rfl
      exact first'
    · intro first
      have same := Nat.le_antisymm (first'.first r first.faults) (first.first r' first'.faults)
      exact first'.faults.eq_of_rank first.faults same

private theorem signingKey_chain {chain : Option (List String)}
    (same : rsaMaterial { k with x5c := chain } = k.rsaMaterial) :
    signingKey { k with x5c := chain } = k.signingKey := by
  unfold signingKey
  rw [same]
  rfl

/-- No fault is one of making the key: what could go wrong there has been looked at before. -/
theorem Faults.explained {cause : MaterialError} (faults : k.Faults (.invalidMaterial cause)) :
    (∀ failure, cause ≠ .construction failure) ∧ ∀ component, cause ≠ .empty component := by
  cases faults with
  | algorithm fault => cases fault
  | material kty fault =>
    cases fault with
    | numbers hasN hasE fault => cases fault <;> exact ⟨nofun, nofun⟩
    | certificate without chain fault => cases fault <;> exact ⟨nofun, nofun⟩
    | coordinates hasX hasY fault => cases fault <;> exact ⟨nofun, nofun⟩

/-- The filter decides on the members of an entry alone: it admits the key that they describe or
names their first fault. Both numbers keep the chain of certificates out of it, and only the first
certificate ever counts. -/
theorem signingKey_decides (k : Jwk) :
    (∀ key, k.signingKey = .ok key ↔ k.Yields key) ∧
    (∀ r, k.signingKey = .error r ↔ k.FirstFault r) ∧
    (∀ n e, Has k.n n → Has k.e e → ∀ chain,
      signingKey { k with x5c := chain } = k.signingKey) ∧
    (∀ leaf rest, k.x5c = some (leaf :: rest) → ∀ rest',
      signingKey { k with x5c := some (leaf :: rest') } = k.signingKey) ∧
    ∀ cause, k.signingKey = .error (.invalidMaterial cause) →
      (∀ failure, cause ≠ .construction failure) ∧ ∀ component, cause ≠ .empty component := by
  refine ⟨fun key => signingKey_eq_ok_iff, fun r => signingKey_eq_error_iff, ?_, ?_, ?_⟩
  · intro n e hasN hasE chain
    apply signingKey_chain
    rw [rsaMaterial_of_numbers hasN hasE]
    exact rsaMaterial_of_numbers hasN hasE
  · intro leaf rest chain rest'
    apply signingKey_chain
    unfold rsaMaterial
    rw [chain]
    rfl
  · intro cause failed
    exact (signingKey_eq_error_iff.1 failed).faults.explained

/-- An entry without numbers: the key is read from its first certificate, whatever follows it. -/
theorem signingKey_decides_certificate :
    let leaf := "MIHGMHKgAwIBAgIBBzANBgkqhkiG9w0BAQsFADAPMQ0wCwYDVQQDDAR0ZXN0MB4XDTI1MDEwMTAwMDAw" ++
      "MFoXDTM1MDEwMTAwMDAwMFowDzENMAsGA1UEAwwEdGVzdDAXMA0GCSqGSIb3DQEBAQUAAwYAMAMCAQUwDQYJKoZIhvcN" ++
      "AQELBQADQQABAQEBAQEBAQEBAQEBAQEBAQEBAQEBAQEBAQEBAQEBAQEBAQEBAQEBAQEBAQEBAQEBAQEBAQEBAQEBAQEB" ++
      "AQEB"
    let k : Jwk :=
      { kty := "RSA", kid := some "k", use := some "sig", alg := some "RS512", x5c := some [leaf] }
    let key : SigningKey := ⟨"k", .rs512, .rsa, .encodedRsa [0x30, 0x03, 0x02, 0x01, 0x05]⟩
    k.Yields key ∧ ∀ rest, signingKey { k with x5c := some (leaf :: rest) } = .ok key := by
  intro leaf k key
  have evaluated : k.signingKey.toOption.any (· == key) = true := by decide +kernel
  obtain ⟨found, given, same⟩ := exists_ok_of_any evaluated
  have admitted : k.signingKey = .ok key := beq_iff_eq.1 same ▸ given
  obtain ⟨yields, -, -, first, -⟩ := signingKey_decides k
  exact ⟨(yields key).1 admitted, fun rest => (first leaf [] rfl rest).trans admitted⟩

end Jwk

end TokenGate
