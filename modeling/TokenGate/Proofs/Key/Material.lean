import TokenGate.Key.Signing
import TokenGate.Proofs.Text.Base64

/-! # The material of an entry

What an entry must say to have key material of a family, and what may be wrong with it: one of the
two, never both. The filter looks at a component twice, first for its faults and then for its
octets, and the second reading finds nothing that the first did not. -/

namespace TokenGate.Jwk

open Base64 (decodeText_urlSafe_iff decodeText_standard_iff)

/-- A member is there with a text. -/
structure Has (member : Option String) (text : String) : Prop where
  present : member = some text
  something : text ≠ ""

/-- A member is absent or empty. -/
def Lacks (member : Option String) : Prop := member = none ∨ member = some ""

/-- The material of an entry. The first certificate counts where there are not both numbers of an
RSA key. -/
inductive Supplies (k : Jwk) : KeyType → Material → Prop
  | numbers {n e : String} {modulus exponent : List UInt8} (hasN : Has k.n n) (hasE : Has k.e e)
      (spellsN : Base64.urlSafe.Spells n modulus) (spellsE : Base64.urlSafe.Spells e exponent) :
      Supplies k .rsa (.rsa modulus exponent)
  | certificate {leaf : String} {rest : List String} {octets : List UInt8}
      {subject : Der.SubjectKey} (without : Lacks k.n ∨ Lacks k.e)
      (chain : k.x5c = some (leaf :: rest)) (spells : Base64.standard.Spells leaf octets)
      (parsed : Der.certificateKey? octets = some subject)
      (rsa : subject.algorithm = Der.rsaEncryption) : Supplies k .rsa (.encodedRsa subject.key)
  | point {x y : String} {first second : List UInt8} (hasX : Has k.x x) (hasY : Has k.y y)
      (spellsX : Base64.urlSafe.Spells x first) (spellsY : Base64.urlSafe.Spells y second) :
      Supplies k .ec (.ec first second)

/-- What may be wrong with two components, of which the first is looked at first. -/
inductive PairFault (firstName secondName first second : String) : Rejection → Prop
  | first {cause : Base64.Error} (garbled : Base64.urlSafe.decodeText first = .error cause) :
      PairFault firstName secondName first second (.invalidMaterial (.encoding firstName cause))
  | second {octets : List UInt8} {cause : Base64.Error}
      (spells : Base64.urlSafe.Spells first octets)
      (garbled : Base64.urlSafe.decodeText second = .error cause) :
      PairFault firstName secondName first second (.invalidMaterial (.encoding secondName cause))

/-- What may be wrong with a certificate. -/
inductive CertificateFault (leaf : String) : Rejection → Prop
  | text {cause : Base64.Error} (garbled : Base64.standard.decodeText leaf = .error cause) :
      CertificateFault leaf (.invalidMaterial (.encoding "x5c" cause))
  | shape {octets : List UInt8} (spells : Base64.standard.Spells leaf octets)
      (unparsed : Der.certificateKey? octets = none) :
      CertificateFault leaf (.invalidMaterial .certificate)
  | kind {octets : List UInt8} {subject : Der.SubjectKey}
      (spells : Base64.standard.Spells leaf octets)
      (parsed : Der.certificateKey? octets = some subject)
      (other : subject.algorithm ≠ Der.rsaEncryption) :
      CertificateFault leaf (.invalidMaterial .otherKey)

/-- What may be wrong with the material of a family. -/
inductive MaterialFault (k : Jwk) : KeyType → Rejection → Prop
  | numbers {n e : String} {r : Rejection} (hasN : Has k.n n) (hasE : Has k.e e)
      (fault : PairFault "n" "e" n e r) : MaterialFault k .rsa r
  | certificate {leaf : String} {rest : List String} {r : Rejection}
      (without : Lacks k.n ∨ Lacks k.e) (chain : k.x5c = some (leaf :: rest))
      (fault : CertificateFault leaf r) : MaterialFault k .rsa r
  | nothing (without : Lacks k.n ∨ Lacks k.e) (chain : k.x5c = none ∨ k.x5c = some []) :
      MaterialFault k .rsa .missingMaterial
  | coordinates {x y : String} {r : Rejection} (hasX : Has k.x x) (hasY : Has k.y y)
      (fault : PairFault "x" "y" x y r) : MaterialFault k .ec r
  | halfPoint (without : Lacks k.x ∨ Lacks k.y) : MaterialFault k .ec .missingMaterial

/-- Material of two components, checked one after the other. -/
def checkedPair (firstName secondName first second : String)
    (build : List UInt8 → List UInt8 → Material) : Except Rejection Material := do
  checkComponent firstName first
  checkComponent secondName second
  construct do
    let a ← Base64.urlSafe.decodeText first
    let b ← Base64.urlSafe.decodeText second
    return build a b

/-- The material that is looked for in a family. -/
def materialOf (k : Jwk) : KeyType → Except Rejection Material
  | .rsa => k.rsaMaterial
  | .ec => k.ecMaterial

variable {k : Jwk}

/-! ## Members -/

theorem nonEmpty_eq_some_iff {member : Option String} {text : String} :
    nonEmpty member = some text ↔ Has member text := by
  rw [nonEmpty, Option.filter_eq_some_iff]
  constructor
  · rintro ⟨present, something⟩
    exact ⟨present, by simpa using something⟩
  · rintro ⟨present, something⟩
    exact ⟨present, by simpa using something⟩

theorem nonEmpty_eq_none_iff {member : Option String} :
    nonEmpty member = none ↔ Lacks member := by
  cases member <;> simp [nonEmpty, Lacks, Option.filter_eq_none_iff]

theorem Has.not_lacks {member : Option String} {text : String} (has : Has member text) :
    ¬ Lacks member := by
  rw [← nonEmpty_eq_none_iff, nonEmpty_eq_some_iff.2 has]
  exact Option.some_ne_none text

/-- A member is there with content, or it is lacking. -/
theorem has_or_lacks (member : Option String) : (∃ text, Has member text) ∨ Lacks member := by
  cases found : nonEmpty member with
  | none => exact .inr (nonEmpty_eq_none_iff.1 found)
  | some text => exact .inl ⟨text, nonEmpty_eq_some_iff.1 found⟩

/-! ## Components and certificates -/

theorem checkComponent_of_ok {name value : String} {octets : List UInt8} (something : value ≠ "")
    (read : Base64.urlSafe.decodeText value = .ok octets) : checkComponent name value = .ok () := by
  have some_octet := (decodeText_urlSafe_iff.1 read).ne_nil something
  rw [checkComponent, read]
  cases octets with
  | nil => exact absurd rfl some_octet
  | cons octet rest => rfl

private theorem checkComponent_of_error {name value : String} {cause : Base64.Error}
    (garbled : Base64.urlSafe.decodeText value = .error cause) :
    checkComponent name value = .error (.invalidMaterial (.encoding name cause)) := by
  rw [checkComponent, garbled]

section Pair

variable {firstName secondName first second : String} {build : List UInt8 → List UInt8 → Material}

/-- Two components that have been checked make material: their second reading finds no fault. -/
theorem checkedPair_of_spells {a b : List UInt8} (hasFirst : first ≠ "") (hasSecond : second ≠ "")
    (spellsFirst : Base64.urlSafe.Spells first a) (spellsSecond : Base64.urlSafe.Spells second b) :
    checkedPair firstName secondName first second build = .ok (build a b) := by
  have readFirst := decodeText_urlSafe_iff.2 spellsFirst
  have readSecond := decodeText_urlSafe_iff.2 spellsSecond
  rw [checkedPair, checkComponent_of_ok hasFirst readFirst,
    checkComponent_of_ok hasSecond readSecond, readFirst, readSecond]
  rfl

private theorem checkedPair_of_fault {r : Rejection} (hasFirst : first ≠ "")
    (fault : PairFault firstName secondName first second r) :
    checkedPair firstName secondName first second build = .error r := by
  cases fault with
  | first garbled =>
    rw [checkedPair, checkComponent_of_error garbled]
    rfl
  | second spells garbled =>
    rw [checkedPair, checkComponent_of_ok hasFirst (decodeText_urlSafe_iff.2 spells),
      checkComponent_of_error garbled]
    rfl

private theorem spells_or_fault (firstName secondName first second : String) :
    (∃ a b, Base64.urlSafe.Spells first a ∧ Base64.urlSafe.Spells second b) ∨
      ∃ r, PairFault firstName secondName first second r := by
  cases readFirst : Base64.urlSafe.decodeText first with
  | error cause => exact .inr ⟨_, .first readFirst⟩
  | ok a =>
    cases readSecond : Base64.urlSafe.decodeText second with
    | error cause => exact .inr ⟨_, .second (decodeText_urlSafe_iff.1 readFirst) readSecond⟩
    | ok b =>
      exact .inl ⟨a, b, decodeText_urlSafe_iff.1 readFirst, decodeText_urlSafe_iff.1 readSecond⟩

end Pair

/-- Material of a certificate is the RSA key that it carries. -/
theorem certificateMaterial_eq_ok_iff {leaf : String} {material : Material} :
    certificateMaterial leaf = .ok material ↔ ∃ octets subject,
      Base64.standard.Spells leaf octets ∧ Der.certificateKey? octets = some subject ∧
      subject.algorithm = Der.rsaEncryption ∧ material = .encodedRsa subject.key := by
  constructor
  · intro given
    unfold certificateMaterial at given
    split at given
    · cases given
    next octets read =>
    split at given
    · cases given
    next subject parsed =>
    split at given
    · next rsa =>
      exact ⟨octets, subject, decodeText_standard_iff.1 read, parsed, by simpa using rsa,
        (Except.ok.inj given).symm⟩
    · cases given
  · rintro ⟨octets, subject, spells, parsed, rsa, rfl⟩
    simp [certificateMaterial, decodeText_standard_iff.2 spells, parsed, rsa]

/-- A certificate yields no material for the fault that it has. -/
theorem certificateMaterial_eq_error_iff {leaf : String} {r : Rejection} :
    certificateMaterial leaf = .error r ↔ CertificateFault leaf r := by
  constructor
  · intro failed
    unfold certificateMaterial at failed
    split at failed
    · next cause garbled => exact Except.error.inj failed ▸ .text garbled
    next octets read =>
    split at failed
    · next unparsed =>
      exact Except.error.inj failed ▸ .shape (decodeText_standard_iff.1 read) unparsed
    next subject parsed =>
    split at failed
    · cases failed
    · next other =>
      exact Except.error.inj failed ▸
        .kind (decodeText_standard_iff.1 read) parsed (by simpa using other)
  · intro fault
    cases fault with
    | text garbled => simp [certificateMaterial, garbled]
    | shape spells unparsed =>
      simp [certificateMaterial, decodeText_standard_iff.2 spells, unparsed]
    | kind spells parsed other =>
      simp [certificateMaterial, decodeText_standard_iff.2 spells, parsed, other]

/-- Both numbers, where given, are the material, and no certificate is looked at. -/
theorem rsaMaterial_of_numbers {n e : String} (hasN : Has k.n n) (hasE : Has k.e e) :
    k.rsaMaterial = checkedPair "n" "e" n e .rsa := by
  rw [rsaMaterial, nonEmpty_eq_some_iff.2 hasN, nonEmpty_eq_some_iff.2 hasE]
  rfl

/-- Without both numbers, the chain of certificates is what there is. -/
theorem rsaMaterial_of_lacks (without : Lacks k.n ∨ Lacks k.e) :
    k.rsaMaterial = match k.x5c.bind (·.head?) with
      | some leaf => certificateMaterial leaf
      | none => .error .missingMaterial := by
  unfold rsaMaterial
  rcases without with lacks | lacks
  · cases k.x5c.bind (·.head?) <;> rw [nonEmpty_eq_none_iff.2 lacks]
  · rw [nonEmpty_eq_none_iff.2 lacks]
    cases nonEmpty k.n <;> cases k.x5c.bind (·.head?) <;> rfl

theorem ecMaterial_of_coordinates {x y : String} (hasX : Has k.x x) (hasY : Has k.y y) :
    k.ecMaterial = checkedPair "x" "y" x y .ec := by
  rw [ecMaterial, nonEmpty_eq_some_iff.2 hasX, nonEmpty_eq_some_iff.2 hasY]
  rfl

private theorem ecMaterial_of_lacks (without : Lacks k.x ∨ Lacks k.y) :
    k.ecMaterial = .error .missingMaterial := by
  unfold ecMaterial
  rcases without with lacks | lacks
  · rw [nonEmpty_eq_none_iff.2 lacks]
  · rw [nonEmpty_eq_none_iff.2 lacks]
    cases nonEmpty k.x <;> rfl

/-! ## Families -/

theorem materialOf_of_supplies {family : KeyType} {material : Material}
    (supplied : k.Supplies family material) : k.materialOf family = .ok material := by
  cases supplied with
  | numbers hasN hasE spellsN spellsE =>
    rw [materialOf, rsaMaterial_of_numbers hasN hasE]
    exact checkedPair_of_spells hasN.something hasE.something spellsN spellsE
  | certificate without chain spells parsed rsa =>
    rw [materialOf, rsaMaterial_of_lacks without, chain]
    exact certificateMaterial_eq_ok_iff.2 ⟨_, _, spells, parsed, rsa, rfl⟩
  | point hasX hasY spellsX spellsY =>
    rw [materialOf, ecMaterial_of_coordinates hasX hasY]
    exact checkedPair_of_spells hasX.something hasY.something spellsX spellsY

theorem materialOf_of_fault {family : KeyType} {r : Rejection}
    (fault : k.MaterialFault family r) : k.materialOf family = .error r := by
  cases fault with
  | numbers hasN hasE fault =>
    rw [materialOf, rsaMaterial_of_numbers hasN hasE]
    exact checkedPair_of_fault hasN.something fault
  | certificate without chain fault =>
    rw [materialOf, rsaMaterial_of_lacks without, chain]
    exact certificateMaterial_eq_error_iff.2 fault
  | nothing without chain =>
    rw [materialOf, rsaMaterial_of_lacks without]
    rcases chain with chain | chain <;> rw [chain] <;> rfl
  | coordinates hasX hasY fault =>
    rw [materialOf, ecMaterial_of_coordinates hasX hasY]
    exact checkedPair_of_fault hasX.something fault
  | halfPoint without => exact ecMaterial_of_lacks without

/-- Of every family, an entry either has material or something is wrong with it. -/
theorem supplies_or_fault (k : Jwk) (family : KeyType) :
    (∃ material, k.Supplies family material) ∨ ∃ r, k.MaterialFault family r := by
  cases family with
  | rsa =>
    have chained (without : Lacks k.n ∨ Lacks k.e) :
        (∃ material, k.Supplies .rsa material) ∨ ∃ r, k.MaterialFault .rsa r := by
      rcases chain : k.x5c with _ | _ | ⟨leaf, rest⟩
      · exact .inr ⟨_, .nothing without (.inl chain)⟩
      · exact .inr ⟨_, .nothing without (.inr chain)⟩
      cases decided : certificateMaterial leaf with
      | ok material =>
        obtain ⟨octets, subject, spells, parsed, rsa, -⟩ := certificateMaterial_eq_ok_iff.1 decided
        exact .inl ⟨_, .certificate without chain spells parsed rsa⟩
      | error r =>
        exact .inr ⟨r, .certificate without chain (certificateMaterial_eq_error_iff.1 decided)⟩
    rcases has_or_lacks k.n with ⟨n, hasN⟩ | lacks
    · rcases has_or_lacks k.e with ⟨e, hasE⟩ | lacks
      · rcases spells_or_fault "n" "e" n e with ⟨a, b, spellsN, spellsE⟩ | ⟨r, fault⟩
        · exact .inl ⟨_, .numbers hasN hasE spellsN spellsE⟩
        · exact .inr ⟨r, .numbers hasN hasE fault⟩
      · exact chained (.inr lacks)
    · exact chained (.inl lacks)
  | ec =>
    rcases has_or_lacks k.x with ⟨x, hasX⟩ | lacks
    · rcases has_or_lacks k.y with ⟨y, hasY⟩ | lacks
      · rcases spells_or_fault "x" "y" x y with ⟨a, b, spellsX, spellsY⟩ | ⟨r, fault⟩
        · exact .inl ⟨_, .point hasX hasY spellsX spellsY⟩
        · exact .inr ⟨r, .coordinates hasX hasY fault⟩
      · exact .inr ⟨_, .halfPoint (.inr lacks)⟩
    · exact .inr ⟨_, .halfPoint (.inl lacks)⟩

/-- The material of an entry is what it supplies for the family. -/
theorem materialOf_eq_ok_iff {family : KeyType} {material : Material} :
    k.materialOf family = .ok material ↔ k.Supplies family material := by
  constructor
  · intro given
    rcases supplies_or_fault k family with ⟨other, supplied⟩ | ⟨r, fault⟩
    · rw [materialOf_of_supplies supplied] at given
      rwa [← Except.ok.inj given]
    · rw [materialOf_of_fault fault] at given
      cases given
  · exact materialOf_of_supplies

/-- Material is refused for the fault that it has. -/
theorem materialOf_eq_error_iff {family : KeyType} {r : Rejection} :
    k.materialOf family = .error r ↔ k.MaterialFault family r := by
  constructor
  · intro failed
    rcases supplies_or_fault k family with ⟨material, supplied⟩ | ⟨other, fault⟩
    · rw [materialOf_of_supplies supplied] at failed
      cases failed
    · rw [materialOf_of_fault fault] at failed
      rwa [← Except.error.inj failed]
  · exact materialOf_of_fault

end TokenGate.Jwk
