import TokenGate.Proofs.Key.Filter
import TokenGate.Proofs.Refresh.Accounting
import TokenGate.Proofs.Result
import TokenGate.Proofs.Token.Acceptance
import TokenGate.Token.Signature

/-! # Which keys of a set can verify

The filter asks whether material is spelt, and the signature check whether it makes a key. Between
the two lie the keys that are kept and verify nothing. Such a key hides every key of its id that
stands behind it, and a document of nothing else still makes a set. -/

namespace TokenGate

theorem Rsa.PublicKey.isSome_ofOctets?_iff (modulus exponent : List UInt8) :
    (ofOctets? modulus exponent).isSome = true ↔
      modulus.head? ≠ some 0 ∧ exponent.head? ≠ some 0 ∧
        usable ⟨Octets.natural modulus, Octets.natural exponent⟩ = true := by
  simp only [ofOctets?]
  split_ifs with makes <;> simpa [and_assoc] using makes

theorem Ecdsa.Curve.isSome_point?_iff (c : Curve) (key : List UInt8) :
    (c.point? key).isSome = true ↔
      key.length = 2 * c.size ∧
        c.contains (Octets.natural (key.take c.size))
          (Octets.natural (key.drop c.size)) = true := by
  simp only [point?]
  split_ifs with lies <;> simpa using lies

/-- The curve of an algorithm. -/
def Algorithm.curve? : Algorithm → Option Ecdsa.Curve
  | es256 => some Ecdsa.p256
  | es384 => some Ecdsa.p384
  | _ => none

/-- Material makes a key that verification under an algorithm does not refuse. -/
def Material.usable (material : Material) (algorithm : Algorithm) : Bool :=
  match algorithm.keyType? with
  | some .rsa => material.rsaKey?.isSome
  | some .ec => (algorithm.curve?.bind fun c => material.curveKey?.bind c.point?).isSome
  | none => false

/-- A key is one that can verify. -/
def SigningKey.usable (k : SigningKey) : Bool := k.material.usable k.algorithm

namespace Material

variable {algorithm : Algorithm}

/-- Numbers make an RSA key that can verify: without leading zeros, odd and of the right sizes. -/
theorem usable_rsa_iff (family : algorithm.keyType? = some .rsa) (modulus exponent : List UInt8) :
    (rsa modulus exponent).usable algorithm = true ↔
      (modulus.head? ≠ some 0 ∧ exponent.head? ≠ some 0) ∧
        (2048 ≤ Rsa.bitLength (Octets.natural modulus) ∧
          Rsa.bitLength (Octets.natural modulus) ≤ 8192 ∧ Octets.natural modulus % 2 = 1) ∧
        2 ≤ Rsa.bitLength (Octets.natural exponent) ∧
          Rsa.bitLength (Octets.natural exponent) ≤ 33 ∧ Octets.natural exponent % 2 = 1 := by
  simp only [usable, family, rsaKey?, Rsa.PublicKey.isSome_ofOctets?_iff, Rsa.PublicKey.usable,
    Bool.and_eq_true, decide_eq_true_eq, beq_iff_eq, and_assoc]

/-- Coordinates make a key of a curve that can verify: together of the right length, and a point. -/
theorem usable_ec_iff (family : algorithm.keyType? = some .ec) {c : Ecdsa.Curve}
    (curve : algorithm.curve? = some c) (x y : List UInt8) :
    (ec x y).usable algorithm = true ↔
      (x ++ y).length = 2 * c.size ∧
        c.contains (Octets.natural ((x ++ y).take c.size))
          (Octets.natural ((x ++ y).drop c.size)) = true := by
  simp only [usable, family, curve, curveKey?, Option.bind_some, c.isSome_point?_iff]

private theorem verifyRsa_of_isNone {material : Material}
    (unusable : material.rsaKey?.isSome = false) (verify : Rsa.PublicKey → Bool) :
    material.verifyRsa verify = false := by
  have none : material.rsaKey? = none := by simpa using unusable
  rw [verifyRsa, none]
  rfl

private theorem verifyCurve_of_isNone {material : Material} {c : Ecdsa.Curve}
    (unusable : (material.curveKey?.bind c.point?).isSome = false)
    (message signature : List UInt8) : material.verifyCurve c message signature = false := by
  unfold verifyCurve
  rcases given : material.curveKey? with _ | key
  · rfl
  · have none : c.point? key = none := by simpa [given] using unusable
    simp [Ecdsa.Curve.verify, none]

end Material

/-- What is not usable verifies nothing. -/
theorem verifySignature_of_unusable {material : Material} {algorithm : Algorithm}
    (unusable : material.usable algorithm = false) (message signature : List UInt8) :
    verifySignature material algorithm message signature = false := by
  cases algorithm with
  | es256 | es384 => exact Material.verifyCurve_of_isNone unusable message signature
  | hs256 | hs384 | hs512 | edDsa => rfl
  | _ => exact Material.verifyRsa_of_isNone unusable _

/-- A token is accepted only under a usable key. -/
theorem Validator.usable_of_accepted {v : Validator} {set : KeySet} {now : UInt64} {token : String}
    {c : Claims} (accepted : (v.validate verifySignature set now token).1 = .ok c) :
    ∃ key, set.get? c.keyId = some key ∧ key.usable = true := by
  rw [validate_fst, judge_eq_ok_iff] at accepted
  obtain ⟨t, -, accepted⟩ := accepted
  obtain ⟨key, member, -, -, accepted⟩ :=
    (v.judgeRead_eq_ok_iff verifySignature set now t c).1 accepted
  obtain ⟨-, holds, -, -, carries⟩ :=
    (v.judgeUnder_eq_ok_iff verifySignature now t key.kid key c).1 accepted
  refine ⟨key, (set.get?_eq_some_iff _ _).2 ⟨member, carries.keyId.symm⟩, ?_⟩
  by_contra unusable
  unfold ReadToken.signatureHolds at holds
  split at holds
  · next signature _ =>
    rw [verifySignature_of_unusable (Bool.not_eq_true _ ▸ unusable)] at holds
    cases holds
  · cases holds

/-- An entry is admitted under an id with a usable key. -/
def HasUsableKey (entry : Json) (kid : String) : Prop :=
  ∃ jwk key, Admitted entry jwk key ∧ jwk.kid = some kid ∧ key.usable = true

/-- An entry with a usable key stands behind one of its id with an unusable one. -/
def Shadowed (entries : List Json) (kid : String) : Prop :=
  (∃ key, FirstAdmitted entries kid key ∧ key.usable = false) ∧
    ∃ entry ∈ entries, HasUsableKey entry kid

/-- Where an entry of an id is admitted, one is the first. -/
theorem exists_firstAdmitted {entries : List Json} {entry : Json} {jwk : Jwk} {key : SigningKey}
    {kid : String} (member : entry ∈ entries) (admitted : Admitted entry jwk key)
    (named : jwk.kid = some kid) : ∃ first, FirstAdmitted entries kid first := by
  have own : key.kid = kid :=
    Option.some.inj ((Jwk.kid_of_signingKey admitted.passed).symm.trans named)
  have listed : key ∈ entries.filterMap admittedKey? :=
    List.mem_filterMap.2 ⟨entry, member, (admittedKey?_eq_some_iff entry key).2 ⟨jwk, admitted⟩⟩
  have found : ((entries.filterMap admittedKey?).find? fun k => k.kid == kid).isSome = true := by
    rw [List.find?_isSome]
    exact ⟨key, listed, beq_iff_eq.2 own⟩
  obtain ⟨first, found⟩ := Option.isSome_iff_exists.1 found
  exact ⟨first, (KeySet.find?_admittedKeys entries kid first).1 found⟩

/-- Where a set with keys is to be preserved, a document leaves the cache as it is exactly if it has
no usable keys. -/
theorem RefreshEnd.cache_kept_iff {r : Refresher} {s s' : RefreshState} {fetch : FetchResult}
    {time : SystemTime} {outcome : RefreshOutcome} (ended : RefreshEnd r s fetch time s' outcome)
    (document : BringsDocument fetch) (policy : r.emptyPolicy = .preserveExisting)
    (held : s.cache.current.keys ≠ []) :
    s'.cache = s.cache ↔ ∃ n, fetch.1 = .error (.noUsableKeys n) := by
  have newer (set : KeySet) : s.cache.install set ≠ s.cache := fun same =>
    Nat.succ_ne_self _ (congrArg KeyCache.generation same)
  cases ended with
  | installed fetched cache => simp [cache, fetched, newer]
  | emptied _ gone => exact absurd (gone policy) held
  | kept fetched _ _ cache => simp [cache, fetched]
  | failed fetched other =>
    rcases document with ⟨set, found⟩ | ⟨n, found⟩
    · cases fetched.symm.trans found
    · exact absurd (Except.error.inj (fetched.symm.trans found)) (other n)

/-- An entry with a usable key is one whose admitted key is usable. -/
theorem exists_hasUsableKey_iff (entries : List Json) (kid : String) :
    (∃ entry ∈ entries, HasUsableKey entry kid) ↔
      ((entries.filterMap admittedKey?).any fun k => k.kid == kid && k.usable) = true := by
  simp only [List.any_eq_true, List.mem_filterMap, Bool.and_eq_true, beq_iff_eq,
    admittedKey?_eq_some_iff]
  constructor
  · rintro ⟨entry, member, jwk, key, admitted, named, usable⟩
    have same := (Jwk.kid_of_signingKey admitted.passed).symm.trans named
    exact ⟨key, ⟨entry, member, jwk, admitted⟩, Option.some.inj same, usable⟩
  · rintro ⟨key, ⟨entry, member, jwk, admitted⟩, rfl, usable⟩
    exact ⟨entry, member, jwk, key, admitted, Jwk.kid_of_signingKey admitted.passed, usable⟩

namespace KeySet

private theorem bringsDocument_ofEntries (entries : List Json) (time : SystemTime) :
    BringsDocument (ofEntries entries time) := by
  by_cases admits : ∃ entry ∈ entries, Admissible entry
  · exact .inl ⟨_, ofEntries_of_some admits time⟩
  · exact .inr ⟨_, ofEntries_of_none (by simpa using admits) time⟩

variable {entries : List Json} {time : SystemTime} {set : KeySet}

/-- A usable key of an id is found exactly if no unusable one of the id hides it. -/
theorem usable_found_iff (made : (ofEntries entries time).1 = .ok set) (kid : String) :
    ((∃ entry ∈ entries, HasUsableKey entry kid) →
        ∃ key, set.get? kid = some key ∧ key.usable = true) ↔ ¬ Shadowed entries kid := by
  simp only [get?_of_ofEntries made]
  constructor
  · rintro found ⟨⟨key, first, unusable⟩, has⟩
    obtain ⟨key', first', usable⟩ := found has
    have same := ((get?_of_ofEntries made kid key).2 first).symm.trans
      ((get?_of_ofEntries made kid key').2 first')
    rw [Option.some.inj same, usable] at unusable
    cases unusable
  · rintro clear ⟨entry, member, has⟩
    obtain ⟨jwk, key, admitted, named, usable⟩ := id has
    obtain ⟨first, isFirst⟩ := exists_firstAdmitted member admitted named
    refine ⟨first, isFirst, ?_⟩
    by_contra unusable
    exact clear ⟨⟨first, isFirst, Bool.not_eq_true _ ▸ unusable⟩, entry, member, has⟩

private theorem keys_usable_iff (made : (ofEntries entries time).1 = .ok set) :
    (∀ key ∈ set.keys, key.usable = true) ↔
      ∀ kid key, FirstAdmitted entries kid key → key.usable = true := by
  simp only [← get?_of_ofEntries made, get?_eq_some_iff]
  constructor
  · rintro usable kid key ⟨member, -⟩
    exact usable key member
  · exact fun usable key member => usable key.kid key ⟨member, rfl⟩

/-- What of a document can verify. A usable key is found under its id unless an unusable one of the
id stands before it, all keys are usable exactly if the first ones of their ids are, and tokens are
accepted under usable ones only. There is no set, and a healthy one stays in place, exactly if no
entry is admitted, with a usable key or without. -/
theorem ofDocument_usable_iff {body : List UInt8}
    (decodes : documentEntries? body = some entries) (time : SystemTime) :
    (∀ set, (ofDocument body time).1 = .ok set →
      (∀ kid, ((∃ entry ∈ entries, HasUsableKey entry kid) →
        ∃ key, set.get? kid = some key ∧ key.usable = true) ↔ ¬ Shadowed entries kid) ∧
      ((∀ key ∈ set.keys, key.usable = true) ↔
        ∀ kid key, FirstAdmitted entries kid key → key.usable = true) ∧
      (∀ (v : Validator) now token c, (v.validate verifySignature set now token).1 = .ok c →
        ∃ key, set.get? c.keyId = some key ∧ key.usable = true) ∧
      ∀ r (s : RefreshState) time',
        (s.refreshOnce r (ofDocument body time) time').1.cache = s.cache.install set) ∧
    ((∃ n, (ofDocument body time).1 = .error (.noUsableKeys n)) ↔
      ∀ entry ∈ entries, ¬ Admissible entry) ∧
    ∀ r (s : RefreshState) time', r.emptyPolicy = .preserveExisting → s.cache.current.keys ≠ [] →
      ((s.refreshOnce r (ofDocument body time) time').1.cache = s.cache ↔
        ∀ entry ∈ entries, ¬ Admissible entry) := by
  rw [ofDocument_of_entries decodes]
  have noKeys_iff : (∃ n, (ofEntries entries time).1 = .error (.noUsableKeys n)) ↔
      ∀ entry ∈ entries, ¬ Admissible entry := by
    simp [ofEntries_eq_noUsableKeys_iff]
  refine ⟨fun set made => ⟨usable_found_iff made, keys_usable_iff made,
    fun v now token c accepted => Validator.usable_of_accepted accepted, ?_⟩, noKeys_iff, ?_⟩
  · intro r s time'
    rw [RefreshState.refreshOnce, RefreshState.complete]
    simp only [made]
    rfl
  · intro r s time' policy held
    have document := bringsDocument_ofEntries entries time
    have ended := s.attempt.complete_end r (ofEntries entries time) time'
    exact (ended.cache_kept_iff document policy held).trans noKeys_iff

/-- The text of an entry for a point of the curve of 256 bits. -/
def pointText (x y : String) : List UInt8 :=
  Text.encodeUtf8 "\x7b\"kty\":\"EC\",\"use\":\"sig\",\"kid\":\"a\",\"crv\":\"P-256\"," ++
    Text.encodeUtf8 "\"x\":\"" ++ Text.encodeUtf8 x ++
      Text.encodeUtf8 "\",\"y\":\"" ++ Text.encodeUtf8 y ++ Text.encodeUtf8 "\"\x7d"

/-- The entry for the base point. -/
def baseText : List UInt8 :=
  pointText "axfR8uEsQkf4vOblY6RA8ncDfYEt6zOg9KE5RdiYwpY"
    "T-NC4v4af5uO5-tKfA-eFivOM1drMV7Oy7ZAaDe_UfU"

/-- An entry with one octet for each coordinate. -/
def shortText : List UInt8 := pointText "AA" "AA"

/-- A document of two entries. -/
def documentOf (first second : List UInt8) : List UInt8 :=
  Text.encodeUtf8 "\x7b\"keys\":[" ++ first ++ Text.encodeUtf8 "," ++ second ++
    Text.encodeUtf8 "]\x7d"

/-- With the usable key in front, all keys of the document are usable, and it is found. -/
theorem ofDocument_usable_iff_in_front :
    ∃ entries set, documentEntries? (documentOf baseText shortText) = some entries ∧
      (ofDocument (documentOf baseText shortText)).1 = .ok set ∧
      (∃ entry ∈ entries, HasUsableKey entry "a") ∧ ¬ Shadowed entries "a" ∧
      ∃ key, set.get? "a" = some key ∧ key.usable = true := by
  have decoded : ((documentEntries? (documentOf baseText shortText)).any fun entries =>
      (entries.filterMap admittedKey?).any fun k => k.kid == "a" && k.usable) = true := by
    decide +kernel
  have evaluated : ((ofDocument (documentOf baseText shortText)).1.toOption.any fun set =>
      set.keys.all SigningKey.usable) = true := by
    decide +kernel
  obtain ⟨entries, decodes, has⟩ := (Option.any_eq_true _ _).1 decoded
  obtain ⟨set, made, usable⟩ := exists_ok_of_any evaluated
  rw [← exists_hasUsableKey_iff] at has
  obtain ⟨found_iff, usable_iff, -⟩ := (ofDocument_usable_iff decodes 0).1 set made
  have clear : ¬ Shadowed entries "a" := by
    rintro ⟨⟨key, first, unusable⟩, -⟩
    rw [usable_iff.1 (by simpa using usable) "a" key first] at unusable
    cases unusable
  exact ⟨entries, set, decodes, made, has, clear, (found_iff "a").2 clear has⟩

/-- With the unusable key in front, it is the only one, although the document has a usable one of
its id. Without any usable key there is a set, too. -/
theorem usable_key_hidden :
    (∃ entries set, documentEntries? (documentOf shortText baseText) = some entries ∧
      (ofDocument (documentOf shortText baseText)).1 = .ok set ∧
      (∃ entry ∈ entries, HasUsableKey entry "a") ∧
      ∃ key, set.get? "a" = some key ∧ key.usable = false) ∧
    ∃ set, (ofDocument (documentOf shortText shortText)).1 = .ok set ∧
      ∀ key ∈ set.keys, key.usable = false := by
  have decoded : ((documentEntries? (documentOf shortText baseText)).any fun entries =>
      (entries.filterMap admittedKey?).any fun k => k.kid == "a" && k.usable) = true := by
    decide +kernel
  have hidden : ((ofDocument (documentOf shortText baseText)).1.toOption.any fun set =>
      (set.get? "a").any fun k => !k.usable) = true := by
    decide +kernel
  have unusable : ((ofDocument (documentOf shortText shortText)).1.toOption.any fun set =>
      set.keys.all fun k => !k.usable) = true := by
    decide +kernel
  obtain ⟨entries, decodes, has⟩ := (Option.any_eq_true _ _).1 decoded
  obtain ⟨set, made, shown⟩ := exists_ok_of_any hidden
  obtain ⟨key, found, useless⟩ := (Option.any_eq_true _ _).1 shown
  obtain ⟨set', made', useless'⟩ := exists_ok_of_any unusable
  rw [← exists_hasUsableKey_iff] at has
  exact ⟨⟨entries, set, decodes, made, has, key, found, by simpa using useless⟩, set', made',
    by simpa using useless'⟩

end KeySet

end TokenGate
