import TokenGate.Key.Cache
import TokenGate.Proofs.Key.Entry
import TokenGate.Proofs.Refresh.Latest
import TokenGate.Proofs.Token.Acceptance

/-! # Where the key of an accepted token comes from

Key documents are served one after another, and those with usable keys are installed. A token is
accepted under a key that an entry of the last installed document describes, and with the algorithm
of that entry. All that a verdict takes from a token's header is the algorithm and the id: keys that
the header itself carries or points to verify nothing. -/

namespace TokenGate

/-- A document that is served, and the time at which it is read. -/
structure Publication where
  body : List UInt8
  time : SystemTime

namespace Publication

/-- The set that a document makes. -/
def set? (p : Publication) : Option KeySet := (KeySet.ofDocument p.body p.time).1.toOption

/-- A document makes a set, and these are its entries. -/
structure Installs (p : Publication) (entries : List Json) : Prop where
  decodes : KeySet.documentEntries? p.body = some entries
  made : p.set? ≠ none

theorem set?_eq_some_iff (p : Publication) (set : KeySet) :
    p.set? = some set ↔ (KeySet.ofDocument p.body p.time).1 = .ok set := by
  unfold set?
  cases (KeySet.ofDocument p.body p.time).1 <;> simp [Except.toOption]

/-- A set holds the keys of the entries that its document has. -/
theorem firstAdmitted_of_set? {p : Publication} {set : KeySet} (made : p.set? = some set) :
    ∃ entries, p.Installs entries ∧
      ∀ kid key, set.get? kid = some key → FirstAdmitted entries kid key := by
  have read := (p.set?_eq_some_iff set).1 made
  cases decodes : KeySet.documentEntries? p.body with
  | none => simp [KeySet.ofDocument, decodes] at read
  | some entries =>
    rw [KeySet.ofDocument_of_entries decodes] at read
    refine ⟨entries, ⟨decodes, by simp [made]⟩, fun kid key found => ?_⟩
    exact (KeySet.get?_of_ofEntries read kid key).1 found

end Publication

namespace KeyCache

/-- The cache behind documents served one after another, the sets that they make installed. -/
def published (publications : List Publication) : KeyCache :=
  KeyCache.new.installAll (publications.filterMap Publication.set?)

/-- A document more is installed if it makes a set. -/
theorem published_concat (publications : List Publication) (p : Publication) :
    published (publications ++ [p]) =
      match p.set? with
      | some set => (published publications).install set
      | none => published publications := by
  unfold published installAll
  rw [List.filterMap_append, List.foldl_append]
  cases made : p.set? <;> simp [made]

/-- The keys of a cache are those of the first admitted entries of the last installed document. -/
theorem firstAdmitted_of_published {publications : List Publication} {kid : String}
    {key : SigningKey} (found : (published publications).current.get? kid = some key) :
    ∃ entries, Latest Publication.Installs publications entries ∧
      FirstAdmitted entries kid key := by
  induction publications using List.reverseRecOn with
  | nil => cases found
  | append_singleton publications p ih =>
    rw [published_concat] at found
    cases made : p.set? with
    | none =>
      rw [made] at found
      obtain ⟨entries, latest, first⟩ := ih found
      exact ⟨entries, latest.concat fun _ installs => installs.made made, first⟩
    | some set =>
      rw [made] at found
      obtain ⟨entries, installs, first⟩ := Publication.firstAdmitted_of_set? made
      exact ⟨entries, Latest.of_last installs, first kid key found⟩

/-- Every key of a cache is what an entry of the last installed document says. -/
theorem described_of_published {publications : List Publication} {key : SigningKey}
    (member : key ∈ (published publications).current.keys) :
    ∃ entries entry jwk, Latest Publication.Installs publications entries ∧ entry ∈ entries ∧
      Jwk.ofJson? entry = some jwk ∧ jwk.Describes key := by
  have found := ((published publications).current.get?_eq_some_iff key.kid key).2 ⟨member, rfl⟩
  obtain ⟨entries, latest, before, entry, after, jwk, rfl, admitted, _⟩ :=
    firstAdmitted_of_published found
  exact ⟨_, entry, jwk, latest, by simp, admitted.read, Jwk.describes_of_signingKey admitted.passed⟩

end KeyCache

section

variable {check check' : SignatureCheck} {text text' : String} {h : TokenHeader} {p : Payload}

/-- A text that says a header and a payload is read, unless an expiry is missing. -/
theorem ReadToken.ofText_of_says (header : SaysHeader text h) (payload : SaysPayload text p) :
    if p.exp = none then ofText text = .error (.malformedToken .missingExpiry)
    else ∃ t, ofText text = .ok t ∧ t.header = h ∧ t.payload = p ∧
      ∀ check key, t.signatureHolds check key = true ↔ SignedUnder check text key := by
  obtain ⟨first, second, third, segments, headerSpelt⟩ := header
  have payloadSpelt := (segments.saysPayload_iff p).1 payload
  obtain ⟨octets, decoded, parsed⟩ := id payloadSpelt
  rw [ofText_of_segments segments]
  split_ifs with missing
  · simp [ofSegments, spells_iff.1 headerSpelt, decoded, parsed, missing]
  · have read := (ofSegments_eq_ok_iff first second third
      ⟨h, p, first ++ "." ++ second, third⟩).2 ⟨headerSpelt, payloadSpelt, missing, rfl, rfl⟩
    have of : ReadToken.Of ⟨h, p, first ++ "." ++ second, third⟩ text first second third :=
      ⟨segments, headerSpelt, payloadSpelt, missing, rfl, rfl⟩
    refine ⟨_, read, rfl, rfl, fun check key => ?_⟩
    rw [of.signatureHolds_iff, segments.signedUnder_iff]

variable (v : Validator) {set : KeySet} (now : UInt64)

private theorem Validator.judgeRead_congr {t t' : ReadToken} (header : t'.header = t.header)
    (payload : t'.payload = t.payload)
    (signed : ∀ key ∈ set.keys, t'.signatureHolds check' key = t.signatureHolds check key) :
    v.judgeRead check' set now t' = v.judgeRead check set now t := by
  unfold judgeRead
  rw [header]
  split
  · rfl
  · next kid named =>
    split
    · rfl
    · next key found =>
      have member := ((set.get?_eq_some_iff kid key).1 found).1
      simp only [judgeUnder, header, payload, signed key member]

/-- Texts with the same algorithm, id and payload get the same verdict, as long as their signatures
agree under the keys of the set. -/
theorem Validator.judge_congr (header : SaysHeader text h) (payload : SaysPayload text p)
    (header' : SaysHeader text' h) (payload' : SaysPayload text' p)
    (signed : ∀ key ∈ set.keys, SignedUnder check' text' key ↔ SignedUnder check text key) :
    v.judge check' set now text' = v.judge check set now text := by
  have read := ReadToken.ofText_of_says header payload
  have read' := ReadToken.ofText_of_says header' payload'
  unfold judge
  split_ifs at read read' with missing
  · rw [read, read']
  · obtain ⟨t, read, rfl, rfl, holds⟩ := read
    obtain ⟨t', read', sameHeader, samePayload, holds'⟩ := read'
    rw [read, read']
    refine v.judgeRead_congr now sameHeader samePayload fun key member => ?_
    rw [Bool.eq_iff_iff, holds, holds', signed key member]

/-- An accepted text is signed under the key of the set that its header names. -/
theorem Validator.signed_of_judge {c : Claims} (accepted : (v.judge check set now text).1 = .ok c) :
    ∃ h, SaysHeader text h ∧ ∃ key ∈ set.keys, h.kid = some key.kid ∧
      h.algorithm = key.algorithm ∧ SignedUnder check text key := by
  obtain ⟨t, read, accepted⟩ := (v.judge_eq_ok_iff check set now text c).1 accepted
  obtain ⟨key, member, named, _, accepted⟩ := (v.judgeRead_eq_ok_iff check set now t c).1 accepted
  obtain ⟨algorithm, holds, _⟩ := (v.judgeUnder_eq_ok_iff check now t key.kid key c).1 accepted
  obtain ⟨first, second, third, of⟩ := (ReadToken.ofText_eq_ok_iff text t).1 read
  have signed := (of.segments.signedUnder_iff check key).2
    ((of.signatureHolds_iff check key).1 holds)
  exact ⟨t.header, (of.saysHeader_iff t.header).2 rfl, key, member, named, algorithm, signed⟩

end

/-- Whatever documents are served, an accepted token is signed under a key that an entry of the last
installed one describes, with the algorithm of that entry. So no key verifies with an algorithm of
another family, no token with a symmetric algorithm or EdDSA is accepted, and of a header only the
algorithm and the id matter. -/
theorem Validator.accepted_under_published_key (check : SignatureCheck) (v : Validator)
    (now : UInt64) (publications : List Publication) :
    let set := (KeyCache.published publications).current
    (∀ token c, (v.validate check set now token).1 = .ok c →
      ∃ h entries entry jwk key, SaysHeader (Text.trim token) h ∧
        Latest Publication.Installs publications entries ∧ entry ∈ entries ∧
        Jwk.ofJson? entry = some jwk ∧ jwk.Describes key ∧
        h.kid = some key.kid ∧ h.algorithm = key.algorithm ∧
        SignedUnder check (Text.trim token) key) ∧
    (∀ key ∈ set.keys, key.algorithm.keyType? = some key.keyType ∧
      key.material.family = key.keyType) ∧
    (∀ token h, SaysHeader (Text.trim token) h → h.algorithm ∈ [.hs256, .hs384, .hs512, .edDsa] →
      ∀ c, (v.validate check set now token).1 ≠ .ok c) ∧
    ∀ check' token token' h p, SaysHeader (Text.trim token) h → SaysPayload (Text.trim token) p →
      SaysHeader (Text.trim token') h → SaysPayload (Text.trim token') p →
      (∀ key ∈ set.keys, SignedUnder check' (Text.trim token') key ↔
        SignedUnder check (Text.trim token) key) →
      v.validate check' set now token' = v.validate check set now token := by
  intro set
  have families : ∀ key ∈ set.keys, key.algorithm.keyType? = some key.keyType ∧
      key.material.family = key.keyType := by
    intro key member
    obtain ⟨_, _, jwk, _, _, _, describes⟩ := KeyCache.described_of_published member
    exact ⟨describes.family, describes.materialFamily⟩
  refine ⟨?_, families, ?_, ?_⟩
  · intro token c accepted
    obtain ⟨h, spelt, key, member, named, algorithm, signed⟩ := v.signed_of_judge now accepted
    obtain ⟨entries, entry, jwk, latest, listed, read, describes⟩ :=
      KeyCache.described_of_published member
    exact ⟨h, entries, entry, jwk, key, spelt, latest, listed, read, describes, named, algorithm,
      signed⟩
  · intro token h spelt excluded c accepted
    obtain ⟨h', spelt', key, member, _, algorithm, _⟩ := v.signed_of_judge now accepted
    obtain rfl := spelt.unique spelt'
    have verifies := (families key member).1
    rw [← algorithm] at verifies
    have without : ∀ a ∈ [Algorithm.hs256, .hs384, .hs512, .edDsa], a.keyType? = none := by decide
    cases (without h.algorithm excluded).symm.trans verifies
  · intro check' token token' h p header payload header' payload' signed
    unfold validate
    rw [v.judge_congr now header payload header' payload' signed]

/-- The entry names no algorithm, which is inferred from its curve. -/
theorem Validator.accepted_under_published_key_inferred :
    let v : Validator := ⟨"i", "a", .ofSeconds 60⟩
    let p : Publication := ⟨("\x7b\"keys\":[\x7b\"kty\":\"EC\",\"use\":\"sig\",\"kid\":\"a\"," ++
      "\"crv\":\"P-256\",\"x\":\"AA\",\"y\":\"AA\"\x7d]\x7d").toUTF8.toList, 0⟩
    let token := "eyJhbGciOiJFUzI1NiIsImtpZCI6ImEifQ." ++
      "eyJpc3MiOiJpIiwiYXVkIjoiYSIsInN1YiI6InMiLCJleHAiOjksImlhdCI6MH0.AA"
    ∃ c h entries entry jwk key,
      (v.validate (fun _ _ _ _ => true) (KeyCache.published [p]).current 5 token).1 = .ok c ∧
      SaysHeader (Text.trim token) h ∧ Latest Publication.Installs [p] entries ∧ entry ∈ entries ∧
      Jwk.ofJson? entry = some jwk ∧ jwk.Describes key ∧ h.algorithm = key.algorithm := by
  intro v p token
  have evaluated : ((v.validate (fun _ _ _ _ => true) (KeyCache.published [p]).current 5
      token).1.toOption.any fun c => c.subject == "s") = true := by decide +kernel
  obtain ⟨c, accepted, -⟩ := exists_ok_of_any evaluated
  obtain ⟨sound, -⟩ := accepted_under_published_key (fun _ _ _ _ => true) v 5 [p]
  obtain ⟨h, entries, entry, jwk, key, spelt, latest, listed, read, describes, -, algorithm, -⟩ :=
    sound token c accepted
  exact ⟨c, h, entries, entry, jwk, key, accepted, spelt, latest, listed, read, describes, algorithm⟩

end TokenGate
