import TokenGate.Proofs.Token.Segments

/-! # Reading a token and judging its claims

Each function of the validator accepts exactly when its own check holds of what the token says.
Moments are compared as numbers, and their sums have no bound. -/

namespace TokenGate

/-- A payload is meant for the validator's audience, among others perhaps. -/
def Validator.Addressed (v : Validator) (p : Payload) : Prop :=
  ∃ aud, p.aud = some aud ∧ v.audience ∈ aud.names

/-- A payload has an expiry, which lies ahead. -/
def Payload.LiveAt (p : Payload) (now : UInt64) : Prop :=
  ∃ expiry, p.exp = some expiry ∧ now.toNat < expiry.toNat

/-- A moment, if there is one, is not further ahead than the skew. -/
def Validator.Allows (v : Validator) (now : UInt64) (moment : Option UInt64) : Prop :=
  ∀ m, moment = some m → m.toNat ≤ now.toNat + v.skew.seconds.toNat

/-- A payload has a subject that is not blank. -/
def Payload.HasSubject (p : Payload) : Prop :=
  ∃ subject, p.sub = some subject ∧ Text.blank subject = false

/-- Claims are those of a payload whose signature a key with this id made. -/
structure Claims.Carries (c : Claims) (p : Payload) (kid : String) : Prop where
  subject : p.sub = some c.subject
  issuer : p.iss = some c.issuer
  audience : ∃ aud, p.aud = some aud ∧ c.audience = aud.names
  expiresAt : p.exp = some c.expiresAt
  notBefore : c.notBefore = p.nbf
  issuedAt : c.issuedAt = p.iat
  tokenId : c.tokenId = p.jti
  keyId : c.keyId = kid
  extra : c.extra = p.extra

theorem spells_iff {α : Type} {read? : List UInt8 → Option α} {segment : String} {value : α} :
    Spells read? segment value ↔
      (Base64.urlSafe.decodeText segment).toOption.bind read? = some value := by
  unfold Spells
  cases Base64.urlSafe.decodeText segment <;> simp [Except.toOption]

namespace ReadToken

theorem ofText_of_segments {text header payload signature : String}
    (segments : Segments text header payload signature) :
    ofText text = ofSegments header payload signature := by
  obtain ⟨split, first, second, third⟩ := segments_iff.1 segments
  simp [ofText, split, segments.text_ne, first, second, third]

theorem ofText_of_not_segments {text : String} (nonempty : text ≠ "")
    (without : ¬ ∃ header payload signature, Segments text header payload signature) :
    ofText text = .error (.malformedToken .segments) := by
  unfold ofText
  rw [if_neg (by simpa using nonempty)]
  split
  · next header payload signature split =>
    rw [if_pos]
    by_contra full
    refine without ⟨header, payload, signature, segments_iff.2 ⟨split, ?_⟩⟩
    simpa [and_assoc] using full
  · rfl

/-- Two segments are read as what they spell, and the third is kept as it is. -/
theorem ofSegments_eq_ok_iff (header payload signature : String) (t : ReadToken) :
    ofSegments header payload signature = .ok t ↔
      Spells TokenHeader.ofOctets? header t.header ∧ Spells Payload.ofOctets? payload t.payload ∧
        t.payload.exp ≠ none ∧ t.signed = header ++ "." ++ payload ∧ t.signature = signature := by
  constructor
  · intro read
    unfold ofSegments at read
    split at read
    · cases read
    · next h headerSpelt =>
      split at read
      · cases read
      · next octets decoded =>
        split at read
        · cases read
        · next p parsed =>
          split at read
          · cases read
          · next expires =>
            obtain rfl := Except.ok.inj read
            exact ⟨spells_iff.2 headerSpelt, ⟨octets, decoded, parsed⟩, by simpa using expires,
              rfl, rfl⟩
  · rintro ⟨headerSpelt, ⟨octets, decoded, parsed⟩, expires, signed, signatureText⟩
    simp only [ofSegments, spells_iff.1 headerSpelt, decoded, parsed, Option.isNone_iff_eq_none,
      expires, if_false, ← signed, ← signatureText]

/-- Reading succeeds on a text exactly when it says a header and a payload with an expiry. -/
theorem ofText_eq_ok_iff (text : String) (t : ReadToken) :
    ofText text = .ok t ↔ ∃ header payload signature, t.Of text header payload signature := by
  constructor
  · intro read
    have nonempty : text ≠ "" := by
      rintro rfl
      simp [ofText] at read
    by_cases cut : ∃ header payload signature, Segments text header payload signature
    · obtain ⟨header, payload, signature, segments⟩ := cut
      rw [ofText_of_segments segments, ofSegments_eq_ok_iff] at read
      obtain ⟨headerSpelt, payloadSpelt, expires, signed, signatureText⟩ := read
      exact ⟨header, payload, signature, segments, headerSpelt, payloadSpelt, expires, signed,
        signatureText⟩
    · rw [ofText_of_not_segments nonempty cut] at read
      cases read
  · rintro ⟨header, payload, signature, of⟩
    rw [ofText_of_segments of.segments, ofSegments_eq_ok_iff]
    exact ⟨of.headerSpelt, of.payloadSpelt, of.expires, of.signedText, of.signatureText⟩

end ReadToken

namespace Validator

variable (v : Validator) (now : UInt64) (p : Payload)

private theorem any_contains_iff :
    (p.aud.any fun aud => aud.contains v.audience) = true ↔ v.Addressed p := by
  simp [Addressed, Audience.contains, Option.any_eq_true]

private theorem any_laterBy_lt_iff (moment : Option UInt64) :
    (moment.any fun m => laterBy now v.skew.seconds < m) = true ↔ ¬ v.Allows now moment := by
  cases moment with
  | none => simp [Allows]
  | some m => simp [Allows, laterBy_lt_iff]

private theorem expiry_le_iff {expiry : UInt64} (present : p.exp = some expiry) :
    expiry ≤ now ↔ ¬ p.LiveAt now := by
  rw [UInt64.le_iff_toNat_le]
  simp [Payload.LiveAt, present]

open Classical in
/-- The checks of the claims and their answers in order. -/
theorem checkClaims_eq :
    v.checkClaims now p =
      if ¬ v.Addressed p then .error .audienceMismatch
      else if p.iss ≠ some v.issuer then .error .issuerMismatch
      else if p.exp = none then .error (.malformedToken .missingExpiry)
      else if ¬ p.LiveAt now then .error .expired
      else if ¬ v.Allows now p.nbf then .error .notYetValid
      else if ¬ v.Allows now p.iat then .error .issuedAtInvalid
      else .ok () := by
  have parties : v.checkParties p =
      if ¬ v.Addressed p then .error .audienceMismatch
      else if p.iss ≠ some v.issuer then .error .issuerMismatch
      else .ok () := by
    simp only [checkParties, Bool.not_eq_true', ← Bool.not_eq_true, any_contains_iff, bne_iff_ne]
  have times : v.checkTimes now p =
      if p.exp = none then .error (.malformedToken .missingExpiry)
      else if ¬ p.LiveAt now then .error .expired
      else if ¬ v.Allows now p.nbf then .error .notYetValid
      else if ¬ v.Allows now p.iat then .error .issuedAtInvalid
      else .ok () := by
    unfold checkTimes
    cases expiry : p.exp with
    | none => simp
    | some moment =>
      simp only [any_laterBy_lt_iff, expiry_le_iff now p expiry, reduceCtorEq, if_false]
  simp only [checkClaims, parties, times]
  split_ifs <;> rfl

/-- The claims handed on are those of the payload, under the id of the key. -/
theorem claims_eq_ok_iff (kid : String) (c : Claims) (audience : p.aud ≠ none)
    (issuer : p.iss ≠ none) (expiry : p.exp ≠ none) :
    claims kid p = .ok c ↔ c.Carries p kid ∧ Text.blank c.subject = false := by
  obtain ⟨aud, audience⟩ := Option.ne_none_iff_exists'.1 audience
  obtain ⟨iss, issuer⟩ := Option.ne_none_iff_exists'.1 issuer
  obtain ⟨exp, expiry⟩ := Option.ne_none_iff_exists'.1 expiry
  unfold claims
  rw [audience, issuer, expiry]
  constructor
  · intro accepted
    split at accepted
    · cases accepted
    · next subject found =>
      obtain ⟨present, shown⟩ := Option.filter_eq_some_iff.1 found
      obtain rfl := Except.ok.inj accepted
      exact ⟨⟨present, issuer, ⟨aud, audience, rfl⟩, expiry, rfl, rfl, rfl, rfl, rfl⟩,
        by simpa using shown⟩
  · rintro ⟨carries, shown⟩
    have found : p.sub.filter (fun subject => !Text.blank subject) = some c.subject :=
      Option.filter_eq_some_iff.2 ⟨carries.subject, by simp [shown]⟩
    have sameIssuer : iss = c.issuer := by simpa [issuer] using carries.issuer
    have sameExpiry : exp = c.expiresAt := by simpa [expiry] using carries.expiresAt
    obtain ⟨listed, sameAudience, names⟩ := carries.audience
    obtain rfl : aud = listed := by simpa [audience] using sameAudience
    rw [found, ← carries.notBefore, ← carries.issuedAt, ← carries.tokenId, ← carries.keyId,
      ← carries.extra]
    simp only [Option.getD_some, Option.map_some, sameIssuer, sameExpiry, ← names]

theorem validate_fst (check : SignatureCheck) (set : KeySet) (token : String) :
    (v.validate check set now token).1 = (v.judge check set now (Text.trim token)).1 := rfl

end Validator

end TokenGate
