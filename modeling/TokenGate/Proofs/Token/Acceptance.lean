import TokenGate.Proofs.Token.Reading

/-! # Which tokens are accepted

A token is accepted exactly when its trimmed text has three segments, the signature among them
verifies under the key of the current set that the header names, and the payload that was signed
admits the validator at this moment. The claims handed on are those of that payload. -/

namespace TokenGate

/-- What a validator asks of a payload at a moment, apart from the subject. -/
structure Validator.Admits (v : Validator) (now : UInt64) (p : Payload) : Prop where
  addressed : v.Addressed p
  issuer : p.iss = some v.issuer
  live : p.LiveAt now
  started : v.Allows now p.nbf
  issued : v.Allows now p.iat

namespace Validator

variable (check : SignatureCheck) (v : Validator) (set : KeySet) (now : UInt64)

private theorem checkClaims_eq_ok_iff (p : Payload) :
    v.checkClaims now p = .ok () ↔ v.Admits now p := by
  rw [checkClaims_eq]
  constructor
  · intro passed
    split_ifs at passed with addressed issuer expires live started issued
    exact ⟨addressed, not_not.1 issuer, live, started, issued⟩
  · rintro ⟨addressed, issuer, live, started, issued⟩
    obtain ⟨expiry, present, _⟩ := id live
    simp [addressed, issuer, present, live, started, issued]

/-- Under a key a token is accepted if algorithm, signature, claims and subject pass, and its claims
are handed on. -/
theorem judgeUnder_eq_ok_iff (t : ReadToken) (kid : String) (key : SigningKey) (c : Claims) :
    (v.judgeUnder check now t kid key).1 = .ok c ↔
      t.header.algorithm = key.algorithm ∧ t.signatureHolds check key = true ∧
        v.Admits now t.payload ∧ Text.blank c.subject = false ∧ c.Carries t.payload kid := by
  rw [← checkClaims_eq_ok_iff]
  unfold judgeUnder
  by_cases algorithm : t.header.algorithm = key.algorithm
  · cases holds : t.signatureHolds check key with
    | false => simp [algorithm]
    | true =>
      cases passed : v.checkClaims now t.payload with
      | error reason => simp [algorithm, bind, Except.bind]
      | ok =>
        have admitted := (v.checkClaims_eq_ok_iff now t.payload).1 passed
        obtain ⟨⟨aud, audience, _⟩, issuer, ⟨exp, expiry, _⟩, _, _⟩ := admitted
        have accepted := claims_eq_ok_iff t.payload kid c (by simp [audience]) (by simp [issuer])
          (by simp [expiry])
        simp [algorithm, bind, Except.bind, accepted, and_comm]
  · simp [algorithm]

/-- A token that could be read is accepted under the key that it names. -/
theorem judgeRead_eq_ok_iff (t : ReadToken) (c : Claims) :
    (v.judgeRead check set now t).1 = .ok c ↔
      ∃ key ∈ set.keys, t.header.kid = some key.kid ∧ key.kid ≠ "" ∧
        (v.judgeUnder check now t key.kid key).1 = .ok c := by
  unfold judgeRead
  constructor
  · intro accepted
    split at accepted
    · cases accepted
    · next kid named =>
      obtain ⟨present, nonempty⟩ := Option.filter_eq_some_iff.1 named
      split at accepted
      · cases accepted
      · next key found =>
        obtain ⟨member, rfl⟩ := (set.get?_eq_some_iff kid key).1 found
        exact ⟨key, member, present, by simpa using nonempty, accepted⟩
  · rintro ⟨key, member, present, nonempty, accepted⟩
    have named : t.header.kid.filter (fun kid => kid != "") = some key.kid :=
      Option.filter_eq_some_iff.2 ⟨present, by simpa using nonempty⟩
    have found := (set.get?_eq_some_iff key.kid key).2 ⟨member, rfl⟩
    simp only [named, found, accepted]

/-- A text is accepted if it can be read as a token that is. -/
theorem judge_eq_ok_iff (text : String) (c : Claims) :
    (v.judge check set now text).1 = .ok c ↔
      ∃ t, ReadToken.ofText text = .ok t ∧ (v.judgeRead check set now t).1 = .ok c := by
  unfold judge
  cases ReadToken.ofText text <;> simp

/-- A validator accepts the tokens that are signed under a cached key and admit it, and no others.
It hands on the claims that were signed. -/
theorem validate_eq_ok_iff (token : String) (c : Claims) :
    (v.validate check set now token).1 = .ok c ↔
      ∃ (text header payload signature : String) (h : TokenHeader) (p : Payload) (key : SigningKey),
        Text.Trimmed token text ∧ Segments text header payload signature ∧
        Spells TokenHeader.ofOctets? header h ∧ Spells Payload.ofOctets? payload p ∧
        key ∈ set.keys ∧ h.kid = some key.kid ∧ key.kid ≠ "" ∧ h.algorithm = key.algorithm ∧
        key.Signs check header payload signature ∧ v.Admits now p ∧
        Text.blank c.subject = false ∧ c.Carries p key.kid := by
  simp only [validate_fst, judge_eq_ok_iff, judgeRead_eq_ok_iff, judgeUnder_eq_ok_iff]
  constructor
  · rintro ⟨t, read, key, member, named, nonempty, algorithm, holds, admits, shown, carries⟩
    obtain ⟨header, payload, signature, of⟩ := (ReadToken.ofText_eq_ok_iff _ _).1 read
    exact ⟨Text.trim token, header, payload, signature, t.header, t.payload, key,
      Text.trimmed_trim token, of.segments, of.headerSpelt, of.payloadSpelt, member, named,
      nonempty, algorithm, (of.signatureHolds_iff check key).1 holds, admits, shown, carries⟩
  · rintro ⟨text, header, payload, signature, h, p, key, trimmed, segments, headerSpelt,
      payloadSpelt, member, named, nonempty, algorithm, signs, admits, shown, carries⟩
    obtain rfl := trimmed.eq_trim
    have expires : p.exp ≠ none := by simp [carries.expiresAt]
    have of : ReadToken.Of ⟨h, p, header ++ "." ++ payload, signature⟩ (Text.trim token) header
        payload signature := ⟨segments, headerSpelt, payloadSpelt, expires, rfl, rfl⟩
    exact ⟨_, (ReadToken.ofText_eq_ok_iff _ _).2 ⟨header, payload, signature, of⟩, key, member,
      named, nonempty, algorithm, (of.signatureHolds_iff check key).2 signs, admits, shown, carries⟩

end Validator

end TokenGate
