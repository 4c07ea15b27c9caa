import TokenGate.Proofs.Token.Checks

/-! # The first failure is answered

Judging goes through the checks in their order and stops at one that fails. So a verdict is the
answer of the first failure, and there is only one answer that can be. -/

namespace TokenGate

namespace TokenCheck

private theorem mem_all (c : TokenCheck) : c ∈ all := by
  cases c <;> decide

theorem rank_injective {c d : TokenCheck} (same : c.rank = d.rank) : c = d :=
  (List.idxOf_inj c.mem_all).1 same

end TokenCheck

section

variable {check : SignatureCheck} {v : Validator} {set : KeySet} {now : UInt64} {text : String}

/-- A check that passes lets the next one be reached. -/
theorem TokenCheck.Reached.next {c d : TokenCheck} (reached : c.Reached check v set now text)
    (passes : c.Passes check v set now text) (follows : d.rank = c.rank + 1) :
    d.Reached check v set now text := by
  intro e before
  rcases Nat.lt_or_eq_of_le (Nat.le_of_lt_succ (follows ▸ before)) with earlier | same
  · exact reached e earlier
  · exact TokenCheck.rank_injective same ▸ passes

/-- Behind the last check there is none. -/
theorem TokenCheck.Reached.all (reached : TokenCheck.subject.Reached check v set now text)
    (passes : TokenCheck.subject.Passes check v set now text) (d : TokenCheck) :
    d.Passes check v set now text := by
  cases d with
  | subject => exact passes
  | _ => exact reached _ (by decide)

/-- Of two failures only one can be the first. -/
theorem TokenCheck.FirstFailure.unique {c d : TokenCheck}
    (left : c.FirstFailure check v set now text) (right : d.FirstFailure check v set now text) :
    c = d := by
  rcases Nat.lt_trichotomy c.rank d.rank with before | same | after
  · exact absurd (right.reached c before) left.fails
  · exact TokenCheck.rank_injective same
  · exact absurd (left.reached d after) right.fails

/-- A failure has one answer. -/
theorem TokenCheck.Answer.unique {c : TokenCheck} {reason reason' : TokenRejection}
    (left : c.Answer text reason) (right : c.Answer text reason') : reason = reason' := by
  cases left with
  | key spelt named =>
    cases right with
    | key spelt' named' =>
      obtain rfl := spelt.unique spelt'
      rw [Option.some.inj (named.symm.trans named')]
  | _ => cases right; rfl

/-- A verdict that follows from the order of the checks. -/
inductive Ordered (check : SignatureCheck) (v : Validator) (set : KeySet) (now : UInt64)
    (text : String) : Except TokenRejection Claims → Prop
  | accepted {c : Claims} (passes : ∀ d : TokenCheck, d.Passes check v set now text) :
      Ordered check v set now text (.ok c)
  | rejected {c : TokenCheck} {reason : TokenRejection}
      (failure : c.FirstFailure check v set now text) (answer : c.Answer text reason) :
      Ordered check v set now text (.error reason)

private theorem TokenCheck.reached_present : TokenCheck.present.Reached check v set now text :=
  fun _ before => absurd before (Nat.not_lt_zero _)

private theorem ReadToken.firstFailure_of_ofSegments {header payload signature : String}
    {reason : TokenRejection} (segments : Segments text header payload signature)
    (atHeader : TokenCheck.header.Reached check v set now text)
    (refused : ReadToken.ofSegments header payload signature = .error reason) :
    ∃ c : TokenCheck, c.FirstFailure check v set now text ∧ c.Answer text reason := by
  unfold ReadToken.ofSegments at refused
  split at refused
  · next unread =>
    obtain rfl := Except.error.inj refused
    refine ⟨.header, ⟨?_, atHeader⟩, .header⟩
    rintro ⟨h, spoken⟩
    have spelt := spells_iff.1 ((segments.saysHeader_iff h).1 spoken)
    cases unread.symm.trans spelt
  next h headerSpelt =>
  have atEncoding : TokenCheck.payloadEncoding.Reached check v set now text :=
    atHeader.next ⟨h, (segments.saysHeader_iff h).2 (spells_iff.2 headerSpelt)⟩ rfl
  split at refused
  · next failure undecoded =>
    obtain rfl := Except.error.inj refused
    refine ⟨.payloadEncoding, ⟨?_, atEncoding⟩, .payloadEncoding⟩
    intro passes
    obtain ⟨octets, decoded⟩ := (segments.exists_iff fun _ payload _ =>
      ∃ octets, Base64.urlSafe.decodeText payload = .ok octets).1 passes
    cases undecoded.symm.trans decoded
  next octets decoded =>
  have atClaims : TokenCheck.payloadClaims.Reached check v set now text :=
    atEncoding.next ⟨header, payload, signature, segments, octets, decoded⟩ rfl
  have spells (p : Payload) : SaysPayload text p ↔ Payload.ofOctets? octets = some p := by
    simp [segments.saysPayload_iff, Spells, decoded]
  split at refused
  · next unread =>
    obtain rfl := Except.error.inj refused
    refine ⟨.payloadClaims, ⟨?_, atClaims⟩, .payloadClaims⟩
    rintro ⟨p, spoken⟩
    cases unread.symm.trans ((spells p).1 spoken)
  next p parsed =>
  have atExpiry : TokenCheck.expiryPresent.Reached check v set now text :=
    atClaims.next ⟨p, (spells p).2 parsed⟩ rfl
  split at refused
  · next absent =>
    obtain rfl := Except.error.inj refused
    refine ⟨.expiryPresent, ⟨?_, atExpiry⟩, .expiryPresent⟩
    rintro ⟨p', spoken, expires⟩
    obtain rfl := Option.some.inj (parsed.symm.trans ((spells p').1 spoken))
    exact expires (Option.isNone_iff_eq_none.1 absent)
  · cases refused

/-- Reading refuses a token with the answer of a check of its structure. -/
theorem ReadToken.firstFailure_of_ofText {reason : TokenRejection}
    (refused : ReadToken.ofText text = .error reason) :
    ∃ c : TokenCheck, c.FirstFailure check v set now text ∧ c.Answer text reason := by
  by_cases nonempty : text = ""
  · subst nonempty
    obtain rfl : TokenRejection.malformedToken .emptyToken = reason := by
      simpa [ReadToken.ofText] using refused
    exact ⟨.present, ⟨fun passes => passes rfl, TokenCheck.reached_present⟩, .present⟩
  have atSegments : TokenCheck.segments.Reached check v set now text :=
    TokenCheck.reached_present.next nonempty rfl
  by_cases cut : ∃ header payload signature, Segments text header payload signature
  · have atHeader : TokenCheck.header.Reached check v set now text := atSegments.next cut rfl
    obtain ⟨header, payload, signature, segments⟩ := cut
    rw [ReadToken.ofText_of_segments segments] at refused
    exact ReadToken.firstFailure_of_ofSegments segments atHeader refused
  · rw [ReadToken.ofText_of_not_segments nonempty cut] at refused
    obtain rfl := Except.error.inj refused
    exact ⟨.segments, ⟨cut, atSegments⟩, .segments⟩

variable {t : ReadToken} {header payload signature : String}

private theorem ReadToken.Of.reached_kid (of : t.Of text header payload signature) :
    TokenCheck.kid.Reached check v set now text := by
  obtain ⟨octets, decoded, parsed⟩ := of.payloadSpelt
  intro d before
  cases d with
  | present => exact of.segments.text_ne
  | segments => exact ⟨header, payload, signature, of.segments⟩
  | header => exact ⟨t.header, (of.saysHeader_iff _).2 rfl⟩
  | payloadEncoding => exact ⟨header, payload, signature, of.segments, octets, decoded⟩
  | payloadClaims => exact ⟨t.payload, (of.saysPayload_iff _).2 rfl⟩
  | expiryPresent => exact ⟨t.payload, (of.saysPayload_iff _).2 rfl, of.expires⟩
  | _ => exact absurd before (by decide)

/-- A set holds one key under an id. -/
theorem KeySet.eq_of_kid_eq (s : KeySet) {key key' : SigningKey} (member : key ∈ s.keys)
    (member' : key' ∈ s.keys) (same : key.kid = key'.kid) : key = key' := by
  have found := (s.get?_eq_some_iff key'.kid key).2 ⟨member, same⟩
  have found' := (s.get?_eq_some_iff key'.kid key').2 ⟨member', rfl⟩
  exact Option.some.inj (found.symm.trans found')

/-- A check that is reached either fails first or lets the next one decide. -/
theorem TokenCheck.Reached.step {c d : TokenCheck} {asked : Prop} [Decidable asked]
    {reason : TokenRejection} {verdict : Except TokenRejection Claims}
    (reached : c.Reached check v set now text)
    (same : c.Passes check v set now text ↔ asked) (answer : c.Answer text reason)
    (follows : d.rank = c.rank + 1)
    (rest : d.Reached check v set now text → Ordered check v set now text verdict) :
    Ordered check v set now text (if ¬ asked then .error reason else verdict) := by
  by_cases passes : asked
  · rw [if_neg (not_not.2 passes)]
    exact rest (reached.next (same.2 passes) follows)
  · rw [if_pos passes]
    exact .rejected ⟨mt same.1 passes, reached⟩ answer

private theorem Validator.ordered_claims (kid : String) {p : Payload}
    (spoken : TokenCheck.subject.Passes check v set now text ↔ p.HasSubject)
    (atSubject : TokenCheck.subject.Reached check v set now text) :
    Ordered check v set now text (Validator.claims kid p) := by
  unfold Validator.claims
  split
  · next absent =>
    have failure : TokenCheck.subject.FirstFailure check v set now text := by
      refine ⟨fun passes => ?_, atSubject⟩
      obtain ⟨subject, present, shown⟩ := spoken.1 passes
      simpa [shown] using Option.filter_eq_none_iff.1 absent subject present
    exact .rejected failure .subject
  · next subject found =>
    obtain ⟨present, shown⟩ := Option.filter_eq_some_iff.1 found
    exact .accepted (atSubject.all (spoken.2 ⟨subject, present, by simpa using shown⟩))

/-- The checks of a payload answer in their order. -/
theorem Validator.ordered_checkClaims (of : t.Of text header payload signature) (kid : String)
    (atAudience : TokenCheck.audience.Reached check v set now text) :
    Ordered check v set now text (do
      v.checkClaims now t.payload
      Validator.claims kid t.payload) := by
  classical
  have spoken (asked : Payload → Prop) :
      (∃ p, SaysPayload text p ∧ asked p) ↔ asked t.payload := by
    simp [of.saysPayload_iff]
  have verdict : (do
      v.checkClaims now t.payload
      Validator.claims kid t.payload) =
      if ¬ v.Addressed t.payload then .error .audienceMismatch
      else if ¬ t.payload.iss = some v.issuer then .error .issuerMismatch
      else if ¬ t.payload.LiveAt now then .error .expired
      else if ¬ v.Allows now t.payload.nbf then .error .notYetValid
      else if ¬ v.Allows now t.payload.iat then .error .issuedAtInvalid
      else Validator.claims kid t.payload := by
    rw [Validator.checkClaims_eq]
    simp only [of.expires, if_false]
    split_ifs <;> rfl
  rw [verdict]
  refine atAudience.step (d := .issuer) (spoken v.Addressed) .audience rfl fun atIssuer => ?_
  refine atIssuer.step (d := .expiry) (spoken (·.iss = some v.issuer)) .issuer rfl fun atExpiry => ?_
  refine atExpiry.step (d := .notBefore) (spoken (·.LiveAt now)) .expiry rfl fun atStart => ?_
  refine atStart.step (d := .issuedAt) (spoken (v.Allows now ·.nbf)) .notBefore rfl fun atIssued => ?_
  refine atIssued.step (d := .subject) (spoken (v.Allows now ·.iat)) .issuedAt rfl fun atSubject => ?_
  exact Validator.ordered_claims kid (spoken Payload.HasSubject) atSubject

private theorem Validator.ordered_judgeUnder {key : SigningKey}
    (of : t.Of text header payload signature) (member : key ∈ set.keys)
    (named : t.header.kid = some key.kid)
    (atAlgorithm : TokenCheck.algorithm.Reached check v set now text) :
    Ordered check v set now text (v.judgeUnder check now t key.kid key).1 := by
  have only {key' : SigningKey} (member' : key' ∈ set.keys) (named' : t.header.kid = some key'.kid) :
      key' = key :=
    set.eq_of_kid_eq member' member (Option.some.inj (named'.symm.trans named))
  unfold Validator.judgeUnder
  by_cases algorithm : t.header.algorithm = key.algorithm
  · have atSignature : TokenCheck.signature.Reached check v set now text :=
      atAlgorithm.next ⟨t.header, (of.saysHeader_iff _).2 rfl, key, member, named, algorithm⟩ rfl
    by_cases holds : t.signatureHolds check key = true
    · have signed : SignedUnder check text key :=
        (of.segments.signedUnder_iff check key).2 ((of.signatureHolds_iff check key).1 holds)
      have atAudience : TokenCheck.audience.Reached check v set now text :=
        atSignature.next ⟨t.header, (of.saysHeader_iff _).2 rfl, key, member, named, signed⟩ rfl
      simpa [algorithm, holds] using Validator.ordered_checkClaims of key.kid atAudience
    · simp only [algorithm, holds, bne_self_eq_false, Bool.false_eq_true, if_false,
        Bool.not_false, if_true]
      refine .rejected ⟨?_, atSignature⟩ .signature
      rintro ⟨h, spoken, key', member', named', signed⟩
      obtain rfl := (of.saysHeader_iff h).1 spoken
      obtain rfl := only member' named'
      exact holds ((of.signatureHolds_iff check _).2 ((of.segments.signedUnder_iff check _).1 signed))
  · simp only [bne_iff_ne, ne_eq, algorithm, not_false_eq_true, if_true]
    refine .rejected ⟨?_, atAlgorithm⟩ .algorithm
    rintro ⟨h, spoken, key', member', named', same⟩
    obtain rfl := (of.saysHeader_iff h).1 spoken
    obtain rfl := only member' named'
    exact algorithm same

private theorem Validator.ordered_judgeRead (of : t.Of text header payload signature) :
    Ordered check v set now text (v.judgeRead check set now t).1 := by
  have atKid : TokenCheck.kid.Reached check v set now text := of.reached_kid
  unfold Validator.judgeRead
  split
  · next unnamed =>
    refine .rejected ⟨?_, atKid⟩ .kid
    rintro ⟨h, spoken, kid, named, nonempty⟩
    obtain rfl := (of.saysHeader_iff h).1 spoken
    exact nonempty (by simpa using Option.filter_eq_none_iff.1 unnamed kid named)
  next kid found =>
  obtain ⟨named, nonempty⟩ := Option.filter_eq_some_iff.1 found
  have atKey : TokenCheck.key.Reached check v set now text :=
    atKid.next ⟨t.header, (of.saysHeader_iff _).2 rfl, kid, named, by simpa using nonempty⟩ rfl
  split
  · next missing =>
    refine .rejected ⟨?_, atKey⟩ (.key ((of.saysHeader_iff _).2 rfl) named)
    rintro ⟨h, spoken, key, member, named'⟩
    obtain rfl := (of.saysHeader_iff h).1 spoken
    exact (set.get?_eq_none_iff kid).1 missing key member
      (Option.some.inj (named'.symm.trans named))
  · next key present =>
    obtain ⟨member, rfl⟩ := (set.get?_eq_some_iff kid key).1 present
    exact Validator.ordered_judgeUnder of member named
      (atKey.next ⟨t.header, (of.saysHeader_iff _).2 rfl, key, member, named⟩ rfl)

private theorem Validator.ordered_judge (check : SignatureCheck) (v : Validator) (set : KeySet)
    (now : UInt64) (text : String) :
    Ordered check v set now text (v.judge check set now text).1 := by
  unfold Validator.judge
  cases read : ReadToken.ofText text with
  | error reason =>
    obtain ⟨c, failure, answer⟩ := ReadToken.firstFailure_of_ofText read
    exact .rejected failure answer
  | ok t =>
    obtain ⟨header, payload, signature, of⟩ := (ReadToken.ofText_eq_ok_iff text t).1 read
    exact Validator.ordered_judgeRead of

end

/-- A verdict that depends on the claims of a token. -/
def TellsClaims : Except TokenRejection Claims → Prop
  | .ok _ => True
  | .error reason => reason ∈ [TokenRejection.audienceMismatch, .issuerMismatch, .expired,
      .notYetValid, .issuedAtInvalid, .missingSubject]

namespace Ordered

variable {check : SignatureCheck} {v : Validator} {set : KeySet} {now : UInt64} {text : String}
variable {verdict : Except TokenRejection Claims}

/-- The answer is that of the first check to fail. -/
theorem eq_error_iff (ordered : Ordered check v set now text verdict) (reason : TokenRejection) :
    verdict = .error reason ↔
      ∃ c : TokenCheck, c.FirstFailure check v set now text ∧ c.Answer text reason := by
  cases ordered with
  | accepted passes =>
    constructor
    · intro rejected
      cases rejected
    · rintro ⟨c, failure, _⟩
      exact absurd (passes c) failure.fails
  | rejected failure answer =>
    constructor
    · intro same
      obtain rfl := Except.error.inj same
      exact ⟨_, failure, answer⟩
    · rintro ⟨c, first, other⟩
      obtain rfl := first.unique failure
      rw [other.unique answer]

private theorem exists_error_of_fails (ordered : Ordered check v set now text verdict)
    (fails : ∃ c : TokenCheck, ¬ c.Passes check v set now text) :
    ∃ reason, verdict = .error reason := by
  obtain ⟨c, fails⟩ := fails
  cases ordered with
  | accepted passes => exact absurd (passes c) fails
  | rejected => exact ⟨_, rfl⟩

private theorem reached_audience (ordered : Ordered check v set now text verdict)
    (tells : TellsClaims verdict) : TokenCheck.audience.Reached check v set now text := by
  intro d before
  cases ordered with
  | accepted passes => exact passes d
  | rejected failure answer =>
    cases answer <;> first
      | exact failure.reached d (Nat.lt_of_lt_of_le before (by decide))
      | simp [TellsClaims] at tells

/-- Something about claims is told only under a signature of the key that the header names. -/
theorem signed_of_tells (ordered : Ordered check v set now text verdict)
    (tells : TellsClaims verdict) :
    ∃ h, SaysHeader text h ∧ ∃ key ∈ set.keys, h.kid = some key.kid ∧
      h.algorithm = key.algorithm ∧ SignedUnder check text key := by
  have reached := ordered.reached_audience tells
  obtain ⟨h, spoken, key, member, named, algorithm⟩ := reached .algorithm (by decide)
  obtain ⟨h', spoken', key', member', named', signed⟩ := reached .signature (by decide)
  obtain rfl := spoken.unique spoken'
  obtain rfl := set.eq_of_kid_eq member member' (Option.some.inj (named.symm.trans named'))
  exact ⟨h, spoken, key, member, named, algorithm, signed⟩

end Ordered

/-- The expiry is looked at before the claims are, and looking again finds it. -/
theorem ReadToken.checkClaims_ne_missingExpiry {text : String} {t : ReadToken}
    (read : ReadToken.ofText text = .ok t) (v : Validator) (now : UInt64) :
    v.checkClaims now t.payload ≠ .error (.malformedToken .missingExpiry) := by
  obtain ⟨header, payload, signature, of⟩ := (ReadToken.ofText_eq_ok_iff text t).1 read
  rw [Validator.checkClaims_eq]
  simp only [of.expires, if_false]
  split_ifs <;> simp

/-- A token is turned away for the first of its failures, whatever others there are. Nothing about
claims is told of a token without a valid signature, and the second look at the expiry never misses
it. -/
theorem Validator.validate_first_failure (check : SignatureCheck) (v : Validator) (set : KeySet)
    (now : UInt64) (token : String) :
    ∃ text, Text.Trimmed token text ∧
      (∀ reason, (v.validate check set now token).1 = .error reason ↔
        ∃ c : TokenCheck, c.FirstFailure check v set now text ∧ c.Answer text reason) ∧
      ((∃ c : TokenCheck, ¬ c.Passes check v set now text) →
        ∃ reason, (v.validate check set now token).1 = .error reason) ∧
      (TellsClaims (v.validate check set now token).1 →
        ∃ h, SaysHeader text h ∧ ∃ key ∈ set.keys, h.kid = some key.kid ∧
          h.algorithm = key.algorithm ∧ SignedUnder check text key) ∧
      ∀ t, ReadToken.ofText text = .ok t →
        v.checkClaims now t.payload ≠ .error (.malformedToken .missingExpiry) := by
  have ordered := Validator.ordered_judge check v set now (Text.trim token)
  rw [Validator.validate_fst]
  exact ⟨Text.trim token, Text.trimmed_trim token, ordered.eq_error_iff,
    ordered.exists_error_of_fails, ordered.signed_of_tells,
    fun t read => ReadToken.checkClaims_ne_missingExpiry read v now⟩

end TokenGate
