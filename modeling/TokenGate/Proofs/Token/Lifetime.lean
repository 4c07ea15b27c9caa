import TokenGate.Proofs.Token.Reading

/-! # A token in the course of time

The verdict on a token as the clock and the skew vary. What is wrong with a token apart from time is
wrong with it at all times. Any other token goes through phases, always in one order, until it has
expired for good; a larger skew makes the phases before acceptance shorter and expiry no later. -/

namespace TokenGate

/-- The phases of a token, in the order in which they come. -/
inductive TokenPhase where
  | notYetValid
  | issuedAtInvalid
  | current
  | expired
  deriving DecidableEq, Repr

namespace TokenPhase

def rank : TokenPhase → Nat
  | notYetValid => 0
  | issuedAtInvalid => 1
  | current => 2
  | expired => 3

/-- The verdict in a phase; where the times allow a token, the one that is settled apart from
them. -/
def verdict (settled : Except TokenRejection Claims) : TokenPhase → Except TokenRejection Claims
  | notYetValid => .error .notYetValid
  | issuedAtInvalid => .error .issuedAtInvalid
  | current => settled
  | expired => .error .expired

theorem rank_injective {a b : TokenPhase} (same : a.rank = b.rank) : a = b := by
  cases a <;> cases b <;> simp [rank] at same ⊢

theorem verdict_eq_expired_iff {settled : Except TokenRejection Claims}
    (untimed : settled = .error .missingSubject ∨ ∃ c, settled = .ok c) (a : TokenPhase) :
    a.verdict settled = .error .expired ↔ a = .expired := by
  rcases untimed with rfl | ⟨c, rfl⟩ <;> cases a <;> simp [verdict]

theorem verdict_eq_ok_iff (settled : Except TokenRejection Claims) (a : TokenPhase) (c : Claims) :
    a.verdict settled = .ok c ↔ a = .current ∧ settled = .ok c := by
  cases a <;> simp [verdict]

theorem rank_le_expired (a : TokenPhase) : a.rank ≤ expired.rank := by
  cases a <;> decide

end TokenPhase

private theorem Duration.seconds_le_of_toNanos_le {d d' : Duration}
    (less : d.toNanos ≤ d'.toNanos) : d.seconds.toNat ≤ d'.seconds.toNat := by
  have part := d'.nanos_lt
  unfold toNanos at less
  omega

namespace Payload

/-- A moment, if there is one, lies behind a bound. -/
def isBehind (bound : Nat) (moment : Option UInt64) : Bool := moment.any fun m => bound < m.toNat

/-- The phase of a payload now, where moments up to the latest one count as reached. -/
def phase (p : Payload) (now latest : Nat) : TokenPhase :=
  if !isBehind now p.exp then .expired
  else if isBehind latest p.nbf then .notYetValid
  else if isBehind latest p.iat then .issuedAtInvalid
  else .current

private theorem isBehind_of_le {bound later : Nat} {moment : Option UInt64} (less : bound ≤ later)
    (behind : isBehind later moment = true) : isBehind bound moment = true := by
  simp only [isBehind, Option.any_eq_true, decide_eq_true_eq] at behind ⊢
  obtain ⟨m, present, after⟩ := behind
  exact ⟨m, present, Nat.lt_of_le_of_lt less after⟩

/-- A payload is past its phases once its expiry does not lie ahead. -/
theorem phase_eq_expired_iff (p : Payload) (now latest : Nat) :
    p.phase now latest = .expired ↔ isBehind now p.exp = false := by
  unfold phase
  cases isBehind now p.exp with
  | false => simp
  | true =>
    simp only [Bool.not_true, Bool.false_eq_true, if_false]
    split_ifs <;> simp

/-- Phases come in their order as the bounds move on: what lies ahead later on lay ahead before. -/
theorem rank_phase_le (p : Payload) {now now' latest latest' : Nat} (later : now ≤ now')
    (further : latest ≤ latest') : (p.phase now latest).rank ≤ (p.phase now' latest').rank := by
  cases alive : isBehind now' p.exp with
  | false =>
    rw [(phase_eq_expired_iff p now' latest').2 alive]
    exact TokenPhase.rank_le_expired _
  | true =>
    have before := isBehind_of_le later alive
    simp only [phase, alive, before, Bool.not_true, Bool.false_eq_true, if_false]
    cases started : isBehind latest' p.nbf with
    | true =>
      simp only [isBehind_of_le further started, if_true, le_refl]
    | false =>
      cases issued : isBehind latest' p.iat with
      | true =>
        simp only [isBehind_of_le further issued, if_true, Bool.false_eq_true, if_false]
        split_ifs <;> decide
      | false =>
        simp only [Bool.false_eq_true, if_false]
        split_ifs <;> decide

/-- What is current stays so when only the latest moment moves on. -/
theorem phase_eq_current_of_le (p : Payload) {now latest latest' : Nat}
    (further : latest ≤ latest') (here : p.phase now latest = .current) :
    p.phase now latest' = .current := by
  have ordered := p.rank_phase_le (le_refl now) further
  rw [here] at ordered
  cases there : p.phase now latest' with
  | notYetValid => simp [there, TokenPhase.rank] at ordered
  | issuedAtInvalid => simp [there, TokenPhase.rank] at ordered
  | current => rfl
  | expired =>
    rw [phase_eq_expired_iff, ← p.phase_eq_expired_iff now latest, here] at there
    cases there

end Payload

/-- What cannot be read is malformed. -/
theorem ReadToken.malformed_of_ofText {text : String} {reason : TokenRejection}
    (refused : ofText text = .error reason) : ∃ what, reason = .malformedToken what := by
  have segments (header payload signature : String)
      (refused : ofSegments header payload signature = .error reason) :
      ∃ what, reason = .malformedToken what := by
    unfold ofSegments at refused
    split at refused
    · exact ⟨_, (Except.error.inj refused).symm⟩
    split at refused
    · exact ⟨_, (Except.error.inj refused).symm⟩
    split at refused
    · exact ⟨_, (Except.error.inj refused).symm⟩
    split at refused
    · exact ⟨_, (Except.error.inj refused).symm⟩
    · cases refused
  unfold ofText at refused
  split at refused
  · exact ⟨_, (Except.error.inj refused).symm⟩
  split at refused
  · split at refused
    · exact ⟨_, (Except.error.inj refused).symm⟩
    · exact segments _ _ _ refused
  · exact ⟨_, (Except.error.inj refused).symm⟩

namespace Validator

private theorem checkTimes_eq_phase (v : Validator) (now : UInt64) {p : Payload}
    (expires : p.exp ≠ none) (settled : Except TokenRejection Claims) :
    (do v.checkTimes now p; settled) =
      (p.phase now.toNat (now.toNat + v.skew.seconds.toNat)).verdict settled := by
  obtain ⟨expiry, present⟩ := Option.ne_none_iff_exists'.1 expires
  have alive : (expiry ≤ now) ↔ ¬ now.toNat < expiry.toNat := by
    rw [UInt64.le_iff_toNat_le, Nat.not_lt]
  unfold checkTimes Payload.phase Payload.isBehind
  simp only [present, alive, laterBy_lt_iff, Option.any_some, Bool.not_eq_true',
    decide_eq_false_iff_not]
  split_ifs <;> rfl

end Validator

/-- How the verdict on a text depends on the skew and the clock: not at all, or through the phase of
what the text says. -/
inductive OverTime (text : String)
    (verdict : Duration → UInt64 → Except TokenRejection Claims) : Prop
  | timeless (reason : TokenRejection)
      (apart : reason ∉ [.notYetValid, .issuedAtInvalid, .missingSubject, .expired])
      (always : ∀ skew now, verdict skew now = .error reason) : OverTime text verdict
  | phased {p : Payload} {settled : Except TokenRejection Claims} (spoken : SaysPayload text p)
      (untimed : settled = .error .missingSubject ∨ ∃ c, settled = .ok c)
      (follows : ∀ skew now, verdict skew now =
        (p.phase now.toNat (now.toNat + skew.seconds.toNat)).verdict settled) :
      OverTime text verdict

namespace Validator

def withSkew (v : Validator) (skew : Duration) : Validator := { v with skew := skew }

variable (check : SignatureCheck) (v : Validator) (set : KeySet)

/-- Handing claims on fails for want of a subject alone. -/
theorem claims_untimed (kid : String) (p : Payload) :
    claims kid p = .error .missingSubject ∨ ∃ c, claims kid p = .ok c := by
  unfold claims
  split
  · exact .inl rfl
  · exact .inr ⟨_, rfl⟩

private theorem checkParties_cases (p : Payload) : v.checkParties p = .ok () ∨
    v.checkParties p = .error .audienceMismatch ∨ v.checkParties p = .error .issuerMismatch := by
  unfold checkParties
  split_ifs <;> simp

variable {t : ReadToken} {text header payload signature : String}

private theorem overTime_checkClaims (of : t.Of text header payload signature) (kid : String) :
    OverTime text fun skew now => (do
      (v.withSkew skew).checkClaims now t.payload
      claims kid t.payload) := by
  rcases v.checkParties_cases t.payload with passed | refused | refused
  · refine .phased ((of.saysPayload_iff _).2 rfl) (claims_untimed kid t.payload) fun skew now => ?_
    have same : (v.withSkew skew).checkParties t.payload = .ok () := passed
    have times := (v.withSkew skew).checkTimes_eq_phase now of.expires (claims kid t.payload)
    rw [checkClaims, same]
    exact times
  · refine .timeless .audienceMismatch (by decide) fun skew now => ?_
    have same : (v.withSkew skew).checkParties t.payload = .error .audienceMismatch := refused
    rw [checkClaims, same]
    rfl
  · refine .timeless .issuerMismatch (by decide) fun skew now => ?_
    have same : (v.withSkew skew).checkParties t.payload = .error .issuerMismatch := refused
    rw [checkClaims, same]
    rfl

private theorem overTime_judgeUnder (of : t.Of text header payload signature) (kid : String)
    (key : SigningKey) :
    OverTime text fun skew now => ((v.withSkew skew).judgeUnder check now t kid key).1 := by
  unfold judgeUnder
  by_cases algorithm : t.header.algorithm = key.algorithm
  · cases holds : t.signatureHolds check key with
    | false =>
      exact .timeless .signatureInvalid (by decide) fun skew now => by simp [algorithm]
    | true => simpa [algorithm] using v.overTime_checkClaims of kid
  · exact .timeless .signatureInvalid (by decide) fun skew now => by simp [algorithm]

private theorem overTime_judgeRead (of : t.Of text header payload signature) :
    OverTime text fun skew now => ((v.withSkew skew).judgeRead check set now t).1 := by
  unfold judgeRead
  cases t.header.kid.filter fun kid => kid != "" with
  | none => exact .timeless .unknownKid (by decide) fun skew now => rfl
  | some kid =>
    cases found : set.get? kid with
    | none => exact .timeless (.keyNotFound kid) (by simp) fun skew now => by simp [found]
    | some key => simpa [found] using v.overTime_judgeUnder check of kid key

private theorem overTime_judge (text : String) :
    OverTime text fun skew now => ((v.withSkew skew).judge check set now text).1 := by
  unfold judge
  cases read : ReadToken.ofText text with
  | error reason =>
    refine .timeless reason ?_ fun skew now => rfl
    obtain ⟨what, rfl⟩ := ReadToken.malformed_of_ofText read
    simp
  | ok t =>
    obtain ⟨header, payload, signature, of⟩ := (ReadToken.ofText_eq_ok_iff text t).1 read
    exact v.overTime_judgeRead check set of

/-- The verdict on a token is the same at all times if something else than time is wrong with it.
Otherwise it is that of a phase. As the clock runs the phases come in their order, each without a
break, and the last of them does not end. A larger skew keeps what is accepted and what has
expired. -/
theorem verdict_over_time (token : String) :
    let verdict (skew : Duration) (now : UInt64) :=
      ((v.withSkew skew).validate check set now token).1
    (∃ reason ∉ [.notYetValid, .issuedAtInvalid, .missingSubject, .expired],
      ∀ skew now, verdict skew now = .error reason) ∨
    ∃ p settled, SaysPayload (Text.trim token) p ∧
      (settled = .error .missingSubject ∨ ∃ c, settled = .ok c) ∧
      let phase (skew : Duration) (now : UInt64) :=
        p.phase now.toNat (now.toNat + skew.seconds.toNat)
      (∀ skew now, verdict skew now = (phase skew now).verdict settled) ∧
      (∀ skew now later, now ≤ later → (phase skew now).rank ≤ (phase skew later).rank) ∧
      (∀ skew now between later, now ≤ between → between ≤ later →
        phase skew now = phase skew later → phase skew between = phase skew now) ∧
      (∀ skew now later, now ≤ later →
        verdict skew now = .error .expired → verdict skew later = .error .expired) ∧
      ∀ skew skew' now, skew.toNanos ≤ skew'.toNanos →
        (∀ c, verdict skew now = .ok c → verdict skew' now = .ok c) ∧
        (verdict skew now = .error .expired ↔ verdict skew' now = .error .expired) := by
  intro verdict
  have overTime : OverTime (Text.trim token) verdict := v.overTime_judge check set _
  cases overTime with
  | timeless reason apart always => exact .inl ⟨reason, apart, always⟩
  | @phased p settled spoken untimed follows =>
    refine .inr ⟨p, settled, spoken, untimed, ?_⟩
    intro phase
    have ordered (skew now later) (passed : now ≤ later) :
        (phase skew now).rank ≤ (phase skew later).rank := by
      have passed : now.toNat ≤ later.toNat := UInt64.le_iff_toNat_le.1 passed
      exact p.rank_phase_le passed (Nat.add_le_add_right passed _)
    have expired_iff (skew now) :
        verdict skew now = .error .expired ↔ phase skew now = .expired := by
      rw [follows, TokenPhase.verdict_eq_expired_iff untimed]
    refine ⟨follows, ordered, ?_, ?_, ?_⟩
    · intro skew now between later before behind same
      have lower := ordered skew now between before
      have upper := ordered skew between later behind
      rw [← same] at upper
      exact TokenPhase.rank_injective (le_antisymm upper lower)
    · intro skew now later passed gone
      rw [expired_iff] at gone ⊢
      have further := ordered skew now later passed
      rw [gone] at further
      exact TokenPhase.rank_injective (le_antisymm (TokenPhase.rank_le_expired _) further)
    · intro skew skew' now larger
      have expired : verdict skew now = .error .expired ↔ verdict skew' now = .error .expired := by
        rw [expired_iff, expired_iff, p.phase_eq_expired_iff, p.phase_eq_expired_iff]
      refine ⟨fun c accepted => ?_, expired⟩
      obtain ⟨here, same⟩ := (TokenPhase.verdict_eq_ok_iff settled _ c).1
        ((follows skew now).symm.trans accepted)
      have seconds := Duration.seconds_le_of_toNanos_le larger
      rw [follows, TokenPhase.verdict_eq_ok_iff]
      exact ⟨p.phase_eq_current_of_le (Nat.add_le_add_left seconds _) here, same⟩

end Validator

end TokenGate
