import TokenGate.Proofs.Result
import TokenGate.Proofs.Token.Lifetime

/-! # What the log shows of a token

Every way through the checks ends in one of three kinds of reports. Each of them names at most the
key id and the algorithm of the header and the subject of the payload, and besides at most what is
malformed. So texts that agree in those and in their verdict leave the same log: whatever else a
token carries cannot be told from it. -/

namespace TokenGate

namespace TokenRejection

private theorem code_eq_signatureInvalid_iff (reason : TokenRejection) :
    reason.code = signatureInvalid.code ↔ reason = .signatureInvalid := by
  cases reason <;> simp [code]

/-- Rejections of one code differ in what is malformed, or in the key id, or not at all. -/
theorem cases_of_code_eq {reason reason' : TokenRejection} (same : reason.code = reason'.code) :
    ((∃ what, reason = .malformedToken what) ∧ ∃ what, reason' = .malformedToken what) ∨
      ((∃ kid, reason = .keyNotFound kid) ∧ ∃ kid, reason' = .keyNotFound kid) ∨
      reason = reason' := by
  cases reason <;> cases reason' <;> simp [code] at same ⊢

/-- The wording of a malformed token tells what is malformed. -/
theorem malformedToken_message_inj {what what' : Malformation}
    (same : (malformedToken what).message = (malformedToken what').message) : what = what' := by
  revert same
  cases what <;> cases what' <;> decide

end TokenRejection

namespace Validator

private theorem resultLabel_error_ne_ok (reason : TokenRejection) (c : Claims) :
    resultLabel (.error reason) ≠ resultLabel (.ok c) := by
  cases reason <;> simp [resultLabel, TokenRejection.code]

/-- The record of a signature that is not the key's: of the algorithm, if that is another one. -/
def unsignedRecord (kid : String) (header key : Algorithm) : LogRecord :=
  if header = key then signatureRecord kid else algorithmRecord kid header key

end Validator

/-- Two texts name the same key id, algorithm and subject, as far as they name any. -/
structure NamesAlike (a b : String) : Prop where
  header : ∀ h h', SaysHeader a h → SaysHeader b h' → h.kid = h'.kid ∧ h.algorithm = h'.algorithm
  subject : ∀ p p', SaysPayload a p → SaysPayload b p' → p.sub = p'.sub

/-- The verdicts on a text, each with what is logged on the way to it. -/
inductive Reports (set : KeySet) (text : String) : Except TokenRejection Claims → Log → Prop
  | accepted {h : TokenHeader} {p : Payload} {c : Claims} (header : SaysHeader text h)
      (payload : SaysPayload text p) (kid : h.kid = some c.keyId)
      (subject : p.sub = some c.subject) :
      Reports set text (.ok c) [Validator.verdictRecord (.ok c)]
  | unsigned {h : TokenHeader} {kid : String} {key : SigningKey} (header : SaysHeader text h)
      (named : h.kid = some kid) (found : set.get? kid = some key) :
      Reports set text (.error .signatureInvalid)
        [Validator.unsignedRecord kid h.algorithm key.algorithm,
          Validator.verdictRecord (.error .signatureInvalid)]
  | rejected {reason : TokenRejection} (other : reason ≠ .signatureInvalid)
      (named : ∀ kid, reason = .keyNotFound kid → ∃ h, SaysHeader text h ∧ h.kid = some kid) :
      Reports set text (.error reason) [Validator.verdictRecord (.error reason)]

namespace Validator

variable (check : SignatureCheck) (v : Validator) (set : KeySet) (now : UInt64)

/-- The claims turn a token away for neither its signature nor its key. -/
theorem reason_of_checkClaims {p : Payload} {reason : TokenRejection}
    (refused : v.checkClaims now p = .error reason) :
    reason ≠ .signatureInvalid ∧ ∀ kid, reason ≠ .keyNotFound kid := by
  rw [checkClaims_eq] at refused
  split_ifs at refused <;> (obtain rfl := Except.error.inj refused; simp)

private theorem named_of_claims {kid : String} {p : Payload} {c : Claims}
    (handed : claims kid p = .ok c) : c.keyId = kid ∧ p.sub = some c.subject := by
  unfold claims at handed
  split at handed
  · cases handed
  · next subject found =>
    obtain rfl := Except.ok.inj handed
    exact ⟨rfl, (Option.filter_eq_some_iff.1 found).1⟩

variable {t : ReadToken} {text header payload signature : String}

private theorem reports_judgeUnder (of : t.Of text header payload signature) {kid : String}
    {key : SigningKey} (named : t.header.kid = some kid) (found : set.get? kid = some key) :
    let judged := v.judgeUnder check now t kid key
    Reports set text judged.1 (judged.2 ++ [verdictRecord judged.1]) := by
  have spoken : SaysHeader text t.header := (of.saysHeader_iff _).2 rfl
  unfold judgeUnder
  by_cases algorithm : t.header.algorithm = key.algorithm
  swap
  · simpa [algorithm, unsignedRecord] using Reports.unsigned spoken named found
  cases holds : t.signatureHolds check key with
  | false => simpa [algorithm, unsignedRecord] using Reports.unsigned spoken named found
  | true =>
    cases passed : v.checkClaims now t.payload with
    | error reason =>
      obtain ⟨other, unnamed⟩ := v.reason_of_checkClaims now passed
      simpa [algorithm, bind, Except.bind] using
        Reports.rejected other fun kid same => absurd same (unnamed kid)
    | ok =>
      rcases handed : claims kid t.payload with reason | c
      · obtain rfl : reason = .missingSubject := by
          simpa [handed] using claims_untimed kid t.payload
        simpa [algorithm, bind, Except.bind, handed] using Reports.rejected (by simp) (by simp)
      · obtain ⟨rfl, subject⟩ := named_of_claims handed
        simpa [algorithm, bind, Except.bind, handed] using
          Reports.accepted spoken ((of.saysPayload_iff _).2 rfl) named subject

private theorem reports_judgeRead (of : t.Of text header payload signature) :
    let judged := v.judgeRead check set now t
    Reports set text judged.1 (judged.2 ++ [verdictRecord judged.1]) := by
  have spoken : SaysHeader text t.header := (of.saysHeader_iff _).2 rfl
  unfold judgeRead
  rcases given : t.header.kid.filter fun kid => kid != "" with _ | kid
  · exact .rejected (by simp) (by simp)
  obtain ⟨named, -⟩ := Option.filter_eq_some_iff.1 given
  rcases found : set.get? kid with _ | key
  · simp only [found]
    refine .rejected (by simp) fun kid' same => ⟨t.header, spoken, ?_⟩
    rw [named, TokenRejection.keyNotFound.inj same]
  · simpa only [found] using v.reports_judgeUnder check set now of named found

/-- Whatever a text is, its verdict and its log are one of the reports. -/
theorem reports_validate (token : String) :
    Reports set (Text.trim token) (v.validate check set now token).1
      (v.validate check set now token).2 := by
  change let judged := v.judge check set now (Text.trim token)
    Reports set (Text.trim token) judged.1 (judged.2 ++ [verdictRecord judged.1])
  unfold judge
  rcases read : ReadToken.ofText (Text.trim token) with reason | t
  · obtain ⟨what, rfl⟩ := ReadToken.malformed_of_ofText read
    exact .rejected (by simp) (by simp)
  · obtain ⟨header, payload, signature, of⟩ := (ReadToken.ofText_eq_ok_iff _ t).1 read
    exact v.reports_judgeRead check set now of

end Validator

section

variable {set : KeySet} {a b : String} {verdict verdict' : Except TokenRejection Claims}
  {log log' : Log}

/-- Rejections of texts that name the same are the same if they have the same code, unless something
is malformed. -/
theorem Reports.reason_eq {reason reason' : TokenRejection}
    (left : Reports set a (.error reason) log) (right : Reports set b (.error reason') log')
    (alike : NamesAlike a b) (same : reason.code = reason'.code) :
    ((∃ what, reason = .malformedToken what) ∧ ∃ what, reason' = .malformedToken what) ∨
      reason = reason' := by
  rcases TokenRejection.cases_of_code_eq same with malformed | ⟨⟨kid, rfl⟩, kid', rfl⟩ | rfl
  · exact .inl malformed
  · cases left with
    | rejected _ named =>
      cases right with
      | rejected _ named' =>
        obtain ⟨h, header, given⟩ := named kid rfl
        obtain ⟨h', header', given'⟩ := named' kid' rfl
        obtain rfl : kid = kid' := by
          simpa [given, given'] using (alike.header h h' header header').1
        exact .inr rfl
  · exact .inr rfl

/-- Reports on texts that name the same have the same log if their verdicts do and the same is
malformed, if anything is. -/
theorem Reports.log_eq (left : Reports set a verdict log) (right : Reports set b verdict' log')
    (alike : NamesAlike a b)
    (same : Validator.resultLabel verdict = Validator.resultLabel verdict')
    (malformed : ∀ what what', verdict = .error (.malformedToken what) →
      verdict' = .error (.malformedToken what') → what = what') : log = log' := by
  cases left with
  | @accepted h p c header payload kid subject =>
    cases right with
    | @accepted h' p' c' header' payload' kid' subject' =>
      have keyId : c.keyId = c'.keyId := by
        simpa [kid, kid'] using (alike.header h h' header header').1
      have sub : c.subject = c'.subject := by
        simpa [subject, subject'] using alike.subject p p' payload payload'
      simp [Validator.verdictRecord, keyId, sub]
    | _ => exact absurd same.symm (Validator.resultLabel_error_ne_ok _ _)
  | @unsigned h kid key header named found =>
    cases right with
    | accepted => exact absurd same (Validator.resultLabel_error_ne_ok _ _)
    | @unsigned h' kid' key' header' named' found' =>
      obtain ⟨sameKid, algorithm⟩ := alike.header h h' header header'
      obtain rfl : kid = kid' := by simpa [named, named'] using sameKid
      obtain rfl : key = key' := Option.some.inj (found.symm.trans found')
      rw [algorithm]
    | rejected other =>
      exact absurd ((TokenRejection.code_eq_signatureInvalid_iff _).1 same.symm) other
  | @rejected reason other named =>
    cases right with
    | accepted => exact absurd same (Validator.resultLabel_error_ne_ok _ _)
    | unsigned => exact absurd ((TokenRejection.code_eq_signatureInvalid_iff _).1 same) other
    | @rejected reason' other' named' =>
      have left : Reports set a (.error reason) _ := .rejected other named
      have right : Reports set b (.error reason') _ := .rejected other' named'
      rcases left.reason_eq right alike same with ⟨⟨what, rfl⟩, what', rfl⟩ | rfl
      · rw [malformed what what' rfl rfl]
      · rfl

/-- A log of a malformed text tells what is malformed. -/
theorem Reports.malformed_eq {what what' : Malformation}
    (left : Reports set a (.error (.malformedToken what)) log)
    (right : Reports set b (.error (.malformedToken what')) log) : what = what' := by
  cases left with
  | rejected =>
    generalize expected : [Validator.verdictRecord (.error (.malformedToken what))] = log at right
    cases right with
    | rejected =>
      simp only [Validator.verdictRecord, List.cons.injEq, LogRecord.mk.injEq, Prod.mk.injEq]
        at expected
      exact TokenRejection.malformedToken_message_inj expected.1.2.2.2.1.2

end

/-- Tokens that name the same key id, algorithm and subject and get the same verdict leave the same
log, just if the same is malformed in both, where anything is. -/
theorem Validator.log_determined (check : SignatureCheck) (v : Validator) (set : KeySet)
    (now : UInt64) (a b : String)
    (verdict : resultLabel (v.validate check set now a).1 =
      resultLabel (v.validate check set now b).1)
    (header : ∀ h h', SaysHeader (Text.trim a) h → SaysHeader (Text.trim b) h' →
      h.kid = h'.kid ∧ h.algorithm = h'.algorithm)
    (subject : ∀ p p', SaysPayload (Text.trim a) p → SaysPayload (Text.trim b) p' →
      p.sub = p'.sub) :
    (v.validate check set now a).2 = (v.validate check set now b).2 ↔
      ∀ what what', (v.validate check set now a).1 = .error (.malformedToken what) →
        (v.validate check set now b).1 = .error (.malformedToken what') → what = what' := by
  have left := v.reports_validate check set now a
  have right := v.reports_validate check set now b
  refine ⟨fun same what what' refused refused' => ?_, left.log_eq right ⟨header, subject⟩ verdict⟩
  rw [refused, same] at left
  rw [refused'] at right
  exact left.malformed_eq right

/-- Two accepted tokens of one subject that differ in lifetime, in an extra claim and in the
signature. -/
theorem Validator.log_determined_extra_claim :
    let v : Validator := ⟨"i", "a", .ofSeconds 60⟩
    let set : KeySet := ⟨[⟨"a", .es256, .ec, .ec [0] [0]⟩], some 0, 1, by decide⟩
    let plain := "eyJhbGciOiJFUzI1NiIsImtpZCI6ImEifQ." ++
      "eyJpc3MiOiJpIiwiYXVkIjoiYSIsInN1YiI6InMiLCJleHAiOjl9.AA"
    let role := "eyJhbGciOiJFUzI1NiIsImtpZCI6ImEifQ." ++
      "eyJpc3MiOiJpIiwiYXVkIjoiYSIsInN1YiI6InMiLCJleHAiOjgsInIiOjF9.AQ"
    let log (token : String) := (v.validate (fun _ _ _ _ => true) set 5 token).2
    log plain = log role ∧
      log plain = [⟨.debug, "Token validated", [("sub", "s"), ("kid", "a")]⟩] := by
  intro v set plain role log
  let verdict (token : String) := resultLabel (v.validate (fun _ _ _ _ => true) set 5 token).1
  let named (token : String) : Bool := (ReadToken.ofText (Text.trim token)).toOption.any
    fun t => t.header == ⟨.es256, some "a"⟩ && t.payload.sub == some "s"
  obtain ⟨namedPlain, namedRole, alike, shown⟩ : named plain = true ∧ named role = true ∧
      verdict plain = verdict role ∧
        log plain = [⟨.debug, "Token validated", [("sub", "s"), ("kid", "a")]⟩] := by
    decide +kernel
  have told (token : String) (evaluated : named token = true) :
      (∀ h, SaysHeader (Text.trim token) h → h = ⟨.es256, some "a"⟩) ∧
        ∀ p, SaysPayload (Text.trim token) p → p.sub = some "s" := by
    obtain ⟨t, ok, shown⟩ := exists_ok_of_any evaluated
    obtain ⟨header, payload, signature, of⟩ := (ReadToken.ofText_eq_ok_iff _ t).1 ok
    simp only [Bool.and_eq_true, beq_iff_eq] at shown
    exact ⟨fun h spoken => ((of.saysHeader_iff h).1 spoken).trans shown.1,
      fun p spoken => (of.saysPayload_iff p).1 spoken ▸ shown.2⟩
  obtain ⟨plainHeader, plainSubject⟩ := told plain namedPlain
  obtain ⟨roleHeader, roleSubject⟩ := told role namedRole
  have determined := log_determined (fun _ _ _ _ => true) v set 5 plain role alike
    (fun h h' spoken spoken' => by simp [plainHeader h spoken, roleHeader h' spoken'])
    (fun p p' spoken spoken' => (plainSubject p spoken).trans (roleSubject p' spoken').symm)
  have accepted : (v.validate (fun _ _ _ _ => true) set 5 plain).1.isOk = true := by
    decide +kernel
  refine ⟨determined.2 fun what what' refused => ?_, shown⟩
  rw [refused] at accepted
  cases accepted

/-- Two texts of which nothing can be read are rejected under the same code, and the log tells them
apart. -/
theorem Validator.log_tells_malformation :
    let v : Validator := ⟨"i", "a", .ofSeconds 60⟩
    let result (token : String) := v.validate (fun _ _ _ _ => true) .uninitialized 5 token
    NamesAlike (Text.trim "") (Text.trim "abc") ∧
      resultLabel (result "").1 = resultLabel (result "abc").1 ∧
        (result "").2 ≠ (result "abc").2 := by
  intro v result
  have blank : Text.trim "" = "" := by decide +kernel
  have unread : NamesAlike (Text.trim "") (Text.trim "abc") := by
    rw [blank]
    constructor
    · rintro h h' ⟨_, _, _, segments, -⟩
      exact absurd rfl segments.text_ne
    · rintro p p' ⟨_, _, _, segments, -⟩
      exact absurd rfl segments.text_ne
  exact ⟨unread, by decide +kernel, by decide +kernel⟩

end TokenGate
