import Mathlib
import TokenGate.Http.Service
import TokenGate.Proofs.Json.Written
import TokenGate.Proofs.Token.Bearer

/-! # Who gets past the gate

Which of its answers a request for the caller's identity gets is decided by its first
`Authorization` value and, where that presents a token, by the validator alone. -/

namespace TokenGate.Http

/-! ## Credentials -/

namespace FieldValue

/-- Every octet is a visible character, a blank or a tab. -/
def Legible (value : FieldValue) : Prop :=
  ∀ octet ∈ value, 0x20 ≤ octet ∧ octet ≤ 0x7E ∨ octet = 0x09

/-- Every octet is a blank or a tab. -/
def Blank (value : FieldValue) : Prop := ∀ octet ∈ value, octet = 0x20 ∨ octet = 0x09

/-- The characters of which the octets are the codes. -/
def spelt (value : FieldValue) : String := String.ofList (value.map Char.ofUInt8)

theorem isVisibleOctet_iff (octet : UInt8) :
    isVisibleOctet octet = true ↔ 0x20 ≤ octet ∧ octet ≤ 0x7E ∨ octet = 0x09 := by
  simp only [isVisibleOctet, Bool.or_eq_true, Bool.and_eq_true, decide_eq_true_eq, beq_iff_eq]
  have bound : octet < 127 ↔ octet ≤ 0x7E := by
    rw [UInt8.lt_iff_toNat_lt, UInt8.le_iff_toNat_le]
    exact Nat.lt_succ_iff
  rw [bound]

/-- A legible value reads as the characters of its octets. -/
theorem text?_of_legible {value : FieldValue} (legible : value.Legible) :
    value.text? = some value.spelt := by
  have all : value.all isVisibleOctet = true :=
    List.all_eq_true.2 fun octet member => (isVisibleOctet_iff octet).2 (legible octet member)
  rw [text?, if_pos all, spelt]

private theorem text?_of_not_legible {value : FieldValue} (illegible : ¬ value.Legible) :
    value.text? = none := by
  have notAll : ¬ value.all isVisibleOctet = true := fun all => illegible fun octet member =>
    (isVisibleOctet_iff octet).1 (List.all_eq_true.1 all octet member)
  rw [text?, if_neg notAll]

private theorem isBlank_ofUInt8_iff {octet : UInt8}
    (visible : 0x20 ≤ octet ∧ octet ≤ 0x7E ∨ octet = 0x09) :
    Text.isBlank (Char.ofUInt8 octet) = true ↔ octet = 0x20 ∨ octet = 0x09 := by
  have code : (Char.ofUInt8 octet).toNat = octet.toNat := UInt8.toNat_toUInt32 octet
  simp only [UInt8.le_iff_toNat_le, ← UInt8.toNat_inj, UInt8.reduceToNat] at visible ⊢
  simp only [Text.isBlank, code, Bool.or_eq_true, Bool.and_eq_true, decide_eq_true_eq, beq_iff_eq]
  omega

theorem Blank.legible {value : FieldValue} (blank : value.Blank) : value.Legible := by
  intro octet member
  rcases blank octet member with rfl | rfl
  · exact Or.inl (by decide)
  · exact Or.inr rfl

theorem blank_spelt_iff {value : FieldValue} (legible : value.Legible) :
    Text.blank value.spelt = true ↔ value.Blank := by
  rw [Text.blank_iff, spelt, String.toList_ofList, Text.Gap, List.forall_mem_map]
  exact forall₂_congr fun octet member => isBlank_ofUInt8_iff (legible octet member)

end FieldValue

namespace Request

/-- The request has no credentials: the header is absent or blank. -/
def Anonymous (r : Request) : Prop :=
  r.header? "authorization" = none ∨
    ∃ value, r.header? "authorization" = some value ∧ value.Blank

/-- The first value of the header is the scheme and a token. -/
def Presents (r : Request) (token : String) : Prop :=
  ∃ value, r.header? "authorization" = some value ∧ value.Legible ∧
    Bearer.Presents value.spelt token

/-- The first value of the header is neither blank nor the scheme and a token, or it has octets that
cannot be read. -/
def Misshapen (r : Request) : Prop :=
  ∃ value, r.header? "authorization" = some value ∧
    (¬ value.Legible ∨ ¬ value.Blank ∧ ∀ token, ¬ Bearer.Presents value.spelt token)

end Request

section Credentials

variable {r : Request}

private theorem credentials_of_anonymous (anonymous : r.Anonymous) :
    credentials r = .error .missingCredentials := by
  rcases anonymous with absent | ⟨value, found, blank⟩
  · rw [credentials, absent]
  · have spelt := (FieldValue.blank_spelt_iff blank.legible).2 blank
    have nothing := (Bearer.token?_eq_none_iff _).2 spelt
    simp only [credentials, found, FieldValue.text?_of_legible blank.legible, nothing]

/-- The token of a request is the one that it presents. -/
theorem credentials_of_presents {token : String} (presents : r.Presents token) :
    credentials r = .ok token := by
  obtain ⟨value, found, legible, spells⟩ := presents
  have carried := (Bearer.token?_eq_some_iff_presents _ _).2 spells
  simp only [credentials, found, FieldValue.text?_of_legible legible, carried]

private theorem credentials_of_misshapen (misshapen : r.Misshapen) :
    credentials r = .error .invalidRequest := by
  obtain ⟨value, found, wrong⟩ := misshapen
  by_cases legible : value.Legible
  · obtain ⟨shown, without⟩ := wrong.resolve_left (not_not_intro legible)
    rw [← FieldValue.blank_spelt_iff legible, Bool.not_eq_true] at shown
    have refused := (Bearer.token?_eq_error_iff _).2 ⟨shown, without⟩
    simp only [credentials, found, FieldValue.text?_of_legible legible, refused]
  · simp only [credentials, found, FieldValue.text?_of_not_legible legible]

/-- Every request has no credentials, a token or something else. -/
theorem Request.anonymous_or_presents_or_misshapen (r : Request) :
    r.Anonymous ∨ (∃ token, r.Presents token) ∨ r.Misshapen := by
  cases found : r.header? "authorization" with
  | none => exact Or.inl (Or.inl found)
  | some value =>
    by_cases blank : value.Blank
    · exact Or.inl (Or.inr ⟨value, found, blank⟩)
    · refine Or.inr ?_
      by_cases legible : value.Legible
      · by_cases spells : ∃ token, Bearer.Presents value.spelt token
        · obtain ⟨token, spells⟩ := spells
          exact Or.inl ⟨token, value, found, legible, spells⟩
        · exact Or.inr ⟨value, found, Or.inr ⟨blank, not_exists.1 spells⟩⟩
      · exact Or.inr ⟨value, found, Or.inl legible⟩

end Credentials

/-! ## Verdicts -/

section Verdict

variable (validate : String → Except TokenRejection Claims) {r : Request}

/-- A request is turned away for a reason. -/
inductive Deserves (r : Request) : AuthRejection → Prop
  | missing (anonymous : r.Anonymous) : Deserves r .missingCredentials
  | invalid (misshapen : r.Misshapen) : Deserves r .invalidRequest
  | token {token : String} {reason : TokenRejection} (presents : r.Presents token)
      (rejected : validate token = .error reason) : Deserves r (.token reason)

variable {validate}

private theorem deserves_missing_iff :
    Deserves validate r .missingCredentials ↔ r.Anonymous := by
  constructor
  · intro deserves
    cases deserves with
    | missing anonymous => exact anonymous
  · exact .missing

private theorem deserves_invalid_iff : Deserves validate r .invalidRequest ↔ r.Misshapen := by
  constructor
  · intro deserves
    cases deserves with
    | invalid misshapen => exact misshapen
  · exact .invalid

private theorem authenticate_of_accepted {token : String} {c : Claims} (presents : r.Presents token)
    (accepted : validate token = .ok c) : authenticate validate r = .ok c := by
  rw [authenticate, credentials_of_presents presents, Except.bind, accepted, Except.mapError]

private theorem authenticate_of_deserves {reason : AuthRejection}
    (deserves : Deserves validate r reason) : authenticate validate r = .error reason := by
  cases deserves with
  | missing anonymous => rw [authenticate, credentials_of_anonymous anonymous, Except.bind]
  | invalid misshapen => rw [authenticate, credentials_of_misshapen misshapen, Except.bind]
  | token presents rejected =>
    rw [authenticate, credentials_of_presents presents, Except.bind, rejected, Except.mapError]

/-- A request presents a token that is accepted, or deserves a rejection. -/
theorem accepted_or_deserves (validate : String → Except TokenRejection Claims) (r : Request) :
    (∃ token c, r.Presents token ∧ validate token = .ok c) ∨
      ∃ reason, Deserves validate r reason := by
  rcases r.anonymous_or_presents_or_misshapen with anonymous | ⟨token, presents⟩ | misshapen
  · exact Or.inr ⟨_, .missing anonymous⟩
  · cases verdict : validate token with
    | ok c => exact Or.inl ⟨token, c, presents, verdict⟩
    | error reason => exact Or.inr ⟨_, .token presents verdict⟩
  · exact Or.inr ⟨_, .invalid misshapen⟩

end Verdict

/-! ## Responses -/

namespace Response

/-- A refusal: the document has a code, a description and nothing else, beside a challenge. -/
structure Refuses (response : Response) (code description challenge : String) : Prop where
  status : response.status = 401
  document : Json.ofText? response.body =
    some (.record [("error", .text code), ("error_description", .text description)])
  challenged : response.header? "www-authenticate" = some (Text.encodeUtf8 challenge)

/-- A header of another name is left alone. -/
theorem header?_withHeader {name other : String} (apart : other ≠ name) (response : Response)
    (value : FieldValue) : (response.withHeader other value).header? name = response.header? name := by
  unfold withHeader
  split
  · rfl
  · have different : (other == name) = false := beq_false_of_ne apart
    simp [header?, firstValue?, List.find?_append, different]

theorem status_withHeader (response : Response) (name : String) (value : FieldValue) :
    (response.withHeader name value).status = response.status := by
  unfold withHeader
  split <;> rfl

theorem body_withHeader (response : Response) (name : String) (value : FieldValue) :
    (response.withHeader name value).body = response.body := by
  unfold withHeader
  split <;> rfl

private theorem Refuses.withHeader {response : Response} {code description challenge name : String}
    (refuses : response.Refuses code description challenge) (apart : name ≠ "www-authenticate")
    (value : FieldValue) : (response.withHeader name value).Refuses code description challenge := by
  refine ⟨?_, ?_, ?_⟩
  · rw [status_withHeader, refuses.status]
  · rw [body_withHeader, refuses.document]
  · rw [header?_withHeader apart, refuses.challenged]

/-- A response tells one code, one description and one challenge. -/
theorem Refuses.unique {response : Response} {code description challenge code' description'
      challenge' : String} (refuses : response.Refuses code description challenge)
    (refuses' : response.Refuses code' description' challenge') :
    code = code' ∧ description = description' ∧
      Text.encodeUtf8 challenge = Text.encodeUtf8 challenge' := by
  have document := refuses.document.symm.trans refuses'.document
  have challenged := refuses.challenged.symm.trans refuses'.challenged
  simpa [and_assoc] using And.intro document challenged

end Response

/-- The document of a rejection can be read, whatever a token made it hold. -/
theorem AuthRejection.refuses_response (reason : AuthRejection) :
    reason.response.Refuses reason.code reason.description reason.challenge := by
  refine ⟨?_, ?_, ?_⟩
  · rw [response, Response.status_withHeader]
    rfl
  · rw [response, Response.body_withHeader]
    refine Json.ofText?_write (Json.readsBack_record_iff.2 ⟨by simp, ?_⟩)
    intro m member
    simp only [List.mem_cons, List.not_mem_nil, or_false] at member
    rcases member with rfl | rfl
    · exact Json.readsBack_text _ _
    · exact Json.readsBack_text _ _
  · simp [response, Response.withHeader, Response.ofJsonText, Response.header?, firstValue?]

/-- A rejection of the header is known by its code. -/
theorem AuthRejection.eq_of_code_eq {reason other : AuthRejection}
    (header : ∀ t, reason ≠ .token t) (same : other.code = reason.code) : other = reason := by
  have codes : ∀ t : TokenRejection, t.code ≠ "unauthorized" ∧ t.code ≠ "invalid_request" := by
    intro t
    cases t <;> simp [TokenRejection.code]
  cases reason with
  | missingCredentials =>
    cases other with
    | missingCredentials => rfl
    | invalidRequest => simp [code] at same
    | token t => exact absurd same (codes t).1
  | invalidRequest =>
    cases other with
    | missingCredentials => simp [code] at same
    | invalidRequest => rfl
    | token t => exact absurd same (codes t).2
  | token t => exact absurd rfl (header t)

private theorem ofText?_caller (c : Claims) :
    Json.ofText? (caller c).body = some (.record [("id", .text c.subject),
      ("issuer", .text c.issuer), ("audience", .list (c.audience.map .text))]) := by
  refine Json.ofText?_write (Json.readsBack_record_iff.2 ⟨by simp, ?_⟩)
  intro m member
  simp only [List.mem_cons, List.not_mem_nil, or_false] at member
  rcases member with rfl | rfl | rfl
  · exact Json.readsBack_text _ _
  · exact Json.readsBack_text _ _
  · refine Json.readsBack_list_iff.2 fun j member => ?_
    obtain ⟨name, _, rfl⟩ := List.mem_map.1 member
    exact Json.readsBack_text _ _

/-! ## The path `/v1/me` -/

/-- A reply to a request that is not for the head alone gets the request's id and stays whole. -/
theorem serve_of_ok {h : Handler} {r : Request} {reply : Reply} (generated : FieldValue)
    (whole : r.method ≠ "HEAD") (answered : h r = .ok reply) :
    serve generated h r = { reply with
      response := reply.response.withHeader requestIdHeader (requestId generated r) } := by
  have notHead : (r.method == "HEAD") = false := beq_false_of_ne whole
  simp only [serve, answered, catchPanic, withoutBodyForHead, notHead, Bool.false_eq_true,
    ↓reduceIte]

theorem protect_of_deserves {validate : String → Except TokenRejection Claims} {r : Request}
    {reason : AuthRejection} (deserves : Deserves validate r reason) (h : Claims → Handler) :
    protect validate h r = .ok { response := reason.response } := by
  rw [protect, authenticate_of_deserves deserves]

/-- A reading request for the caller's identity. -/
def Request.me (headers : List (String × FieldValue)) : Request := ⟨"GET", "/v1/me", headers⟩

/-- The verdict of a session on a token. -/
def verdict (check : SignatureCheck) (s : Session) (token : String) :
    Except TokenRejection Claims :=
  (s.validator.validate check s.cache.current s.now token).1

section Me

variable {check : SignatureCheck} {s : Session} (generated : FieldValue)
  {headers : List (String × FieldValue)}

/-- Behind the gate stands a handler that tells the caller who it is. -/
theorem service_me : service check s (.me headers) =
    protect (verdict check s) (fun c => Handler.readOnly fun _ => .ok { response := caller c })
      (.me headers) := by
  have read : (Request.me headers).isRead = true := rfl
  have path : (Request.me headers).path = "/v1/me" := rfl
  have routed : ∀ v set, (routes v set).find? (fun route => route.1 == "/v1/me") =
      some ("/v1/me", (protect v fun c =>
        Handler.readOnly fun _ => .ok { response := caller c }).withAllow) := fun v set => rfl
  rw [service, Handler.ofRoutes, path, routed]
  simp only [Handler.withAllow, read, ↓reduceIte]
  rfl

/-- An accepted token is answered with the caller that it names. -/
theorem answer_of_accepted {token : String} {c : Claims}
    (presents : (Request.me headers).Presents token) (accepted : verdict check s token = .ok c) :
    (answer check s generated (.me headers)).response.status = 200 ∧
      (answer check s generated (.me headers)).response.body = (caller c).body ∧
      (answer check s generated (.me headers)).endUser = some c.subject := by
  have answered : service check s (.me headers) =
      .ok { response := caller c, endUser := some c.subject } := by
    rw [service_me, protect, authenticate_of_accepted presents accepted]
    rfl
  rw [answer, serve_of_ok generated (by simp [Request.me]) answered]
  exact ⟨Response.status_withHeader _ _ _, Response.body_withHeader _ _ _, rfl⟩

/-- Every other request is refused as it deserves, and names no caller. -/
theorem answer_of_deserves {reason : AuthRejection}
    (deserves : Deserves (verdict check s) (.me headers) reason) :
    (answer check s generated (.me headers)).response.Refuses reason.code reason.description
        reason.challenge ∧
      (answer check s generated (.me headers)).endUser = none := by
  have answered : service check s (.me headers) = .ok { response := reason.response } := by
    rw [service_me, protect_of_deserves deserves]
  have apart : requestIdHeader ≠ "www-authenticate" := by decide
  rw [answer, serve_of_ok generated (by simp [Request.me]) answered]
  exact ⟨reason.refuses_response.withHeader apart _, rfl⟩

/-- The identity of the caller is told just to those who present an accepted token. -/
theorem status_answer_iff :
    (answer check s generated (.me headers)).response.status = 200 ↔
      ∃ token c, (Request.me headers).Presents token ∧ verdict check s token = .ok c := by
  constructor
  · intro success
    refine (accepted_or_deserves (verdict check s) (.me headers)).resolve_right ?_
    rintro ⟨reason, deserves⟩
    have refused := (answer_of_deserves generated deserves).1.status
    omega
  · rintro ⟨token, c, presents, accepted⟩
    exact (answer_of_accepted generated presents accepted).1

/-- Whatever a refusal says is what the request deserves. -/
theorem exists_deserves_of_refuses {code description challenge : String}
    (refuses : (answer check s generated (.me headers)).response.Refuses code description
      challenge) :
    ∃ reason, Deserves (verdict check s) (.me headers) reason ∧ reason.code = code ∧
      reason.description = description ∧
      Text.encodeUtf8 reason.challenge = Text.encodeUtf8 challenge := by
  rcases accepted_or_deserves (verdict check s) (.me headers) with
    accepted | ⟨reason, deserves⟩
  · have success := (status_answer_iff generated).2 accepted
    have refused := refuses.status
    omega
  · exact ⟨reason, deserves, (answer_of_deserves generated deserves).1.unique refuses⟩

/-- The code of a rejection of the header is given exactly to the requests that deserve it. -/
theorem refuses_header_iff (reason : AuthRejection) (header : ∀ t, reason ≠ .token t) :
    (∃ description, (answer check s generated (.me headers)).response.Refuses reason.code
      description reason.challenge) ↔ Deserves (verdict check s) (.me headers) reason := by
  constructor
  · rintro ⟨description, refuses⟩
    obtain ⟨other, deserves, code, _⟩ := exists_deserves_of_refuses generated refuses
    obtain rfl := AuthRejection.eq_of_code_eq header code
    exact deserves
  · intro deserves
    exact ⟨_, (answer_of_deserves generated deserves).1⟩

private theorem refuses_invalid_token_iff (code description : String) :
    (answer check s generated (.me headers)).response.Refuses code description
        "Bearer error=\"invalid_token\"" ↔
      ∃ token reason, (Request.me headers).Presents token ∧
        verdict check s token = .error reason ∧ reason.code = code ∧
        reason.message = description := by
  constructor
  · intro refuses
    obtain ⟨reason, deserves, coded, described, challenged⟩ :=
      exists_deserves_of_refuses generated refuses
    cases deserves with
    | missing anonymous => exact absurd challenged (by decide +kernel)
    | invalid misshapen => exact absurd challenged (by decide +kernel)
    | @token token reason presents rejected =>
      exact ⟨token, reason, presents, rejected, coded, described⟩
  · rintro ⟨token, reason, presents, rejected, rfl, rfl⟩
    exact (answer_of_deserves generated (.token presents rejected)).1

end Me

/-- A request for the caller's identity is let through exactly with a token that the validator
accepts, and then it is told the accepted claims. Otherwise the handler plays no part: a request
without credentials is asked for them, one with something else in their place is told so, and one
with a token is told why the validator rejected it. -/
theorem me_open_to_accepted (check : SignatureCheck) (s : Session) (generated : FieldValue)
    (headers : List (String × FieldValue)) :
    let r := Request.me headers
    let reply := answer check s generated r
    (reply.response.status = 200 ↔
      ∃ token c, r.Presents token ∧ verdict check s token = .ok c) ∧
    (∀ token c, r.Presents token → verdict check s token = .ok c →
      reply.endUser = some c.subject ∧
        Json.ofText? reply.response.body = some (.record [("id", .text c.subject),
          ("issuer", .text c.issuer), ("audience", .list (c.audience.map .text))])) ∧
    (reply.response.status ≠ 200 →
      reply.endUser = none ∧
        (∀ h h', protect (verdict check s) h r = protect (verdict check s) h' r) ∧
        ∃ code description, ∃ challenge ∈ ["Bearer", "Bearer error=\"invalid_request\"",
          "Bearer error=\"invalid_token\""], reply.response.Refuses code description challenge) ∧
    ((∃ description, reply.response.Refuses "unauthorized" description "Bearer") ↔
      r.Anonymous) ∧
    ((∃ description, reply.response.Refuses "invalid_request" description
        "Bearer error=\"invalid_request\"") ↔ r.Misshapen) ∧
    ∀ code description,
      reply.response.Refuses code description "Bearer error=\"invalid_token\"" ↔
        ∃ token reason, r.Presents token ∧ verdict check s token = .error reason ∧
          reason.code = code ∧ reason.message = description := by
  intro r reply
  refine ⟨status_answer_iff generated, ?_, ?_,
    (refuses_header_iff generated .missingCredentials nofun).trans deserves_missing_iff,
    (refuses_header_iff generated .invalidRequest nofun).trans deserves_invalid_iff,
    refuses_invalid_token_iff generated⟩
  · intro token c presents accepted
    obtain ⟨_, body, endUser⟩ := answer_of_accepted generated presents accepted
    exact ⟨endUser, by rw [body, ofText?_caller]⟩
  · intro failed
    obtain ⟨reason, deserves⟩ := (accepted_or_deserves (verdict check s) r).resolve_left
      fun accepted => failed ((status_answer_iff generated).2 accepted)
    obtain ⟨refuses, endUser⟩ := answer_of_deserves generated deserves
    refine ⟨endUser, fun h h' => ?_, reason.code, reason.description, reason.challenge, ?_, refuses⟩
    · rw [protect_of_deserves deserves h, protect_of_deserves deserves h']
    · cases reason <;> simp [AuthRejection.challenge]

end TokenGate.Http
