import TokenGate.Proofs.Json.Written
import TokenGate.Proofs.Result
import TokenGate.Proofs.Token.Acceptance

/-! # Claims as text

The fields of accepted claims and the extra claims are written as members of one record. Fields have
names of their own, other than those of the payload, and an extra claim may have such a name: then
the text has it twice, and a reader that keeps the last member of a name finds the extra claim where
the field should be. Every other field reads back as it was checked. The extra claims read back as
far as their numbers do. -/

namespace TokenGate

namespace Claims

/-- The members that are no extra claims. -/
def fields (c : Claims) : List (String × Json) := { c with extra := [] }.members

/-- An extra claim has the name of a written field. -/
def Shadows (c : Claims) (name : String) : Prop :=
  name ∈ c.fields.map Prod.fst ∧ name ∈ c.extra.map Prod.fst

variable (c : Claims)

theorem members_eq : c.members = c.fields ++ c.extra := by
  simp [fields, members]

theorem nodup_fields : (c.fields.map Prod.fst).Nodup := by
  obtain ⟨subject, issuer, audience, expiresAt, notBefore, issuedAt, tokenId, keyId, extra⟩ := c
  cases notBefore <;> cases issuedAt <;> cases tokenId <;> simp [fields, members]

theorem readsBack_fields (limit : Nat) : ∀ m ∈ c.fields, Json.ReadsBack (limit + 1) m.2 := by
  have text := Json.readsBack_text (limit + 1)
  have moment := Json.readsBack_natural (limit + 1)
  have audience : Json.ReadsBack (limit + 1) (.list (c.audience.map .text)) :=
    Json.readsBack_list_iff.2 (List.forall_mem_map.2 fun s _ => Json.readsBack_text limit s)
  simp only [fields, members, List.forall_mem_append, List.forall_mem_cons, Option.mem_toList,
    Option.map_eq_some_iff, forall_exists_index, and_imp, forall_apply_eq_imp_iff₂, List.append_nil]
  exact ⟨⟨⟨⟨⟨text _, text _, audience, moment _, List.forall_mem_nil _⟩, fun m _ => moment m⟩,
    fun m _ => moment m⟩, fun s _ => text s⟩, text _, List.forall_mem_nil _⟩

end Claims

private theorem Payload.extra_of_ofOctets? {document : List UInt8} {p : Payload}
    (read : ofOctets? document = some p) :
    (p.extra.map Prod.fst).Nodup ∧ ∀ m ∈ p.extra,
      (∃ r : Json.Raw, r.value? (Json.depthLimit - 1) = some m.2) ∧
        m.2.EachNumber Json.Number.InRange := by
  unfold ofOctets? at read
  simp only [bind, Option.bind_eq_some_iff, pure] at read
  obtain ⟨raw, tree, named, rest, members, kept, read⟩ := read
  split_ifs at read
  simp only [Option.bind_eq_some_iff] at read
  obtain ⟨sub, -, iss, -, aud, -, exp, -, nbf, -, iat, -, jti, -, same⟩ := read
  obtain rfl := Option.some.inj same
  refine ⟨Json.nodup_lastValues _, fun m member => ?_⟩
  have inside := (List.mem_filter.1 (Json.mem_of_mem_lastValues member)).1
  obtain ⟨r, listed, found⟩ := Json.exists_of_mem_mapM kept m inside
  obtain ⟨j, value, same⟩ := Option.bind_eq_some_iff.1 found
  obtain rfl := Option.some.inj same
  exact ⟨⟨r.2, value⟩, ((Json.eachNumber_inRange tree).members? rest r listed).value? value⟩

/-- The extra claims of an accepted token are values that reading a payload gives. -/
theorem Validator.extra_of_accepted {check : SignatureCheck} {v : Validator} {set : KeySet}
    {now : UInt64} {token : String} {c : Claims}
    (accepted : (v.validate check set now token).1 = .ok c) :
    (c.extra.map Prod.fst).Nodup ∧ ∀ m ∈ c.extra,
      (∃ r : Json.Raw, r.value? (Json.depthLimit - 1) = some m.2) ∧
        m.2.EachNumber Json.Number.InRange := by
  rw [validate_fst, judge_eq_ok_iff] at accepted
  obtain ⟨t, read, accepted⟩ := accepted
  obtain ⟨key, -, -, -, accepted⟩ := (judgeRead_eq_ok_iff ..).1 accepted
  obtain ⟨-, -, -, -, carries⟩ := (judgeUnder_eq_ok_iff ..).1 accepted
  obtain ⟨header, payload, signature, of⟩ := (ReadToken.ofText_eq_ok_iff _ t).1 read
  obtain ⟨octets, -, parsed⟩ := of.payloadSpelt
  rw [carries.extra]
  exact Payload.extra_of_ofOctets? parsed

namespace Claims

variable {c : Claims}

/-- Names are repeated among the members just if an extra claim has the name of a field. -/
theorem nodup_members_iff (distinct : (c.extra.map Prod.fst).Nodup) :
    (c.members.map Prod.fst).Nodup ↔ ∀ name, ¬ c.Shadows name := by
  rw [members_eq, List.map_append, List.nodup_append]
  simp only [c.nodup_fields, distinct, true_and, Shadows, not_and]
  exact ⟨fun apart name field extra => apart name field name extra rfl,
    fun apart name field other extra same => apart name field (same ▸ extra)⟩

/-- The text of claims has the members in their order. -/
theorem members?_write (c : Claims) :
    Json.members? c.write = some (c.members.map fun m => (m.1, Json.tree m.2)) :=
  Json.members?_write c.members

/-- Reading the text gives the fields as they are, then the extra claims as they are reread. -/
theorem ofText?_write (c : Claims) :
    Json.ofText? c.write = (Json.reread? (Json.depthLimit - 1) c.extra).map fun extra =>
      .record (Json.lastValues (c.fields ++ extra)) := by
  have fields : Json.reread? (Json.depthLimit - 1) c.fields = some c.fields :=
    Json.reread?_eq_self_iff.2 (c.readsBack_fields _)
  have whole := Json.value?_tree_record (Json.depthLimit - 1) c.members
  rw [members_eq, Json.reread?_append, fields] at whole
  rw [write, Json.ofText?_write_eq, members_eq]
  refine whole.trans ?_
  cases Json.reread? (Json.depthLimit - 1) c.extra <;> rfl

/-- Of a name that a field and an extra claim have, the extra claim stands last. -/
theorem get?_record {extra : List (String × Json)} (distinct : (extra.map Prod.fst).Nodup)
    (name : String) :
    (Json.record (Json.lastValues (c.fields ++ extra))).get? name =
      (Json.lookup? extra name).or (Json.lookup? c.fields name) := by
  rw [Json.get?, Json.lookup?_lastValues_append _ _ distinct,
    Json.lastValues_eq_self c.nodup_fields]

/-- Wherever the name of a field stands in the text, its value stands there too, unless an extra
claim has the name. -/
theorem value?_of_field {name : String} {value : Json} {raw : Json.Raw}
    (field : (name, value) ∈ c.fields) (alone : ¬ c.Shadows name)
    (listed : (name, raw) ∈ c.members.map fun m => (m.1, Json.tree m.2)) :
    raw.value? (Json.depthLimit - 1) = some value := by
  obtain ⟨m, member, same⟩ := List.mem_map.1 listed
  obtain ⟨rfl, rfl⟩ := Prod.mk.inj same
  have named : m.1 ∈ c.fields.map Prod.fst := List.mem_map.2 ⟨_, field, rfl⟩
  rw [members_eq, List.mem_append] at member
  rcases member with member | extra
  · have unique := List.inj_on_of_nodup_map c.nodup_fields member field rfl
    rw [show value = m.2 from (congrArg Prod.snd unique).symm]
    exact c.readsBack_fields _ m member
  · exact absurd ⟨named, List.mem_map_of_mem extra⟩ alone

/-- The text reads back as the members of the claims exactly when it has each name once and the
extra claims read back. -/
theorem ofText?_write_eq_members_iff (distinct : (c.extra.map Prod.fst).Nodup) :
    Json.ofText? c.write = some (.record c.members) ↔
      (∀ name, ¬ c.Shadows name) ∧ Json.reread? (Json.depthLimit - 1) c.extra = some c.extra := by
  rw [write, Json.ofText?_write_eq, ← nodup_members_iff distinct, Json.reread?_eq_self_iff]
  have whole := @Json.readsBack_record_iff (Json.depthLimit - 1) c.members
  refine whole.trans (and_congr_right' ?_)
  simp only [members_eq, List.forall_mem_append]
  exact and_iff_right (c.readsBack_fields _)

end Claims

/-- The text of accepted claims has the fields and then the extra claims. A name stands there twice
just if an extra claim has the name of a field, and every other field stands there with its value.
The text reads back as it was written just if no name stands there twice and the numbers of the
extra claims are exact, as integers are. To a reader that keeps the last member of a name an extra
claim hides the field. -/
theorem Validator.written_claims {check : SignatureCheck} {v : Validator} {set : KeySet}
    {now : UInt64} {token : String} {c : Claims}
    (accepted : (v.validate check set now token).1 = .ok c) :
    (∃ written, Json.members? c.write = some written ∧
      written.map Prod.fst = (c.fields ++ c.extra).map Prod.fst ∧
      ((written.map Prod.fst).Nodup ↔ ∀ name, ¬ c.Shadows name) ∧
      ∀ name value raw, (name, value) ∈ c.fields → ¬ c.Shadows name → (name, raw) ∈ written →
        raw.value? (Json.depthLimit - 1) = some value) ∧
    (Json.ofText? c.write = some (.record c.members) ↔
      (∀ name, ¬ c.Shadows name) ∧ ∀ m ∈ c.extra, m.2.EachNumber Json.Number.Exact) ∧
    (∀ j, Json.ofText? c.write = some j → ∀ name, name ∉ c.extra.map Prod.fst →
      j.get? name = Json.lookup? c.fields name) ∧
    ((∀ m ∈ c.extra, m.2.EachNumber Json.Number.Exact) → ∃ j, Json.ofText? c.write = some j ∧
      ∀ name, j.get? name = (Json.lookup? c.extra name).or (Json.lookup? c.fields name)) ∧
    ((∀ m ∈ c.extra, m.2.EachNumber Json.Number.IsInteger) →
      ∀ m ∈ c.extra, m.2.EachNumber Json.Number.Exact) := by
  obtain ⟨distinct, kept⟩ := extra_of_accepted accepted
  have names : (c.members.map fun m => (m.1, Json.tree m.2)).map Prod.fst =
      c.members.map Prod.fst := by
    simp
  have rereads : Json.reread? (Json.depthLimit - 1) c.extra = some c.extra ↔
      ∀ m ∈ c.extra, m.2.EachNumber Json.Number.Exact := by
    rw [Json.reread?_eq_self_iff]
    refine forall₂_congr fun m member => ?_
    obtain ⟨r, value⟩ := (kept m member).1
    exact Json.readsBack_iff_of_value? value
  refine ⟨⟨_, c.members?_write, ?_, ?_, ?_⟩, ?_, ?_, ?_, ?_⟩
  · rw [names, Claims.members_eq]
  · rw [names, Claims.nodup_members_iff distinct]
  · exact fun name value raw field alone listed => Claims.value?_of_field field alone listed
  · rw [Claims.ofText?_write_eq_members_iff distinct, rereads]
  · intro j read name other
    rw [Claims.ofText?_write, Option.map_eq_some_iff] at read
    obtain ⟨extra, reread, rfl⟩ := read
    have sameNames := Json.map_fst_of_reread? reread
    rw [← sameNames] at distinct other
    rw [Claims.get?_record distinct, Json.lookup?_eq_none_iff.2 other, Option.none_or]
  · intro exacts
    refine ⟨_, ?_, fun name => Claims.get?_record distinct name⟩
    rw [Claims.ofText?_write, rereads.2 exacts, Option.map_some]
  · intro integers m member
    exact ((integers m member).and (kept m member).2).imp fun n both =>
      Json.Number.exact_of_isInteger both.1 both.2

/-- An extra claim of another name is written behind the fields. -/
theorem Validator.written_claims_scope :
    let v : Validator := ⟨"i", "a", .ofSeconds 60⟩
    let set : KeySet := ⟨[⟨"a", .es256, .ec, .ec [0] [0]⟩], some 0, 1, by decide⟩
    let token := "eyJhbGciOiJFUzI1NiIsImtpZCI6ImEifQ." ++
      "eyJpc3MiOiJpIiwiYXVkIjoiYSIsInN1YiI6InMiLCJleHAiOjksInNjb3BlIjoicmVhZCJ9.AA"
    ∃ c written, (v.validate (fun _ _ _ _ => true) set 5 token).1 = .ok c ∧
      c.extra.map Prod.fst = ["scope"] ∧ Json.members? c.write = some written ∧
      (written.map Prod.fst).Nodup := by
  intro v set token
  have evaluated : ((v.validate (fun _ _ _ _ => true) set 5 token).1.toOption.any fun c =>
      c.fields.map Prod.fst == ["subject", "issuer", "audience", "expires_at", "key_id"] &&
        c.extra.map Prod.fst == ["scope"]) = true := by decide +kernel
  obtain ⟨c, accepted, names⟩ := exists_ok_of_any evaluated
  rw [Bool.and_eq_true, beq_iff_eq, beq_iff_eq] at names
  obtain ⟨written, spelt, -, distinct, -⟩ := (written_claims accepted).1
  refine ⟨c, written, accepted, names.2, spelt, distinct.2 fun name shadows => ?_⟩
  rw [Claims.Shadows, names.1, names.2, List.mem_singleton] at shadows
  obtain ⟨field, rfl⟩ := shadows
  exact absurd field (by decide)

/-- An extra claim by the name of the subject is read in its place. -/
theorem Validator.written_claims_overridden :
    let v : Validator := ⟨"i", "a", .ofSeconds 60⟩
    let set : KeySet := ⟨[⟨"a", .es256, .ec, .ec [0] [0]⟩], some 0, 1, by decide⟩
    let token := "eyJhbGciOiJFUzI1NiIsImtpZCI6ImEifQ." ++
      "eyJpc3MiOiJpIiwiYXVkIjoiYSIsInN1YiI6InMiLCJleHAiOjksInN1YmplY3QiOiJldmlsIn0.AA"
    ∃ c j, (v.validate (fun _ _ _ _ => true) set 5 token).1 = .ok c ∧ c.subject = "s" ∧
      (Json.members? c.write).map (List.map Prod.fst) =
        some ["subject", "issuer", "audience", "expires_at", "key_id", "subject"] ∧
      Json.ofText? c.write = some j ∧ (j.get? "subject").bind Json.text? = some "evil" := by
  intro v set token
  have evaluated : ((v.validate (fun _ _ _ _ => true) set 5 token).1.toOption.any fun c =>
      c.subject == "s" && (Json.members? c.write).map (List.map Prod.fst) ==
        some ["subject", "issuer", "audience", "expires_at", "key_id", "subject"] &&
      (Json.ofText? c.write).any fun j =>
        (j.get? "subject").bind Json.text? == some "evil") = true := by decide +kernel
  obtain ⟨c, accepted, shown⟩ := exists_ok_of_any evaluated
  simp only [Bool.and_eq_true, beq_iff_eq, Option.any_eq_true] at shown
  obtain ⟨⟨subject, names⟩, j, read, evil⟩ := shown
  exact ⟨c, j, accepted, subject, names, read, evil⟩

end TokenGate
