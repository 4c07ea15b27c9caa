import Mathlib.Data.List.Forall2
import TokenGate.Proofs.Key.Admission
import TokenGate.Token.Claims
import TokenGate.Token.Header

/-! # Headers and payloads as records

A header and a payload are read from the members of the record that the document spells. Written as
values again, their fields are the members of their names: nothing is taken from another place, and
nothing is lost. A member without content is read as an absent one. -/

namespace TokenGate

namespace Json

/-! ## The record of a document -/

private theorem mapM_bind {α β γ : Type} (f : α → Option β) (g : β → Option γ) (items : List α) :
    items.mapM (fun a => (f a).bind g) = (items.mapM f).bind fun kept => kept.mapM g := by
  induction items with
  | nil => rfl
  | cons a items ih =>
    rw [List.mapM_cons, List.mapM_cons, ih]
    cases f a with
    | none => rfl
    | some b =>
      cases items.mapM f with
      | none => cases made : g b <;> simp [made]
      | some kept => simp [List.mapM_cons]

private theorem mapM_eq_some_iff {α β : Type} {f : α → Option β} {items : List α}
    {kept : List β} :
    items.mapM f = some kept ↔ List.Forall₂ (fun a b => f a = some b) items kept := by
  induction items generalizing kept with
  | nil => simp [eq_comm]
  | cons a items ih =>
    simp only [List.mapM_cons, bind, pure, Option.bind_eq_some_iff, ih, List.forall₂_cons_left_iff,
      Option.some.injEq]
    constructor
    · rintro ⟨b, first, rest, behind, rfl⟩
      exact ⟨b, rest, first, behind, rfl⟩
    · rintro ⟨b, rest, first, behind, rfl⟩
      exact ⟨b, first, rest, behind, rfl⟩

/-- A member with its value kept. -/
def keptMember? (limit : Nat) (m : String × Raw) : Option (String × Json) :=
  (m.2.value? limit).map (m.1, ·)

private theorem keptMember?_eq_bind (limit : Nat) :
    (fun m : String × Raw => (m.2.value? limit).bind fun j => some (m.1, j)) =
      keptMember? limit :=
  funext fun _ => (Option.map_eq_bind ..).symm

/-- A document spells a record with these members, as trees and as values, with repeated names. -/
def IsRecord (document : List UInt8) (trees : List (String × Raw))
    (members : List (String × Json)) : Prop :=
  ∃ raw, raw? (Text.symbols document) = some raw ∧ raw.members? = some trees ∧
    trees.mapM (keptMember? (depthLimit - 1)) = some members

private theorem value?_record (limit : Nat) (written : List (Option String × Raw)) :
    (Raw.record written).value? (limit + 1) =
      ((Raw.record written).members?.bind fun trees => trees.mapM (keptMember? limit)).map
        fun members => .record (lastValues members) := by
  rw [Raw.value?, Raw.members?, ← mapM_bind]
  congr 2
  funext m
  obtain ⟨name, tree⟩ := m
  cases name with
  | none => rfl
  | some name => cases kept : tree.value? limit <;> simp [keptMember?, kept]

private theorem value?_eq_record_iff {raw : Raw} {kept : List (String × Json)} :
    raw.value? depthLimit = some (.record kept) ↔
      ∃ trees members, raw.members? = some trees ∧
        trees.mapM (keptMember? (depthLimit - 1)) = some members ∧ lastValues members = kept := by
  have deep : depthLimit = depthLimit - 1 + 1 := rfl
  cases raw with
  | record written =>
    rw [deep, value?_record]
    simp only [Option.map_eq_some_iff, Option.bind_eq_some_iff, Json.record.injEq]
    exact ⟨fun ⟨members, ⟨trees, named, kept⟩, same⟩ => ⟨trees, members, named, kept, same⟩,
      fun ⟨trees, members, named, kept, same⟩ => ⟨members, ⟨trees, named, kept⟩, same⟩⟩
  | null | bool | number | text | list => 
    rw [deep]
    simp [Raw.value?, Raw.members?]

/-- The value of a document is a record just if the document spells one, and it holds the last
values of the members. -/
theorem ofSymbols?_eq_record_iff {document : List UInt8} {kept : List (String × Json)} :
    ofSymbols? (Text.symbols document) = some (.record kept) ↔
      ∃ trees members, IsRecord document trees members ∧ lastValues members = kept := by
  simp only [ofSymbols?, Option.bind_eq_some_iff, value?_eq_record_iff, IsRecord]
  constructor
  · rintro ⟨raw, spelt, trees, members, named, kept, same⟩
    exact ⟨trees, members, ⟨raw, spelt, named, kept⟩, same⟩
  · rintro ⟨trees, members, ⟨raw, spelt, named, kept⟩, same⟩
    exact ⟨raw, spelt, trees, members, named, kept, same⟩

/-! ## Fields and members -/

/-- What a member says: a missing one and one without content say nothing. -/
def content? : Option Json → Option Json
  | some .null => none
  | member => member

/-- An optional field, written as a value, is what its member says. -/
theorem optional?_eq_some_iff {α : Type} {read? : Json → Option α} {write : α → Json}
    (inverse : ∀ j a, read? j = some a ↔ j = write a) {member : Option Json} {field : Option α} :
    optional? read? member = some field ↔ field.map write = content? member := by
  cases member with
  | none => simp [optional?, content?, eq_comm]
  | some j =>
    by_cases void : j = .null
    · subst void
      simp [optional?, content?, eq_comm]
    · have spoken : content? (some j) = some j := by cases j <;> trivial
      have read : optional? read? (some j) = (read? j).map some := by cases j <;> trivial
      rw [spoken, read, Option.map_eq_some_iff, Option.map_eq_some_iff]
      constructor
      · rintro ⟨a, ok, rfl⟩
        exact ⟨a, rfl, ((inverse j a).1 ok).symm⟩
      · rintro ⟨a, rfl, rfl⟩
        exact ⟨a, (inverse _ a).2 rfl, rfl⟩

private theorem mem_of_lookup? {α : Type} {members : List (String × α)} {name : String} {value : α}
    (found : lookup? members name = some value) : (name, value) ∈ members := by
  obtain ⟨m, first, rfl⟩ := Option.map_eq_some_iff.1 found
  have named : m.1 = name := by simpa using List.find?_some first
  exact named ▸ List.mem_of_find?_eq_some first

theorem text?_eq_some_iff (j : Json) (s : String) : j.text? = some s ↔ j = .text s := by
  cases j <;> simp [text?]

theorem natural?_eq_some_iff (j : Json) (n : UInt64) :
    j.natural? = some n ↔ j = Claims.moment n := by
  unfold natural? Claims.moment
  split <;> simp_all

theorem texts?_eq_some_iff (j : Json) (texts : List String) :
    j.texts? = some texts ↔ j = .list (texts.map .text) := by
  rw [texts?, Option.bind_eq_some_iff]
  simp only [mapM_eq_some_iff, text?_eq_some_iff]
  have listed (items : List Json) :
      List.Forall₂ (fun j s => j = .text s) items texts ↔ items = texts.map .text := by
    rw [← List.forall₂_eq_eq_eq, List.forall₂_map_right_iff]
  simp only [listed, exists_eq_right]
  cases j <;> simp [items?]

theorem choice?_eq_some_iff (j : Json) (name : String) :
    j.choice? = some name ↔ j = .text name ∨ j = .record [(name, .null)] := by
  unfold choice?
  split <;> simp_all

end Json

theorem Audience.ofJson?_eq_some_iff (j : Json) (aud : Audience) :
    ofJson? j = some aud ↔ j = aud.toJson := by
  cases j with
  | text name => cases aud <;> simp [ofJson?, toJson]
  | null | bool | number | list | record =>
    simp only [ofJson?, Option.map_eq_some_iff, Json.texts?_eq_some_iff]
    cases aud <;> simp [toJson]

/-- The fields of a payload are what the members of a record say. -/
structure Payload.SaidBy (p : Payload) (members : List (String × Json)) : Prop where
  once : ∀ name ∈ claimNames, (members.map Prod.fst).count name ≤ 1
  sub : p.sub.map .text = Json.content? (Json.lookup? members "sub")
  iss : p.iss.map .text = Json.content? (Json.lookup? members "iss")
  aud : p.aud.map Audience.toJson = Json.content? (Json.lookup? members "aud")
  exp : p.exp.map Claims.moment = Json.content? (Json.lookup? members "exp")
  nbf : p.nbf.map Claims.moment = Json.content? (Json.lookup? members "nbf")
  iat : p.iat.map Claims.moment = Json.content? (Json.lookup? members "iat")
  jti : p.jti.map .text = Json.content? (Json.lookup? members "jti")
  extra : p.extra = Json.lastValues (members.filter fun m => !claimNames.contains m.1)

private theorem all_once_iff {names : List String} {members : List (String × Json)} :
    (names.all fun name => decide ((members.filter fun m => m.1 == name).length ≤ 1)) = true ↔
      ∀ name ∈ names, (members.map Prod.fst).count name ≤ 1 := by
  simp only [List.all_eq_true, decide_eq_true_iff, ← List.countP_eq_length_filter, List.count,
    List.countP_map]
  rfl

/-- A payload is read from a record, and from what its members say. -/
theorem Payload.ofOctets?_eq_some_iff (document : List UInt8) (p : Payload) :
    ofOctets? document = some p ↔
      ∃ trees members, Json.IsRecord document trees members ∧ p.SaidBy members := by
  have text := Json.text?_eq_some_iff
  have natural := Json.natural?_eq_some_iff
  have audience := Audience.ofJson?_eq_some_iff
  simp only [ofOctets?, bind, pure, Option.bind_eq_some_iff, Json.optional?_eq_some_iff text,
    Json.optional?_eq_some_iff natural, Json.optional?_eq_some_iff audience, ite_eq_iff,
    all_once_iff, Json.keptMember?_eq_bind]
  constructor
  · rintro ⟨raw, spelt, trees, named, members, kept, ⟨once, sub, hsub, iss, hiss, aud, haud, exp,
      hexp, nbf, hnbf, iat, hiat, jti, hjti, same⟩ | ⟨-, same⟩⟩
    · obtain rfl := Option.some.inj same
      exact ⟨trees, members, ⟨raw, spelt, named, kept⟩, once, hsub, hiss, haud, hexp, hnbf, hiat,
        hjti, rfl⟩
    · cases same
  · rintro ⟨trees, members, ⟨raw, spelt, named, kept⟩, said⟩
    exact ⟨raw, spelt, trees, named, members, kept, Or.inl ⟨said.once, p.sub, said.sub, p.iss,
      said.iss, p.aud, said.aud, p.exp, said.exp, p.nbf, said.nbf, p.iat, said.iat, p.jti, said.jti,
      by rw [← said.extra]⟩⟩

/-- The fields of a header are what the members of a record say, all of which have their types. -/
structure TokenHeader.SaidBy (h : TokenHeader) (trees : List (String × Json.Raw))
    (members : List (String × Json)) : Prop where
  once : ∀ name ∈ registered, (members.map Prod.fst).count name ≤ 1
  key : ∀ m ∈ trees, m.1 = "jwk" → isKey m.2 = true
  typed : ∀ m ∈ members, m.1 ≠ "alg" → m.1 ≠ "jwk" → isMember m.1 m.2 = true
  algorithm : ∃ j, Json.lookup? members "alg" = some j ∧
    (j = .text h.algorithm.name ∨ j = .record [(h.algorithm.name, .null)])
  kid : h.kid.map .text = Json.content? (Json.lookup? members "kid")

private theorem TokenHeader.kid_eq_iff {members : List (String × Json)} {kid : Option String}
    (typed : ∀ m ∈ members, m.1 ≠ "alg" → m.1 ≠ "jwk" → isMember m.1 m.2 = true) :
    (Json.lookup? members "kid").bind Json.text? = kid ↔
      kid.map .text = Json.content? (Json.lookup? members "kid") := by
  cases found : Json.lookup? members "kid" with
  | none => simp [Json.content?, eq_comm]
  | some j =>
    have texts : nullOr isText j = true :=
      typed ("kid", j) (Json.mem_of_lookup? found) (by simp) (by simp)
    cases j with
    | null => simp [Json.content?, Json.text?, eq_comm]
    | text s => simp [Json.content?, Json.text?, eq_comm]
    | bool | number | list | record => cases texts

private theorem TokenHeader.checked_iff {trees : List (String × Json.Raw)}
    {members : List (String × Json)} :
    ((registered.all fun name => decide ((members.filter fun m => m.1 == name).length ≤ 1)) &&
        (trees.filter fun m => m.1 == "jwk").all (fun m => isKey m.2) &&
        (members.filter fun m => m.1 != "alg" && m.1 != "jwk").all
          fun m => isMember m.1 m.2) = true ↔
      (∀ name ∈ registered, (members.map Prod.fst).count name ≤ 1) ∧
        (∀ m ∈ trees, m.1 = "jwk" → isKey m.2 = true) ∧
        ∀ m ∈ members, m.1 ≠ "alg" → m.1 ≠ "jwk" → isMember m.1 m.2 = true := by
  rw [Bool.and_eq_true, Bool.and_eq_true, all_once_iff]
  simp only [List.all_eq_true, List.mem_filter, Bool.and_eq_true, beq_iff_eq, bne_iff_ne, and_imp,
    and_assoc]

/-- A header is read from a record with well-typed members, and from what two of them say. -/
theorem TokenHeader.ofOctets?_eq_some_iff (document : List UInt8) (h : TokenHeader) :
    ofOctets? document = some h ↔
      ∃ trees members, Json.IsRecord document trees members ∧ h.SaidBy trees members := by
  simp only [ofOctets?, keptMembers?, bind, pure, Option.bind_eq_some_iff, ite_eq_iff, checked_iff,
    Json.keptMember?_eq_bind, Json.choice?_eq_some_iff, Algorithm.ofName?_eq_some_iff]
  constructor
  · rintro ⟨raw, spelt, trees, named, members, ⟨_, renamed, kept⟩,
      ⟨⟨once, key, typed⟩, j, found, name, choice, algorithm, rfl, same⟩ | ⟨-, same⟩⟩
    · obtain rfl := Option.some.inj (named.symm.trans renamed)
      obtain rfl := Option.some.inj same
      exact ⟨trees, members, ⟨raw, spelt, named, kept⟩, once, key, typed, ⟨j, found, choice⟩,
        (kid_eq_iff typed).1 rfl⟩
    · cases same
  · rintro ⟨trees, members, ⟨raw, spelt, named, kept⟩, said⟩
    obtain ⟨j, found, choice⟩ := said.algorithm
    refine ⟨raw, spelt, trees, named, members, ⟨trees, named, kept⟩, Or.inl
      ⟨⟨said.once, said.key, said.typed⟩, j, found, _, choice, h.algorithm, rfl, ?_⟩⟩
    rw [(kid_eq_iff said.typed).2 said.kid]

end TokenGate
