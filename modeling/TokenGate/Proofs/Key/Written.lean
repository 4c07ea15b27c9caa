import TokenGate.Key.Signing
import TokenGate.Proofs.Json.Written

/-! # Key entries as text

An entry is written as a record of its members, those that are absent left out. Reading the text
gives the entry again, whether the text is kept as a value first or only the members of an entry are
kept of it. Other members of the value that an entry was read from are not in the text: they were no
part of the entry. -/

namespace TokenGate

namespace Json

/-! ## Members that may be absent -/

/-- The members that are there. -/
def present (members : List (String × Option Json)) : List (String × Json) :=
  members.filterMap fun m => m.2.map (m.1, ·)

theorem present_cons (name : String) (value : Option Json) (members : List (String × Option Json)) :
    present ((name, value) :: members) = Jwk.member name value ++ present members := by
  cases value <;> rfl

theorem present_cons_none (name : String) (members : List (String × Option Json)) :
    present ((name, none) :: members) = present members := rfl

theorem present_cons_some (name : String) (j : Json) (members : List (String × Option Json)) :
    present ((name, some j) :: members) = (name, j) :: present members := rfl

/-- Members keep their order when absent ones are left out. -/
theorem map_fst_present_sublist (members : List (String × Option Json)) :
    ((present members).map Prod.fst).Sublist (members.map Prod.fst) := by
  induction members with
  | nil => exact List.Sublist.slnil
  | cons m members ih =>
    obtain ⟨name, value⟩ := m
    cases value with
    | none => exact ih.cons name
    | some j => exact ih.cons_cons name

theorem lookup?_present {members : List (String × Option Json)}
    (distinct : (members.map Prod.fst).Nodup) {name : String} {value : Option Json}
    (member : (name, value) ∈ members) : lookup? (present members) name = value := by
  induction members with
  | nil => cases member
  | cons m members ih =>
    obtain ⟨first, head⟩ := m
    rw [List.map_cons, List.nodup_cons] at distinct
    rcases List.mem_cons.1 member with same | behind
    · obtain ⟨rfl, rfl⟩ := Prod.mk.inj same
      cases value with
      | none =>
        rw [present_cons_none, lookup?_eq_none_iff]
        exact fun inside => distinct.1 ((map_fst_present_sublist members).subset inside)
      | some j => rw [present_cons_some, lookup?_cons, if_pos rfl]
    · have other : first ≠ name := by
        rintro rfl
        exact distinct.1 (List.mem_map.2 ⟨_, behind, rfl⟩)
      cases head with
      | none => rw [present_cons_none, ih distinct.2 behind]
      | some j => rw [present_cons_some, lookup?_cons, if_neg other, ih distinct.2 behind]

theorem mem_present_iff {members : List (String × Option Json)} {name : String} {j : Json} :
    (name, j) ∈ present members ↔ (name, some j) ∈ members := by
  induction members with
  | nil => simp [present]
  | cons m members ih =>
    obtain ⟨first, head⟩ := m
    cases head with
    | none => simp [present_cons_none, ih]
    | some k => simp [present_cons_some, ih]

theorem lookup?_map {α β : Type} (f : α → β) (members : List (String × α)) (name : String) :
    lookup? (members.map fun m => (m.1, f m.2)) name = (lookup? members name).map f := by
  induction members with
  | nil => rfl
  | cons m members ih =>
    rw [List.map_cons, lookup?_cons, lookup?_cons, ih]
    split <;> rfl

/-- Looking every name up gives back the members that are there. -/
theorem filterMap_lookup?_present {α : Type} (f : Json → α)
    {members : List (String × Option Json)} (distinct : (members.map Prod.fst).Nodup) :
    ((members.map Prod.fst).filterMap fun name =>
      (lookup? ((present members).map fun m => (m.1, f m.2)) name).map (name, ·)) =
      (present members).map fun m => (m.1, f m.2) := by
  have each : ∀ m ∈ members,
      (lookup? ((present members).map fun m => (m.1, f m.2)) m.1).map (m.1, ·) =
        (m.2.map (m.1, ·)).map fun m => (m.1, f m.2) := by
    intro m member
    rw [lookup?_map, lookup?_present distinct member, Option.map_map, Option.map_map]
    rfl
  have behind : (present members).map (fun m => (m.1, f m.2)) =
      members.filterMap fun m => (m.2.map (m.1, ·)).map fun m => (m.1, f m.2) := by
    rw [present, List.map_filterMap]
  rw [List.filterMap_map, behind]
  exact List.filterMap_congr fun m member => by rw [← behind]; exact each m member

/-- Setting a name leaves the members of another one. -/
theorem filter_put_of_ne {α : Type} (members : List (String × α)) {name other : String} (value : α)
    (apart : name ≠ other) :
    (put members name value).filter (fun m => m.1 == other) =
      members.filter fun m => m.1 == other := by
  induction members with
  | nil => simp [put, apart]
  | cons m members ih =>
    obtain ⟨first, v⟩ := m
    by_cases same : first = name
    · simp [put, same, apart]
    · simp [put, same, List.filter_cons, ih]

/-- A text that may be absent is read back. -/
theorem optional?_text? (value : Option String) :
    optional? text? (value.map .text) = some value := by
  cases value <;> rfl

theorem texts?_map_text (texts : List String) : texts? (.list (texts.map .text)) = some texts := by
  have each : (texts.map Json.text).mapM text? = some texts := by
    rw [List.mapM_map]
    exact mapM_eq_self_iff.2 fun s _ => rfl
  exact each

/-- A list of texts that may be absent is read back. -/
theorem optional?_texts? (value : Option (List String)) :
    optional? texts? (value.map fun texts => .list (texts.map .text)) = some value := by
  cases value with
  | none => rfl
  | some texts =>
    change (texts? (.list (texts.map .text))).map some = _
    rw [texts?_map_text, Option.map_some]

end Json

namespace Jwk

def members (k : Jwk) : List (String × Option Json) :=
  [("kty", some (.text k.kty)), ("kid", k.kid.map .text), ("use", k.use.map .text),
    ("alg", k.alg.map .text), ("n", k.n.map .text), ("e", k.e.map .text), ("crv", k.crv.map .text),
    ("x", k.x.map .text), ("y", k.y.map .text),
    ("x5c", k.x5c.map fun certificates => .list (certificates.map .text))]

/-- The fields of an entry that are given. -/
def given (fields : Json.Fields Json.Raw) : List (String × Json.Raw) :=
  memberNames.filterMap fun name => (fields.get? memberNames name).map (name, ·)

/-- The entry that a text spells. Of its members only those of an entry are kept as values. -/
def ofText? (document : String) : Option Jwk := do
  let fields ← (← Json.raw? (Text.ofText document)).fields? memberNames
  let kept ← (given fields).mapM fun m => (m.2.value? (Json.depthLimit - 1)).map (m.1, ·)
  ofJson? (.record kept)

variable (k : Jwk)

theorem nodup_memberNames : memberNames.Nodup := by decide

theorem nodup_members : (k.members.map Prod.fst).Nodup := nodup_memberNames

theorem toJson_eq : k.toJson = .record (Json.present k.members) := by
  have ended : Json.present [] = [] := rfl
  simp only [toJson, members, Json.present_cons, ended, List.append_assoc, List.append_nil]
  rfl

/-- The names written are some of the ten, in their order. -/
theorem names_sublist : ((Json.present k.members).map Prod.fst).Sublist memberNames :=
  Json.map_fst_present_sublist k.members

theorem lookup?_present {name : String} {value : Option Json} (member : (name, value) ∈ k.members) :
    Json.lookup? (Json.present k.members) name = value :=
  Json.lookup?_present (nodup_members k) member

/-- No name is written twice. -/
theorem wellFormed_named {α : Type} {given : List (String × α)}
    (distinct : (given.map Prod.fst).Nodup) (names : List String) :
    Json.Fields.wellFormed names (.named given) = true := by
  refine List.all_eq_true.2 fun name _ => decide_eq_true ?_
  have once := List.nodup_iff_count_le_one.1 distinct name
  rw [List.count_eq_countP, List.countP_map, List.countP_eq_length_filter] at once
  exact once

/-- A record that gives an entry's members their values, and each of them once, is the entry. -/
theorem ofJson?_of_lookup? {given : List (String × Json)}
    (once : Json.Fields.wellFormed memberNames (.named given) = true)
    (found : ∀ m ∈ k.members, Json.lookup? given m.1 = m.2) : ofJson? (.record given) = some k := by
  have fields : Json.fields? memberNames (.record given) = some (.named given) :=
    Option.filter_eq_some_iff.2 ⟨rfl, once⟩
  simp only [members, List.forall_mem_cons] at found
  obtain ⟨kty, kid, use, alg, n, e, crv, x, y, x5c, -⟩ := found
  rw [ofJson?, fields, Option.bind_eq_bind, Option.bind_some]
  simp only [Json.Fields.get?, kty, kid, use, alg, n, e, crv, x, y, x5c, Json.optional?_text?,
    Json.optional?_texts?]
  rfl

/-- The value of an entry is read as the entry. -/
theorem ofJson?_toJson : ofJson? k.toJson = some k := by
  rw [toJson_eq]
  exact ofJson?_of_lookup? k
    (wellFormed_named ((names_sublist k).nodup nodup_memberNames) memberNames)
    fun m member => k.lookup?_present member

theorem readsBack_members (limit : Nat) :
    ∀ m ∈ Json.present k.members, Json.ReadsBack (limit + 1) m.2 := by
  have text (s : String) : Json.ReadsBack (limit + 1) (.text s) := Json.readsBack_text _ s
  have texts (certificates : List String) :
      Json.ReadsBack (limit + 1) (.list (certificates.map .text)) :=
    Json.readsBack_list_iff.2 (List.forall_mem_map.2 fun s _ => Json.readsBack_text limit s)
  have each : ∀ m ∈ k.members, ∀ j ∈ m.2, Json.ReadsBack (limit + 1) j := by
    simp only [members, List.forall_mem_cons, Option.mem_def, Option.map_eq_some_iff,
      Option.some.injEq, forall_eq', forall_exists_index, and_imp, forall_apply_eq_imp_iff₂]
    exact ⟨text _, fun s _ => text s, fun s _ => text s, fun s _ => text s, fun s _ => text s,
      fun s _ => text s, fun s _ => text s, fun s _ => text s, fun s _ => text s,
      fun certificates _ => texts certificates, List.forall_mem_nil _⟩
  rintro ⟨name, j⟩ member
  exact each _ (Json.mem_present_iff.1 member) j rfl

/-- The record of an entry is read back as it is. -/
theorem readsBack_toJson : Json.ReadsBack Json.depthLimit k.toJson := by
  rw [toJson_eq]
  exact Json.readsBack_record_iff.2
    ⟨(names_sublist k).nodup nodup_memberNames, k.readsBack_members _⟩

/-- A text that is kept as a value first. -/
theorem ofText?_write_bind : (Json.ofText? k.write).bind ofJson? = some k := by
  rw [write, Json.ofText?_write k.readsBack_toJson, Option.bind_some, ofJson?_toJson]

/-- The text of an entry is a record of the members that are there, and of no other. -/
theorem members?_write : Json.members? k.write =
    some ((Json.present k.members).map fun m => (m.1, Json.tree m.2)) := by
  rw [write, toJson_eq, Json.members?_write]

/-- A text of which only the members of an entry are kept. -/
theorem ofText?_write : ofText? k.write = some k := by
  have distinct := (names_sublist k).nodup nodup_memberNames
  let written := (Json.present k.members).map fun m => (m.1, Json.tree m.2)
  have once : Json.Fields.wellFormed memberNames (.named written) = true :=
    wellFormed_named (by rw [List.map_map]; exact distinct) memberNames
  have fields : (Json.tree (.record (Json.present k.members))).fields? memberNames =
      some (.named written) := by
    have members := Json.members?_tree_record (Json.present k.members)
    rw [Json.tree] at members ⊢
    exact Option.filter_eq_some_iff.2 ⟨by rw [members]; rfl, once⟩
  have all : given (.named written) = written :=
    Json.filterMap_lookup?_present Json.tree (nodup_members k)
  have kept : (written.mapM fun m => (m.2.value? (Json.depthLimit - 1)).map (m.1, ·)) =
      some (Json.present k.members) := by
    rw [List.mapM_map]
    exact Json.reread?_eq_self_iff.2 (k.readsBack_members _)
  have reread := ofJson?_toJson k
  rw [toJson_eq] at reread
  simp only [ofText?, write, Json.raw?_write, toJson_eq, Option.bind_eq_bind, Option.bind_some,
    fields, all, kept, reread]

/-! ## Members of no entry -/

/-- A record is read by the members of an entry alone. -/
theorem ofJson?_record_congr {members members' : List (String × Json)}
    (once : Json.Fields.wellFormed memberNames (.named members) =
      Json.Fields.wellFormed memberNames (.named members'))
    (same : ∀ name ∈ memberNames, Json.lookup? members name = Json.lookup? members' name) :
    ofJson? (.record members) = ofJson? (.record members') := by
  simp only [memberNames, List.forall_mem_cons] at same
  obtain ⟨kty, kid, use, alg, n, e, crv, x, y, x5c, -⟩ := same
  have fields (members : List (String × Json)) : Json.fields? memberNames (.record members) =
      if Json.Fields.wellFormed memberNames (.named members) then some (.named members)
      else none := rfl
  rw [ofJson?, ofJson?, fields members, fields members', once]
  split
  · simp only [Option.bind_eq_bind, Option.bind_some, Json.Fields.get?, kty, kid, use, alg, n, e,
      crv, x, y, x5c]
  · rfl

/-- A member of another name, added or given another value, makes no difference to the entry. -/
theorem ofJson?_put (members : List (String × Json)) {name : String} (value : Json)
    (foreign : name ∉ memberNames) :
    ofJson? (.record (Json.put members name value)) = ofJson? (.record members) := by
  have apart : ∀ other ∈ memberNames, name ≠ other := by
    rintro other member rfl
    exact foreign member
  refine ofJson?_record_congr ?_ fun other member => ?_
  · rw [Bool.eq_iff_iff]
    simp only [Json.Fields.wellFormed, List.all_eq_true]
    refine forall₂_congr fun other member => ?_
    rw [Json.filter_put_of_ne members value (apart other member)]
  · rw [Json.lookup?_put, if_neg (apart other member)]

/-- The text of an entry is read as the entry. It has no members but those of an entry, each at most
once and in their order, so no other member of a value that is read as the entry is in it, or makes
any difference to it; and the filter decides on the text as it did on the value. -/
theorem write_faithful (k : Jwk) :
    ofText? k.write = some k ∧ (Json.ofText? k.write).bind ofJson? = some k ∧
    ∃ written, Json.members? k.write = some written ∧
      (written.map Prod.fst).Sublist memberNames ∧ memberNames.Nodup ∧
      ∀ j, ofJson? j = some k →
        (ofText? k.write).map signingKey = (ofJson? j).map signingKey ∧
        ∀ members name, j = .record members → name ∉ memberNames →
          name ∉ written.map Prod.fst ∧
          ∀ value, ofJson? (.record (Json.put members name value)) = some k := by
  refine ⟨ofText?_write k, ofText?_write_bind k, _, members?_write k, ?_, nodup_memberNames, ?_⟩
  · rw [List.map_map]
    exact names_sublist k
  · intro j read
    refine ⟨by rw [ofText?_write, read], ?_⟩
    rintro members name rfl foreign
    refine ⟨fun inside => foreign ?_, fun value => by rw [ofJson?_put members value foreign, read]⟩
    rw [List.map_map] at inside
    exact (names_sublist k).subset inside

/-- Of a private exponent nothing is left, of a null no member, and of an empty chain the chain. -/
theorem write_faithful_private :
    let k : Jwk := { kty := "RSA", kid := some "a\"é\n", x5c := some [] }
    ∃ written, Json.members? k.write = some written ∧
      written.map Prod.fst = ["kty", "kid", "x5c"] ∧ "d" ∉ written.map Prod.fst ∧
      ofText? k.write = some k := by
  intro k
  have read : ofJson? (.record [("d", .text "secret"), ("x5c", .list []), ("use", .null),
      ("kid", .text "a\"é\n"), ("kty", .text "RSA")]) = some k := by rfl
  obtain ⟨reread, -, written, spelt, -, -, decided⟩ := write_faithful k
  have private_out := ((decided _ read).2 _ "d" rfl (by decide)).1
  have names := members?_write k
  rw [spelt] at names
  refine ⟨written, spelt, ?_, private_out, reread⟩
  rw [Option.some.inj names]
  rfl

end Jwk

end TokenGate
