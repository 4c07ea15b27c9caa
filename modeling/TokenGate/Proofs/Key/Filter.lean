import Mathlib
import TokenGate.Key.Set
import TokenGate.Proofs.Key.Admission

/-! # Which keys of a document are kept

The set of a document has the key of the first admitted entry of every id, and no others. Entries
that are not admitted make no difference to it, and entries behind the ones it was made from only
add keys. -/

namespace TokenGate

/-- An entry reads as a key entry, and that passes the filter with a key. -/
structure Admitted (entry : Json) (jwk : Jwk) (key : SigningKey) : Prop where
  read : Jwk.ofJson? entry = some jwk
  passed : jwk.signingKey = .ok key

/-- An entry has a key. -/
def Admissible (entry : Json) : Prop := ∃ jwk key, Admitted entry jwk key

/-- A key is that of the first admitted entry with an id. -/
def FirstAdmitted (entries : List Json) (kid : String) (key : SigningKey) : Prop :=
  ∃ before entry after jwk, entries = before ++ entry :: after ∧ Admitted entry jwk key ∧
    jwk.kid = some kid ∧
    ∀ other ∈ before, ∀ jwk' key', Admitted other jwk' key' → jwk'.kid ≠ some kid

/-- The key of an entry, if it is admitted. -/
def admittedKey? (entry : Json) : Option SigningKey :=
  (Jwk.ofJson? entry).bind fun jwk => jwk.signingKey.toOption

/-- The key of an entry is the one under which it is admitted. -/
theorem admittedKey?_eq_some_iff (entry : Json) (key : SigningKey) :
    admittedKey? entry = some key ↔ ∃ jwk, Admitted entry jwk key := by
  have kept (jwk : Jwk) : jwk.signingKey.toOption = some key ↔ jwk.signingKey = .ok key := by
    cases jwk.signingKey <;> simp [Except.toOption]
  simp only [admittedKey?, Option.bind_eq_some_iff, kept]
  constructor
  · rintro ⟨jwk, read, passed⟩
    exact ⟨jwk, read, passed⟩
  · rintro ⟨jwk, read, passed⟩
    exact ⟨jwk, read, passed⟩

theorem admittedKey?_eq_none_iff (entry : Json) : admittedKey? entry = none ↔ ¬ Admissible entry := by
  rw [Option.eq_none_iff_forall_ne_some]
  simp only [ne_eq, admittedKey?_eq_some_iff, Admissible]
  constructor
  · rintro missing ⟨jwk, key, admitted⟩
    exact missing key ⟨jwk, admitted⟩
  · rintro missing key ⟨jwk, admitted⟩
    exact missing ⟨jwk, key, admitted⟩

/-- The filter leaves the id of an entry as it is. -/
theorem Jwk.kid_of_signingKey {jwk : Jwk} {key : SigningKey} (passed : jwk.signingKey = .ok key) :
    jwk.kid = some key.kid :=
  (signingKey_eq_ok_iff.1 passed).kid.present

namespace KeySet

/-- The usable keys are those of the admitted entries, in order. -/
theorem usableKeys_eq (entries : List Json) :
    usableKeys entries = entries.filterMap admittedKey? := by
  refine List.filterMap_congr fun entry _ => ?_
  unfold entryKey admittedKey?
  cases Jwk.ofJson? entry with
  | none => rfl
  | some jwk => cases passed : jwk.signingKey <;> simp [passed, Except.toOption]

/-- Looking among the first keys of every id finds what looking among all of them finds: a key that
is passed over stands behind one of its id. -/
theorem find?_firstKeys (kept keys : List SigningKey) (kid : String) :
    (firstKeys kept keys).1.find? (fun k => k.kid == kid) =
      (kept ++ keys).find? (fun k => k.kid == kid) := by
  induction keys generalizing kept with
  | nil => simp [firstKeys]
  | cons k rest ih =>
    unfold firstKeys
    split
    · next repeated =>
      obtain ⟨other, member, same⟩ := List.any_eq_true.1 repeated
      simp only [ih, List.find?_append, List.find?_cons]
      cases wanted : k.kid == kid with
      | false => rfl
      | true =>
        have found : (kept.find? fun k => k.kid == kid).isSome = true := by
          rw [List.find?_isSome]
          exact ⟨other, member, by simpa [beq_iff_eq.1 wanted] using same⟩
        obtain ⟨first, found⟩ := Option.isSome_iff_exists.1 found
        simp [found]
    · rw [ih, List.append_assoc, List.singleton_append]

theorem get?_ofKeys (keys : List SigningKey) (time : SystemTime) (kid : String) :
    (ofKeys keys time).1.get? kid = keys.find? fun k => k.kid == kid :=
  find?_firstKeys [] keys kid

private theorem any_admittedKey?_iff (entry : Json) (kid : String) :
    (admittedKey? entry).any (fun k => k.kid == kid) = true ↔
      ∃ jwk key, Admitted entry jwk key ∧ jwk.kid = some kid := by
  simp only [Option.any_eq_true, admittedKey?_eq_some_iff, beq_iff_eq]
  constructor
  · rintro ⟨key, ⟨jwk, admitted⟩, rfl⟩
    exact ⟨jwk, key, admitted, Jwk.kid_of_signingKey admitted.passed⟩
  · rintro ⟨jwk, key, admitted, named⟩
    have same := (Jwk.kid_of_signingKey admitted.passed).symm.trans named
    exact ⟨key, ⟨jwk, admitted⟩, Option.some.inj same⟩

/-- Looking an id up among the admitted keys finds the first entry admitted under it. -/
theorem find?_admittedKeys (entries : List Json) (kid : String) (key : SigningKey) :
    (entries.filterMap admittedKey?).find? (fun k => k.kid == kid) = some key ↔
      FirstAdmitted entries kid key := by
  rw [List.find?_filterMap, Option.bind_eq_some_iff]
  simp only [List.find?_eq_some_iff_append, Bool.not_eq_true', ← Bool.not_eq_true,
    any_admittedKey?_iff]
  constructor
  · rintro ⟨entry, ⟨⟨jwk, key', admitted, named⟩, before, after, joined, others⟩, own⟩
    have found := (admittedKey?_eq_some_iff entry key').2 ⟨jwk, admitted⟩
    obtain rfl : key' = key := Option.some.inj (found.symm.trans own)
    exact ⟨before, entry, after, jwk, joined, admitted, named,
      fun other member jwk' key'' admitted' named' =>
        others other member ⟨jwk', key'', admitted', named'⟩⟩
  · rintro ⟨before, entry, after, jwk, joined, admitted, named, others⟩
    refine ⟨entry, ⟨⟨jwk, key, admitted, named⟩, before, after, joined, ?_⟩, ?_⟩
    · rintro other member ⟨jwk', key', admitted', named'⟩
      exact others other member jwk' key' admitted' named'
    · exact (admittedKey?_eq_some_iff entry key).2 ⟨jwk, admitted⟩

/-- Without an admitted entry there is no set, and all entries are counted. -/
theorem ofEntries_of_none {entries : List Json} (rejected : ∀ entry ∈ entries, ¬ Admissible entry)
    (time : SystemTime) :
    (ofEntries entries time).1 = .error (.noUsableKeys entries.length.toUInt64) := by
  have empty : usableKeys entries = [] := by
    rw [usableKeys_eq, List.filterMap_eq_nil_iff]
    exact fun entry member => (admittedKey?_eq_none_iff entry).2 (rejected entry member)
  simp [ofEntries, empty]

/-- One admitted entry is enough for a set. -/
theorem ofEntries_of_some {entries : List Json} (admits : ∃ entry ∈ entries, Admissible entry)
    (time : SystemTime) :
    (ofEntries entries time).1 = .ok (ofKeys (entries.filterMap admittedKey?) time).1 := by
  obtain ⟨entry, member, jwk, key, admitted⟩ := admits
  have present : key ∈ entries.filterMap admittedKey? :=
    List.mem_filterMap.2 ⟨entry, member, (admittedKey?_eq_some_iff entry key).2 ⟨jwk, admitted⟩⟩
  have nonempty : (entries.filterMap admittedKey?).isEmpty = false :=
    List.isEmpty_eq_false_iff.2 (List.ne_nil_of_mem present)
  simp only [ofEntries, usableKeys_eq, nonempty, Bool.false_eq_true, if_false]

/-- A set is made of the entries exactly when one of them is admitted. -/
theorem ofEntries_eq_ok_iff (entries : List Json) (time : SystemTime) (set : KeySet) :
    (ofEntries entries time).1 = .ok set ↔
      (∃ entry ∈ entries, Admissible entry) ∧
        set = (ofKeys (entries.filterMap admittedKey?) time).1 := by
  by_cases admits : ∃ entry ∈ entries, Admissible entry
  · rw [ofEntries_of_some admits]
    simp only [Except.ok.injEq, admits, true_and]
    exact eq_comm
  · rw [ofEntries_of_none (by simpa using admits)]
    simp [admits]

theorem ofEntries_eq_noUsableKeys_iff (entries : List Json) (time : SystemTime) (n : UInt64) :
    (ofEntries entries time).1 = .error (.noUsableKeys n) ↔
      (∀ entry ∈ entries, ¬ Admissible entry) ∧ n = entries.length.toUInt64 := by
  by_cases rejected : ∀ entry ∈ entries, ¬ Admissible entry
  · rw [ofEntries_of_none rejected, Except.error.injEq, FetchError.noUsableKeys.injEq, eq_comm]
    exact (and_iff_right rejected).symm
  · rw [ofEntries_of_some (by simpa using rejected)]
    simp [rejected]

/-- A set holds, under every id, the key of the first entry admitted under it. -/
theorem get?_of_ofEntries {entries : List Json} {time : SystemTime} {set : KeySet}
    (made : (ofEntries entries time).1 = .ok set) (kid : String) (key : SigningKey) :
    set.get? kid = some key ↔ FirstAdmitted entries kid key := by
  obtain ⟨_, rfl⟩ := (ofEntries_eq_ok_iff entries time set).1 made
  rw [get?_ofKeys, find?_admittedKeys]

/-- No set that a document makes is empty. -/
theorem keys_ne_nil_of_ofEntries {entries : List Json} {time : SystemTime} {set : KeySet}
    (made : (ofEntries entries time).1 = .ok set) : set.keys ≠ [] := by
  obtain ⟨⟨entry, member, jwk, key, admitted⟩, rfl⟩ := (ofEntries_eq_ok_iff entries time set).1 made
  intro empty
  have present : key ∈ entries.filterMap admittedKey? :=
    List.mem_filterMap.2 ⟨entry, member, (admittedKey?_eq_some_iff entry key).2 ⟨jwk, admitted⟩⟩
  have missing := get?_ofKeys (entries.filterMap admittedKey?) time key.kid
  rw [get?, empty, List.find?_nil, eq_comm, List.find?_eq_none] at missing
  exact missing key present (beq_self_eq_true key.kid)

private theorem keys_ofEntries (entries : List Json) (time : SystemTime) :
    (ofEntries entries time).1.toOption.map keys =
      if (entries.filterMap admittedKey?).isEmpty then none
      else some (firstKeys [] (entries.filterMap admittedKey?)).1 := by
  simp only [ofEntries, usableKeys_eq]
  split <;> rfl

open Classical in
/-- Entries that are not admitted make no difference, wherever they stand. -/
theorem keys_ofEntries_congr {entries entries' : List Json}
    (same : entries'.filter (Admissible ·) = entries.filter (Admissible ·))
    (time time' : SystemTime) :
    (ofEntries entries' time').1.toOption.map keys = (ofEntries entries time).1.toOption.map keys := by
  have ignored (entries : List Json) :
      (entries.filter (Admissible ·)).filterMap admittedKey? = entries.filterMap admittedKey? := by
    rw [List.filterMap_filter]
    refine List.filterMap_congr fun entry _ => ?_
    by_cases admissible : Admissible entry
    · simp [admissible]
    · simp [admissible, (admittedKey?_eq_none_iff entry).2 admissible]
  rw [keys_ofEntries, keys_ofEntries, ← ignored entries', ← ignored entries, same]

/-- Entries behind the ones of a set only add keys to it. -/
theorem ofEntries_append {entries : List Json} {time : SystemTime} {set : KeySet}
    (made : (ofEntries entries time).1 = .ok set) (more : List Json) (time' : SystemTime) :
    ∃ set', (ofEntries (entries ++ more) time').1 = .ok set' ∧
      ∀ kid key, set.get? kid = some key → set'.get? kid = some key := by
  obtain ⟨⟨entry, member, admissible⟩, rfl⟩ := (ofEntries_eq_ok_iff entries time set).1 made
  refine ⟨_, ofEntries_of_some ⟨entry, List.mem_append_left more member, admissible⟩ time', ?_⟩
  intro kid key found
  rw [get?_ofKeys] at found ⊢
  rw [List.filterMap_append, List.find?_append, found, Option.some_or]

theorem ofDocument_of_entries {body : List UInt8} {entries : List Json}
    (decodes : documentEntries? body = some entries) (time : SystemTime) :
    ofDocument body time = ofEntries entries time := by
  simp only [ofDocument, decodes]

/-- A set that a document is read as is never empty. -/
theorem keys_ne_nil_of_ofDocument {body : List UInt8} {time : SystemTime} {set : KeySet}
    (made : (ofDocument body time).1 = .ok set) : set.keys ≠ [] := by
  cases decodes : documentEntries? body with
  | none => simp [ofDocument, decodes] at made
  | some entries =>
    rw [ofDocument_of_entries decodes] at made
    exact keys_ne_nil_of_ofEntries made

open Classical in
/-- The filter is exact: a document gives the first admitted entry of every id, whatever stands
between, and fails exactly when there is none. -/
theorem ofDocument_exact {body : List UInt8} {entries : List Json}
    (decodes : documentEntries? body = some entries) (time : SystemTime) :
    (∀ set, (ofDocument body time).1 = .ok set →
      ∀ kid key, set.get? kid = some key ↔ FirstAdmitted entries kid key) ∧
    (∀ body' entries' time', documentEntries? body' = some entries' →
      entries'.filter (Admissible ·) = entries.filter (Admissible ·) →
      (ofDocument body' time').1.toOption.map keys = (ofDocument body time).1.toOption.map keys) ∧
    (∀ body' more time', documentEntries? body' = some (entries ++ more) →
      ∀ set, (ofDocument body time).1 = .ok set → ∃ set', (ofDocument body' time').1 = .ok set' ∧
        ∀ kid key, set.get? kid = some key → set'.get? kid = some key) ∧
    (∀ n, (ofDocument body time).1 = .error (.noUsableKeys n) ↔
      (∀ entry ∈ entries, ¬ Admissible entry) ∧ n = entries.length.toUInt64) ∧
    ((∃ entry ∈ entries, Admissible entry) →
      (ofDocument body time).1 = .ok (ofKeys (entries.filterMap admittedKey?) time).1) ∧
    ∀ set, (ofDocument body time).1 = .ok set →
      set.keys ≠ [] ∧ set.generation = 0 ∧ set.fetchedAt = some time := by
  rw [ofDocument_of_entries decodes]
  refine ⟨?_, ?_, ?_, ?_, ?_, ?_⟩
  · exact fun set made => get?_of_ofEntries made
  · intro body' entries' time' decodes' same
    rw [ofDocument_of_entries decodes']
    exact keys_ofEntries_congr same time time'
  · intro body' more time' decodes' set made
    rw [ofDocument_of_entries decodes']
    exact ofEntries_append made more time'
  · exact ofEntries_eq_noUsableKeys_iff entries time
  · exact fun admits => ofEntries_of_some admits time
  · intro set made
    refine ⟨keys_ne_nil_of_ofEntries made, ?_⟩
    obtain ⟨_, rfl⟩ := (ofEntries_eq_ok_iff entries time set).1 made
    exact ⟨rfl, rfl⟩

/-- Of a number and an RSA entry, the entry alone makes the set. -/
theorem ofDocument_exact_number_and_key :
    ∃ body entries, documentEntries? body = some entries ∧ entries.length = 2 ∧
      (ofDocument body).1 =
        .ok (ofKeys [⟨"a", .rs256, .rsa, .rsa [0] [1]⟩]).1 := by
  have decodes : documentEntries? (Text.encodeUtf8
      "\x7b\"keys\":[7,\x7b\"kty\":\"RSA\",\"kid\":\"a\",\"use\":\"sig\",\"n\":\"AA\",\"e\":\"AQ\"\x7d]\x7d") =
      some [.number (.natural 7), .record [("kty", .text "RSA"), ("kid", .text "a"),
        ("use", .text "sig"), ("n", .text "AA"), ("e", .text "AQ")]] := by
    cbv
  have admissible : Admissible (.record [("kty", .text "RSA"), ("kid", .text "a"),
      ("use", .text "sig"), ("n", .text "AA"), ("e", .text "AQ")]) :=
    ⟨{ kty := "RSA", kid := some "a", use := some "sig", n := some "AA", e := some "AQ" },
      ⟨"a", .rs256, .rsa, .rsa [0] [1]⟩, by cbv, by cbv⟩
  refine ⟨_, _, decodes, rfl, ?_⟩
  have made := (ofDocument_exact decodes 0).2.2.2.2.1 ⟨_, by simp, admissible⟩
  rw [made]
  cbv

end KeySet

end TokenGate
