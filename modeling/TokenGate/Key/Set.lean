import TokenGate.Key.Signing
import TokenGate.Fetch.Error
import TokenGate.Log

/-! # Key sets

An immutable set of signing keys with distinct ids. A set is made from the entries of a key
document: entries that are no key entry or do not pass the filter are left out with a log record,
and of entries with one id the first counts. -/

namespace TokenGate

/-- Signing keys by id. The set a cache starts with is the one without a fetch time. -/
structure KeySet where
  keys : List SigningKey
  fetchedAt : Option SystemTime
  generation : Nat
  distinct : (keys.map SigningKey.kid).Nodup := by decide
  deriving DecidableEq, Repr

namespace KeySet

/-- The set before any fetch. -/
def uninitialized : KeySet := ⟨[], none, 0, by decide⟩

/-- A set without keys, fetched at a time. -/
def empty (time : SystemTime := 0) : KeySet := ⟨[], some time, 0, by decide⟩

def fetched (s : KeySet) : Bool := s.fetchedAt.isSome

def size (s : KeySet) : Nat := s.keys.length

def isEmpty (s : KeySet) : Bool := s.keys.isEmpty

def get? (s : KeySet) (kid : String) : Option SigningKey :=
  s.keys.find? fun k => k.kid == kid

/-- Ids are distinct, so an id leads to every key that has it. -/
theorem get?_eq_some_iff (s : KeySet) (kid : String) (key : SigningKey) :
    s.get? kid = some key ↔ key ∈ s.keys ∧ key.kid = kid := by
  constructor
  · intro found
    exact ⟨List.mem_of_find?_eq_some found, by simpa using List.find?_some found⟩
  · rintro ⟨member, rfl⟩
    suffices ∀ keys : List SigningKey, (keys.map SigningKey.kid).Nodup → key ∈ keys →
        keys.find? (fun k => k.kid == key.kid) = some key from this s.keys s.distinct member
    intro keys distinct member
    induction keys with
    | nil => cases member
    | cons k rest ih =>
      rw [List.map_cons, List.nodup_cons] at distinct
      rcases List.mem_cons.1 member with rfl | later
      · simp
      · have other : k.kid ≠ key.kid := fun same =>
          distinct.1 (same ▸ List.mem_map_of_mem later)
        rw [List.find?_cons_of_neg (by simpa using other)]
        exact ih distinct.2 later

theorem get?_eq_none_iff (s : KeySet) (kid : String) :
    s.get? kid = none ↔ ∀ key ∈ s.keys, key.kid ≠ kid := by
  simp [get?]

def sorted (s : KeySet) : List SigningKey :=
  s.keys.mergeSort fun a b => decide (a.kid ≤ b.kid)

/-- A key is behind one with the same id. -/
def duplicateRecord (k : SigningKey) : LogRecord :=
  ⟨.warn, "Duplicate kid in JWKS document, keeping the first entry", [("kid", k.kid)]⟩

/-- The first key of every id, behind keys already kept; the others are reported. -/
def firstKeys : (kept : List SigningKey) → List SigningKey → List SigningKey × Log
  | kept, [] => (kept, [])
  | kept, k :: rest =>
    if kept.any fun other => other.kid == k.kid then
      let (keys, log) := firstKeys kept rest
      (keys, duplicateRecord k :: log)
    else firstKeys (kept ++ [k]) rest

/-- Only the first key of an id is kept. -/
theorem distinct_firstKeys (kept keys : List SigningKey)
    (distinct : (kept.map SigningKey.kid).Nodup) :
    ((firstKeys kept keys).1.map SigningKey.kid).Nodup := by
  induction keys generalizing kept with
  | nil => exact distinct
  | cons k rest ih =>
    unfold firstKeys
    split
    · exact ih kept distinct
    · next absent =>
      apply ih
      rw [List.map_append, List.nodup_append]
      refine ⟨distinct, by simp, ?_⟩
      rintro kid member _ last rfl
      obtain ⟨other, present, rfl⟩ := List.mem_map.1 member
      have same : other.kid = k.kid := by simpa using last
      exact absent (List.any_eq_true.2 ⟨other, present, beq_iff_eq.2 same⟩)

/-- The set of some keys, made at a time. -/
def ofKeys (keys : List SigningKey) (time : SystemTime := 0) : KeySet × Log :=
  let first := firstKeys [] keys
  (⟨first.1, some time, 0, distinct_firstKeys [] keys List.nodup_nil⟩, first.2)

/-- An entry of a document: its key, or the record of why it has none. -/
def entryKey (entry : Json) : Except LogRecord SigningKey :=
  match Jwk.ofJson? entry with
  | none => .error ⟨.debug, "Skipping unparseable JWK entry", []⟩
  | some jwk =>
    match jwk.signingKey with
    | .ok key => .ok key
    | .error reason =>
      .error ⟨.debug, "Skipping JWK entry",
        [("kid", Text.quotedOption jwk.kid), ("kty", jwk.kty), ("reason", reason.message)]⟩

/-- The keys of the entries that have one, in order. -/
def usableKeys (entries : List Json) : List SigningKey :=
  entries.filterMap fun entry => (entryKey entry).toOption

/-- The records of the entries that have none, in order. -/
def skipRecords (entries : List Json) : Log :=
  entries.filterMap fun entry =>
    match entryKey entry with
    | .ok _ => none
    | .error record => some record

/-- The set of a document's entries, which must have a usable key among them. -/
def ofEntries (entries : List Json) (time : SystemTime := 0) : Except FetchError KeySet × Log :=
  let usable := usableKeys entries
  let skipped := skipRecords entries
  if usable.isEmpty then (.error (.noUsableKeys entries.length.toUInt64), skipped)
  else
    let (set, duplicates) := ofKeys usable time
    (.ok set, skipped ++ duplicates)

/-- The entries of a key document: a record with the member `keys`, or a list of that one field.
Every entry must be readable as a value, other members need only be well-formed. -/
def documentEntries? (body : List UInt8) : Option (List Json) := do
  let raw ← Json.raw? (Text.symbols body)
  let fields ← raw.fields? ["keys"]
  match ← fields.get? ["keys"] "keys" with
  | .list entries => entries.mapM (Json.Raw.value? (Json.depthLimit - 2))
  | _ => none

/-- The set of a key document that is read at a time. -/
def ofDocument (body : List UInt8) (time : SystemTime := 0) : Except FetchError KeySet × Log :=
  match documentEntries? body with
  | none => (.error (.invalidDocument "not a list of keys"), [])
  | some entries => ofEntries entries time

end KeySet

end TokenGate
