import Mathlib
import TokenGate.Proofs.Text.Ascii
import TokenGate.Proofs.Text.Pieces
import TokenGate.Proofs.Text.Words
import TokenGate.Url.Host

/-! # Hosts with ASCII names

A name of ASCII letters, digits, hyphens and points is a host in one way only: in lower case. It is
none if a label of it is in punycode and stands for nothing, or if its last label is a number. -/

namespace TokenGate

namespace Percent

/-- ASCII characters other than the percent sign stand for themselves. -/
theorem decode_eq_map {cs : List Char} (plain : ∀ c ∈ cs, c.toNat < 128 ∧ c ≠ '%') :
    decode cs = cs.map fun c => c.toNat.toUInt8 := by
  induction cs with
  | nil => rfl
  | cons c rest ih =>
    obtain ⟨ascii, other⟩ := plain c (List.mem_cons_self ..)
    have tail := ih fun d member => plain d (List.mem_cons_of_mem _ member)
    simp [decode, other, Text.encodeUtf8_singleton ascii, tail]

end Percent

namespace Domain

def isNameChar (c : Char) : Bool := c.isAlphanum || c == '-' || c == '.'

theorem toNat_lt_of_isNameChar {c : Char} (named : isNameChar c = true) : c.toNat < 128 := by
  simp only [isNameChar, Char.isAlphanum, Char.isAlpha, Char.isUpper, Char.isLower, Char.isDigit,
    Bool.or_eq_true, decide_eq_true_eq, Bool.and_eq_true, beq_iff_eq, UInt32.le_iff_toNat_le,
    ge_iff_le] at named
  change ((((65 ≤ c.toNat ∧ c.toNat ≤ 90) ∨ 97 ≤ c.toNat ∧ c.toNat ≤ 122) ∨
    48 ≤ c.toNat ∧ c.toNat ≤ 57) ∨ c = '-') ∨ c = '.' at named
  rcases named with (range | rfl) | rfl
  · omega
  · decide
  · decide

/-- What holds of the characters of names one by one. -/
theorem forall_nameChar {p : Char → Prop}
    (all : ∀ n < 128, isNameChar (Char.ofNat n) = true → p (Char.ofNat n)) {c : Char}
    (named : isNameChar c = true) : p c :=
  Text.forall_ascii (p := fun c => isNameChar c = true → p c) all (toNat_lt_of_isNameChar named)
    named

private theorem asciiLabel?_of_ascii {label : List Char} (ascii : ∀ c ∈ label, isAscii c = true) :
    asciiLabel? label = if isAsciiLabel label then some label else none := by
  rw [asciiLabel?, if_pos (List.all_eq_true.2 ascii)]

private theorem mapM_asciiLabel? {labels : List (List Char)}
    (ascii : ∀ label ∈ labels, ∀ c ∈ label, isAscii c = true) :
    labels.mapM asciiLabel? = if labels.all isAsciiLabel then some labels else none := by
  induction labels with
  | nil => rfl
  | cons label rest ih =>
    have first := asciiLabel?_of_ascii (ascii label (List.mem_cons_self ..))
    have tail := ih fun l member => ascii l (List.mem_cons_of_mem _ member)
    rw [List.mapM_cons, first, tail]
    cases fits : isAsciiLabel label <;> cases others : rest.all isAsciiLabel <;> simp [fits, others]

/-- The labels of a name, with points between them, make up the name. -/
theorem intercalate_labels (name : List Char) : ['.'].intercalate (labels name) = name := by
  rw [labels, Text.pieces_eq_splitOn, List.intercalate_splitOn]

/-- A text in lower case is a name: its labels are labels, and they may stand together. -/
def IsName (name : List Char) : Prop :=
  Text.Direction.allOrdered ((labels name).map shown) = true ∧
    ∀ label ∈ labels name, isAsciiLabel label = true

private theorem ascii?_of_ascii {name : List Char} (ascii : ∀ c ∈ name, isAscii c = true)
    (r : List Char) :
    ascii? name = some r ↔ IsName (name.map Char.toLower) ∧ r = name.map Char.toLower := by
  have lower : ∀ c, isAscii c = true → isAscii c.toLower = true := fun c small =>
    Text.forall_ascii (p := fun c => isAscii c.toLower = true) (by decide) (of_decide_eq_true small)
  have inside : ∀ label ∈ labels (name.map Char.toLower), ∀ c ∈ label, isAscii c = true := by
    intro label member c within
    obtain ⟨d, present, rfl⟩ := List.mem_map.1 (Text.mem_of_mem_pieces member within).1
    exact lower d (ascii d present)
  have canonical : canonicalLabels name = labels (name.map Char.toLower) := by
    rw [canonicalLabels, if_pos (List.all_eq_true.2 ascii)]
  simp only [ascii?, canonical, mapM_asciiLabel? inside, IsName, ← List.all_eq_true]
  split_ifs with ordered fits
  · simp [intercalate_labels, ordered, fits, eq_comm]
  · simp [fits]
  · simp [ordered]

/-- Names are no different when their characters come as octets. -/
theorem ofOctets?_decode {name : List Char} (named : ∀ c ∈ name, isNameChar c = true)
    (host : String) :
    ofOctets? (Percent.decode name) = some host ↔
      IsName (name.map Char.toLower) ∧ host = String.ofList (name.map Char.toLower) := by
  have plain (c) (member : c ∈ name) : c.toNat < 128 ∧ c ≠ '%' := by
    refine ⟨toNat_lt_of_isNameChar (named c member), ?_⟩
    rintro rfl
    exact absurd (named _ member) (by decide)
  have ascii (c) (member : c ∈ name) : isAscii c = true := decide_eq_true (plain c member).1
  rw [ofOctets?, Percent.decode_eq_map plain,
    Text.decodeUtf8?_ascii fun c member => (plain c member).1, Option.bind_some,
    String.toList_ofList, Option.map_eq_some_iff]
  simp only [ascii?_of_ascii ascii]
  constructor
  · rintro ⟨r, ⟨isName, rfl⟩, rfl⟩
    exact ⟨isName, rfl⟩
  · rintro ⟨isName, rfl⟩
    exact ⟨_, ⟨isName, rfl⟩, rfl⟩

/-- Without punycode every text is a name: its labels are shown as they are, and ASCII runs from
left to right. -/
theorem isName_of_unmarked {name : List Char} (named : ∀ c ∈ name, isNameChar c = true)
    (unmarked : ∀ label ∈ labels (name.map Char.toLower), ¬ punycodeMark <+: label) :
    IsName (name.map Char.toLower) := by
  have inside (label) (member : label ∈ labels (name.map Char.toLower)) (c) (within : c ∈ label) :
      isForbidden c = false ∧ Text.Direction.turnsName (Text.Direction.ofChar c) = false := by
    obtain ⟨d, present, rfl⟩ := List.mem_map.1 (Text.mem_of_mem_pieces member within).1
    exact forall_nameChar (p := fun c => isForbidden c.toLower = false ∧
      Text.Direction.turnsName (Text.Direction.ofChar c.toLower) = false) (by decide)
      (named d present)
  have unmarked (label) (member : label ∈ labels (name.map Char.toLower)) :
      punycodeMark.isPrefixOf label = false := by
    rw [← Bool.not_eq_true, List.isPrefixOf_iff_prefix]
    exact unmarked label member
  refine ⟨?_, fun label member => ?_⟩
  · have forwards : ∀ label ∈ (labels (name.map Char.toLower)).map shown,
        ∀ c ∈ label, Text.Direction.turnsName (Text.Direction.ofChar c) = false := by
      intro label member c within
      obtain ⟨label', member', rfl⟩ := List.mem_map.1 member
      rw [shown, unmarked label' member'] at within
      exact (inside label' member' c within).2
    have none : ((labels (name.map Char.toLower)).map shown).any (fun label =>
        label.any fun c => Text.Direction.turnsName (Text.Direction.ofChar c)) = false := by
      simpa only [List.any_eq_false, Bool.not_eq_true] using forwards
    rw [Text.Direction.allOrdered, none]
    rfl
  · have allowed : label.all (fun c => !isForbidden c) = true :=
      List.all_eq_true.2 fun c within => by rw [(inside label member c within).1]; rfl
    rw [isAsciiLabel, allowed, unmarked label member]
    rfl

end Domain

/-- A host whose last label is no number is not meant as an address. -/
theorem Ipv4.endsInNumber_append {front last : List Char} (something : last ≠ [])
    (whole : '.' ∉ last) (letters : last.all Char.isDigit = false)
    (wordy : hostNumber? (String.ofList last) = none) :
    endsInNumber (String.ofList (front ++ '.' :: last)) = false := by
  have single : Text.pieces (· == '.') last = [last] := by
    have kept : ∀ c ∈ last, (c == '.') = false := fun c member => by
      rw [beq_eq_false_iff_ne]
      rintro rfl
      exact whole member
    have ended : Text.pieces (· == '.') [] = [[]] := rfl
    simpa using Text.pieces_append_of_neg kept ended
  have parts : (Text.splitAt '.' (String.ofList (front ++ '.' :: last))).getLast? =
      some (String.ofList last) := by
    have cut := Text.pieces_append_cons (p := (· == '.')) (beq_self_eq_true '.') front last
    rw [Text.splitAt, String.toList_ofList, cut, single, List.map_append, List.map_singleton,
      List.getLast?_concat]
  have present : String.ofList last ≠ "" := by simpa using something
  have unchanged : hostParts (String.ofList (front ++ '.' :: last)) =
      Text.splitAt '.' (String.ofList (front ++ '.' :: last)) := by
    have unended : (some (String.ofList last) == some "") = false :=
      beq_eq_false_iff_ne.2 (mt Option.some.inj present)
    simp only [hostParts, parts, unended, Bool.and_false, Bool.false_eq_true, if_false]
  simp only [endsInNumber, unchanged, parts, String.toList_ofList, letters, wordy]
  simp

/-- A text that is not meant as an address is a host if it is a name in lower case, and then the
host is that name. -/
theorem Host.ofText_eq_ok_iff {name : List Char} (something : name ≠ [])
    (named : ∀ c ∈ name, Domain.isNameChar c = true)
    (wordy : Ipv4.endsInNumber (String.ofList (name.map Char.toLower)) = false) (host : Host) :
    ofText name = .ok host ↔ Domain.IsName (name.map Char.toLower) ∧
      host = .domain (String.ofList (name.map Char.toLower)) := by
  have bare : ∀ rest, name ≠ '[' :: rest := by
    rintro rest rfl
    exact absurd (named '[' (List.mem_cons_self ..)) (by decide)
  have shown : String.ofList (name.map Char.toLower) ≠ "" := by simpa using something
  have found := Domain.ofOctets?_decode named
  unfold ofText
  split
  · next rest => exact absurd rfl (bare rest)
  · cases read : Domain.ofOctets? (Percent.decode name) with
    | none =>
      have refused : ¬ Domain.IsName (name.map Char.toLower) := fun isName => by
        have given := (found _).2 ⟨isName, rfl⟩
        rw [read] at given
        cases given
      simp [refused]
    | some r =>
      obtain ⟨isName, rfl⟩ := (found r).1 read
      simp only [beq_iff_eq, shown, wordy, Bool.false_eq_true, if_false, isName, true_and,
        Except.ok.injEq]
      exact eq_comm

end TokenGate
