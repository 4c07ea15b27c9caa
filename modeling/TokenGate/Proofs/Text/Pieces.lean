import Mathlib.Data.List.DropRight
import TokenGate.Text.Blank

/-! # Trimming and splitting by concatenation

What it means for one text to be another without the blanks at its ends, and for a text to be cut
at a separator, is said by concatenation alone. `trim` and `splitAt` compute exactly that, so a
statement about them need not mention how they work. -/

namespace TokenGate.Text

/-- A text is what remains of another one when the blanks at both ends go. -/
structure Trimmed (whole text : String) : Prop where
  around : ∃ before after : List Char, whole.toList = before ++ text.toList ++ after ∧
    (∀ c ∈ before, isBlank c = true) ∧ ∀ c ∈ after, isBlank c = true
  first : ∀ c ∈ text.toList.head?, isBlank c = false
  last : ∀ c ∈ text.toList.getLast?, isBlank c = false

theorem dropTrailing_eq_rdropWhile (p : α → Bool) (as : List α) :
    dropTrailing p as = as.rdropWhile p := by
  induction as with
  | nil => rfl
  | cons a rest ih =>
    have ends : (a :: rest).rdropWhile p =
        if rest.rdropWhile p = [] then (if p a then [] else [a]) else a :: rest.rdropWhile p := by
      simp only [List.rdropWhile, List.reverse_cons, List.dropWhile_append, List.isEmpty_iff,
        List.reverse_eq_nil_iff, List.dropWhile_cons, List.dropWhile_nil]
      split
      · cases p a <;> rfl
      · simp
    rw [ends, dropTrailing, ih]
    cases rest.rdropWhile p <;> rfl

/-- Blanks behind a list do not change what is kept of it. -/
theorem rdropWhile_append_of_pos {p : α → Bool} (kept : List α) {dropped : List α}
    (all : ∀ a ∈ dropped, p a = true) : (kept ++ dropped).rdropWhile p = kept.rdropWhile p := by
  have reversed : ∀ a ∈ dropped.reverse, p a = true := fun a member =>
    all a (List.mem_reverse.1 member)
  simp only [List.rdropWhile, List.reverse_append, List.dropWhile_append_of_pos reversed]

theorem rdropWhile_eq_self {p : α → Bool} {as : List α}
    (last : ∀ a ∈ as.getLast?, p a = false) : as.rdropWhile p = as := by
  rw [List.rdropWhile_eq_self_iff]
  intro nonempty
  simpa using last _ (List.getLast?_eq_some_getLast nonempty)

theorem dropWhile_eq_self {p : α → Bool} {as : List α} (first : ∀ a ∈ as.head?, p a = false) :
    as.dropWhile p = as := by
  cases as with
  | nil => rfl
  | cons a rest => exact List.dropWhile_cons_of_neg (by simp [first a rfl])

theorem takeWhile_append_of_head {p : α → Bool} {front rest : List α}
    (inside : ∀ a ∈ front, p a = true) (ended : ∀ a ∈ rest.head?, p a = false) :
    (front ++ rest).takeWhile p = front := by
  rw [List.takeWhile_append_of_pos inside]
  cases rest with
  | nil => simp
  | cons a rest => simp [ended a rfl]

theorem dropWhile_append_of_head {p : α → Bool} {front rest : List α}
    (inside : ∀ a ∈ front, p a = true) (ended : ∀ a ∈ rest.head?, p a = false) :
    (front ++ rest).dropWhile p = rest := by
  rw [List.dropWhile_append_of_pos inside, dropWhile_eq_self ended]

/-- The first member that trimming in front keeps is the first one left when the end goes too. -/
theorem head?_rdropWhile (p : α → Bool) (as : List α) (a : α)
    (first : (as.rdropWhile p).head? = some a) : as.head? = some a := by
  obtain ⟨dropped, joined⟩ := List.rdropWhile_prefix p as
  rw [← joined, List.head?_append, first, Option.some_or]

/-- Trimming takes off the blanks at both ends and nothing else. -/
theorem trimmed_trim (whole : String) : Trimmed whole (trim whole) := by
  have kept : (trim whole).toList = (whole.toList.dropWhile isBlank).rdropWhile isBlank := by
    simp only [trim, trimChars, String.toList_ofList, dropTrailing_eq_rdropWhile]
  refine ⟨⟨whole.toList.takeWhile isBlank, (whole.toList.dropWhile isBlank).rtakeWhile isBlank,
    ?_, ?_, ?_⟩, ?_, ?_⟩
  · rw [kept, List.append_assoc, List.rdropWhile_append_rtakeWhile,
      List.takeWhile_append_dropWhile]
  · intro c member
    exact List.all_eq_true.1 List.all_takeWhile c member
  · intro c member
    exact List.mem_rtakeWhile_imp member
  · intro c member
    rw [kept] at member
    have first := head?_rdropWhile isBlank _ c member
    simpa only [first] using List.head?_dropWhile_not isBlank whole.toList
  · intro c member
    rw [kept] at member
    obtain ⟨nonempty, rfl⟩ := List.mem_getLast?_eq_getLast member
    simpa using List.rdropWhile_last_not isBlank _ nonempty

/-- Only one text is left of another one: the one that `trim` gives. -/
theorem Trimmed.eq_trim {whole text : String} (trimmed : Trimmed whole text) :
    text = trim whole := by
  obtain ⟨⟨before, after, joined, front, back⟩, first, last⟩ := trimmed
  apply String.toList_injective
  have kept : (text.toList ++ after).dropWhile isBlank = text.toList ++ after ∨
      text.toList = [] := by
    cases chars : text.toList with
    | nil => exact Or.inr rfl
    | cons c rest =>
      refine Or.inl (dropWhile_eq_self ?_)
      simpa only [chars, List.cons_append, List.head?_cons] using first
  simp only [trim, trimChars, String.toList_ofList, dropTrailing_eq_rdropWhile, joined,
    List.append_assoc, List.dropWhile_append_of_pos front]
  rcases kept with kept | empty
  · rw [kept, rdropWhile_append_of_pos _ back, rdropWhile_eq_self last]
  · rw [empty, List.nil_append, List.dropWhile_eq_nil_iff.2 back]
    rfl

/-- Blanks around a text do not change what trimming leaves of it. -/
theorem trim_padded {before after : String} (front : blank before = true)
    (back : blank after = true) (text : String) : trim (before ++ text ++ after) = trim text := by
  obtain ⟨⟨before', after', joined, front', back'⟩, first, last⟩ := trimmed_trim text
  rw [blank, List.all_eq_true] at front back
  refine (Trimmed.eq_trim ⟨⟨before.toList ++ before', after' ++ after.toList, ?_, ?_, ?_⟩, first,
    last⟩).symm
  · simp [joined]
  · exact fun c member => (List.mem_append.1 member).elim (front c) (front' c)
  · exact fun c member => (List.mem_append.1 member).elim (back' c) (back c)

/-- Of a text without blanks trimming leaves everything. -/
theorem trim_eq_self {text : String} (solid : ∀ c ∈ text.toList, isBlank c = false) :
    trim text = text := by
  refine (Trimmed.eq_trim ⟨⟨[], [], by simp, by simp, by simp⟩, ?_, ?_⟩).symm
  · exact fun c first => solid c (List.mem_of_mem_head? first)
  · exact fun c last => solid c (List.mem_of_mem_getLast? last)

/-- The pieces between separators are those of the library. -/
theorem pieces_eq_splitOn (separator : Char) (as : List Char) :
    pieces (· == separator) as = as.splitOn separator := by
  induction as with
  | nil => rfl
  | cons a rest ih =>
    rw [List.splitOn_cons_eq_if_modifyHead, pieces, ih]
    cases split : rest.splitOn separator with
    | nil => exact absurd split (List.splitOn_ne_nil separator rest)
    | cons piece more => rfl

/-- The pieces together are all but the separators. -/
theorem flatten_pieces (p : α → Bool) (as : List α) :
    (pieces p as).flatten = as.filter fun a => !p a := by
  induction as with
  | nil => rfl
  | cons a rest ih =>
    cases split : pieces p rest with
    | nil => exact absurd split (pieces_ne_nil p rest)
    | cons piece more =>
      rw [split, List.flatten_cons] at ih
      cases cut : p a <;> simp [pieces, split, cut, ← ih]

theorem mem_of_mem_pieces {p : α → Bool} {as piece : List α} (present : piece ∈ pieces p as)
    {a : α} (inside : a ∈ piece) : a ∈ as ∧ p a = false := by
  have kept : a ∈ as.filter fun a => !p a := by
    rw [← flatten_pieces]
    exact List.mem_flatten_of_mem present inside
  simpa using kept

/-- Pieces on both sides of a separator are told apart. -/
theorem pieces_append_cons {p : α → Bool} {a : α} (cut : p a = true) (front back : List α) :
    pieces p (front ++ a :: back) = pieces p front ++ pieces p back := by
  induction front with
  | nil =>
    cases split : pieces p back with
    | nil => exact absurd split (pieces_ne_nil p back)
    | cons piece more => simp [pieces, split, cut]
  | cons b front ih =>
    cases split : pieces p front with
    | nil => exact absurd split (pieces_ne_nil p front)
    | cons piece more =>
      rw [List.cons_append, pieces, ih, pieces, split]
      cases p b <;> rfl

/-- The pieces of a text are the one way to write it with separators between texts without any. -/
theorem splitAt_eq_iff (separator : Char) (text : String) (parts : List String) :
    splitAt separator text = parts ↔
      parts ≠ [] ∧ text.toList = [separator].intercalate (parts.map String.toList) ∧
        ∀ part ∈ parts, separator ∉ part.toList := by
  have chars : (splitAt separator text).map String.toList = text.toList.splitOn separator := by
    simp [splitAt, pieces_eq_splitOn, Function.comp_def]
  constructor
  · rintro rfl
    refine ⟨?_, ?_, ?_⟩
    · intro empty
      exact List.splitOn_ne_nil separator text.toList (by rw [← chars, empty, List.map_nil])
    · rw [chars, List.intercalate_splitOn]
    · intro part member inside
      obtain ⟨piece, present, rfl⟩ := List.mem_map.1 member
      have absent := (mem_of_mem_pieces present (a := separator) (by simpa using inside)).2
      simp at absent
  · rintro ⟨nonempty, joined, absent⟩
    have same : (splitAt separator text).map String.toList = parts.map String.toList := by
      rw [chars, joined]
      apply List.splitOn_intercalate
      · intro piece member
        obtain ⟨part, present, rfl⟩ := List.mem_map.1 member
        exact absent part present
      · simpa using nonempty
    exact (List.map_injective_iff.2 fun _ _ => String.toList_injective) same

end TokenGate.Text
