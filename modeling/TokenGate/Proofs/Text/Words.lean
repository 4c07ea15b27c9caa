import TokenGate.Text.Blank

/-! # Words by concatenation

A text is a gap, or a gap with a word behind it and more text behind the word. `words` finds the one
way to take a text apart like that. -/

namespace TokenGate.Text

/-- A run of blanks, which may be empty. -/
def Gap (cs : List Char) : Prop := ∀ c ∈ cs, isBlank c = true

/-- A run of characters that is a word: it is not empty and has no blank. -/
structure Word (cs : List Char) : Prop where
  nonempty : cs ≠ []
  solid : ∀ c ∈ cs, isBlank c = false

/-- Characters that consist of words in order, with gaps around them. A word goes on until a blank
or the end. -/
inductive Worded : List Char → List (List Char) → Prop
  | gap {cs : List Char} (blank : Gap cs) : Worded cs []
  | word {gap w rest : List Char} {ws : List (List Char)} (blank : Gap gap) (word : Word w)
      (ended : ∀ c ∈ rest.head?, isBlank c = true) (more : Worded rest ws) :
      Worded (gap ++ w ++ rest) (w :: ws)

theorem Gap.cons {c : Char} {cs : List Char} (first : isBlank c = true) (blank : Gap cs) :
    Gap (c :: cs) := by
  intro d member
  rcases List.mem_cons.1 member with rfl | member
  · exact first
  · exact blank d member

theorem Word.cons {c : Char} {cs : List Char} (first : isBlank c = false)
    (solid : ∀ d ∈ cs, isBlank d = false) : Word (c :: cs) := by
  refine ⟨List.cons_ne_nil c cs, fun d member => ?_⟩
  rcases List.mem_cons.1 member with rfl | member
  · exact first
  · exact solid d member

/-- A gap in front of a word is empty if the characters begin with none. -/
theorem Gap.eq_nil {gap cs : List Char} {c : Char} {rest : List Char} (blank : Gap gap)
    (joined : gap ++ cs = c :: rest) (solid : isBlank c = false) : gap = [] := by
  cases gap with
  | nil => rfl
  | cons g more =>
    obtain rfl : g = c := (List.cons.inj joined).1
    have first := blank g (List.mem_cons_self ..)
    rw [solid] at first
    cases first

theorem pieces_cons_of_pos {p : α → Bool} {a : α} (cut : p a = true) (rest : List α) :
    pieces p (a :: rest) = [] :: pieces p rest := by
  cases split : pieces p rest with
  | nil => exact absurd split (pieces_ne_nil p rest)
  | cons piece more => simp [pieces, split, cut]

theorem pieces_append_of_neg {p : α → Bool} {as : List α} (kept : ∀ a ∈ as, p a = false)
    {rest piece : List α} {more : List (List α)} (split : pieces p rest = piece :: more) :
    pieces p (as ++ rest) = (as ++ piece) :: more := by
  induction as with
  | nil => exact split
  | cons a as ih =>
    have tail := ih fun b member => kept b (List.mem_cons_of_mem _ member)
    have first := kept a (List.mem_cons_self ..)
    simp [pieces, tail, first]

private theorem wordChars_gap {gap : List Char} (blank : Gap gap) (rest : List Char) :
    wordChars (gap ++ rest) = wordChars rest := by
  induction gap with
  | nil => rfl
  | cons c gap ih =>
    have tail := ih fun d member => blank d (List.mem_cons_of_mem _ member)
    have first := blank c (List.mem_cons_self ..)
    rw [← tail]
    simp [wordChars, pieces_cons_of_pos first]

private theorem wordChars_word {w rest : List Char} (word : Word w)
    (ended : ∀ c ∈ rest.head?, isBlank c = true) :
    wordChars (w ++ rest) = w :: wordChars rest := by
  obtain ⟨more, split⟩ : ∃ more, pieces isBlank rest = [] :: more := by
    cases rest with
    | nil => exact ⟨[], rfl⟩
    | cons c rest => exact ⟨pieces isBlank rest, pieces_cons_of_pos (ended c rfl) rest⟩
  simp [wordChars, pieces_append_of_neg word.solid split, split, word.nonempty]

private theorem Worded.wordChars_eq {cs : List Char} {ws : List (List Char)}
    (worded : Worded cs ws) : wordChars cs = ws := by
  induction worded with
  | gap blank =>
    have skipped := wordChars_gap blank []
    rw [List.append_nil] at skipped
    exact skipped
  | word blank word ended more ih =>
    rw [List.append_assoc, wordChars_gap blank, wordChars_word word ended, ih]

/-- All characters can be taken apart, from the last one on. -/
theorem exists_worded (cs : List Char) : ∃ ws, Worded cs ws := by
  induction cs with
  | nil => exact ⟨[], .gap fun c member => by simp at member⟩
  | cons c rest ih =>
    obtain ⟨ws, worded⟩ := ih
    cases first : isBlank c with
    | true =>
      cases worded with
      | gap blank => exact ⟨[], .gap (blank.cons first)⟩
      | word blank word ended more => exact ⟨_, .word (blank.cons first) word ended more⟩
    | false =>
      by_cases ended : ∀ d ∈ rest.head?, isBlank d = true
      · have alone : Word [c] := .cons first fun d member => by simp at member
        have nothing : Gap [] := fun d member => by simp at member
        exact ⟨[c] :: ws, .word nothing alone ended worded⟩
      · obtain ⟨d, tail, rfl, solid⟩ : ∃ d tail, rest = d :: tail ∧ isBlank d = false := by
          cases rest with
          | nil => simp at ended
          | cons d tail => exact ⟨d, tail, rfl, by simpa using ended⟩
        generalize joined : d :: tail = cs at worded
        cases worded with
        | gap blank =>
          have inside := blank d (by simp [← joined])
          rw [solid] at inside
          cases inside
        | @word gap w rest ws blank word ended more =>
          rw [List.append_assoc] at joined
          obtain rfl := blank.eq_nil joined.symm solid
          exact ⟨(c :: w) :: ws, .word blank (.cons first word.solid) ended more⟩

/-- The words are the one way to take characters apart into words and gaps. -/
theorem wordChars_eq_iff (cs : List Char) (ws : List (List Char)) :
    wordChars cs = ws ↔ Worded cs ws := by
  refine ⟨?_, Worded.wordChars_eq⟩
  rintro rfl
  obtain ⟨ws, worded⟩ := exists_worded cs
  rw [worded.wordChars_eq]
  exact worded

/-- There is no word just in blanks. -/
theorem wordChars_eq_nil_iff (cs : List Char) : wordChars cs = [] ↔ Gap cs := by
  rw [wordChars_eq_iff]
  constructor
  · intro worded
    cases worded with
    | gap blank => exact blank
  · exact .gap

/-- Two words, the gap between them not empty. -/
theorem wordChars_eq_pair_iff (cs first second : List Char) :
    wordChars cs = [first, second] ↔ Word first ∧ Word second ∧
      ∃ before between after, Gap before ∧ Gap between ∧ between ≠ [] ∧ Gap after ∧
        cs = before ++ first ++ between ++ second ++ after := by
  rw [wordChars_eq_iff]
  constructor
  · intro worded
    cases worded with
    | @word before _ rest _ blank word ended more =>
      cases more with
      | @word between _ after _ blank' word' ended' last =>
        cases last with
        | gap blank'' =>
          refine ⟨word, word', before, between, after, blank, blank', ?_, blank'', by simp⟩
          rintro rfl
          obtain ⟨c, tail, rfl⟩ := List.exists_cons_of_ne_nil word'.nonempty
          have begins := ended c rfl
          rw [word'.solid c (List.mem_cons_self ..)] at begins
          cases begins
  · rintro ⟨word, word', before, between, after, blank, blank', nonempty, blank'', rfl⟩
    have last : Worded after [] := .gap blank''
    have ends : ∀ c ∈ after.head?, isBlank c = true := fun c head =>
      blank'' c (List.mem_of_mem_head? head)
    have more : Worded (between ++ second ++ after) [second] := .word blank' word' ends last
    have follows : ∀ c ∈ (between ++ second ++ after).head?, isBlank c = true := by
      intro c head
      obtain ⟨b, tail, rfl⟩ := List.exists_cons_of_ne_nil nonempty
      obtain rfl : b = c := by simpa using head
      exact blank' b (List.mem_cons_self ..)
    have whole := Worded.word blank word follows more
    simpa only [List.append_assoc] using whole

end TokenGate.Text
