import Mathlib
import TokenGate.Proofs.Text.Words
import TokenGate.Token.Bearer

/-! # The grammar of bearer credentials

The value of an `Authorization` header presents a token when it is the scheme, a gap and the token,
perhaps with blanks around them. A blank value presents nothing, and any other value is in a wrong
format. -/

namespace TokenGate

namespace Text

theorem blank_iff (s : String) : blank s = true ↔ Gap s.toList := by
  simp [blank, Gap]

/-- No blank is a capital letter. -/
theorem toLower_of_isBlank {c : Char} (blank : isBlank c = true) : c.toLower = c := by
  apply Char.toLower_eq_of_not_isUpper
  intro upper
  simp only [Char.isUpper, decide_eq_true_eq] at upper
  obtain ⟨lower, upper⟩ := upper
  have lower : 65 ≤ c.toNat := lower
  have upper : c.toNat ≤ 90 := upper
  simp only [isBlank, Bool.or_eq_true, Bool.and_eq_true, decide_eq_true_eq, beq_iff_eq] at blank
  omega

end Text

namespace Bearer

/-- A header value presents a token: the scheme, a gap and the token, with blanks around them. -/
def Presents (value token : String) : Prop :=
  ∃ before scheme between after : String,
    value = before ++ scheme ++ between ++ token ++ after ∧
      Text.blank before = true ∧ Text.equalsIgnoringAsciiCase scheme "bearer" = true ∧
      Text.blank between = true ∧ between ≠ "" ∧
      token ≠ "" ∧ (∀ c ∈ token.toList, Text.isBlank c = false) ∧ Text.blank after = true

private theorem isScheme_iff (scheme : String) :
    Text.equalsIgnoringAsciiCase scheme "bearer" = true ↔
      scheme.toList.map Char.toLower = ['b', 'e', 'a', 'r', 'e', 'r'] := by
  rw [Text.equalsIgnoringAsciiCase, beq_iff_eq, ← String.toList_inj, Text.lowerAscii,
    Text.lowerAscii, String.toList_map, String.toList_map]
  rfl

private theorem word_of_isScheme {scheme : String}
    (named : Text.equalsIgnoringAsciiCase scheme "bearer" = true) : Text.Word scheme.toList := by
  have letters := (isScheme_iff scheme).1 named
  refine ⟨?_, ?_⟩
  · intro empty
    rw [empty] at letters
    cases letters
  · intro c member
    by_contra blank
    rw [Bool.not_eq_false] at blank
    have lower : c.toLower ∈ scheme.toList.map Char.toLower := List.mem_map_of_mem member
    rw [Text.toLower_of_isBlank blank, letters] at lower
    have solid : ['b', 'e', 'a', 'r', 'e', 'r'].all (fun d => !Text.isBlank d) = true := rfl
    have visible := List.all_eq_true.1 solid c lower
    rw [blank] at visible
    cases visible

/-- A value without a visible character presents nothing. -/
theorem token?_eq_none_iff (value : String) :
    token? (some value) = .ok none ↔ Text.blank value = true := by
  rw [Text.blank_iff, ← Text.wordChars_eq_nil_iff]
  simp only [token?, Option.map_some, Text.words]
  rcases Text.wordChars value.toList with _ | ⟨first, _ | ⟨second, _ | ⟨third, more⟩⟩⟩
  · simp
  · simp
  · simp only [List.map_cons, List.map_nil]
    split <;> simp
  · simp

private theorem token?_eq_some_iff (value token : String) :
    token? (some value) = .ok (some token) ↔
      ∃ scheme, Text.wordChars value.toList = [scheme, token.toList] ∧
        Text.equalsIgnoringAsciiCase (String.ofList scheme) "bearer" = true := by
  simp only [token?, Option.map_some, Text.words]
  rcases Text.wordChars value.toList with _ | ⟨first, _ | ⟨second, _ | ⟨third, more⟩⟩⟩
  · simp
  · simp
  · simp only [List.map_cons, List.map_nil]
    constructor
    · intro given
      split at given
      · next named =>
        obtain rfl : String.ofList second = token := by simpa using given
        exact ⟨first, by simp, named⟩
      · cases given
    · rintro ⟨scheme, words, named⟩
      obtain ⟨rfl, rfl⟩ : first = scheme ∧ second = token.toList := by simpa using words
      rw [if_pos named, String.ofList_toList]
  · simp

/-- The token of a value is the one that the value presents. -/
theorem token?_eq_some_iff_presents (value token : String) :
    token? (some value) = .ok (some token) ↔ Presents value token := by
  rw [token?_eq_some_iff]
  constructor
  · rintro ⟨scheme, words, named⟩
    obtain ⟨_, word, before, between, after, front, gap, nonempty, back, joined⟩ :=
      (Text.wordChars_eq_pair_iff _ _ _).1 words
    refine ⟨String.ofList before, String.ofList scheme, String.ofList between, String.ofList after,
      ?_, ?_, named, ?_, ?_, ?_, word.solid, ?_⟩
    · apply String.toList_injective
      simp [joined]
    · rw [Text.blank_iff, String.toList_ofList]
      exact front
    · rw [Text.blank_iff, String.toList_ofList]
      exact gap
    · simpa using nonempty
    · rintro rfl
      exact word.nonempty rfl
    · rw [Text.blank_iff, String.toList_ofList]
      exact back
  · rintro ⟨before, scheme, between, after, rfl, front, named, gap, nonempty, present, solid, back⟩
    rw [Text.blank_iff] at front gap back
    have word : Text.Word token.toList := ⟨by simpa using present, solid⟩
    have separate : between.toList ≠ [] := by simpa using nonempty
    refine ⟨scheme.toList, (Text.wordChars_eq_pair_iff _ _ _).2 ⟨word_of_isScheme named, word,
      before.toList, between.toList, after.toList, front, gap, separate, back, ?_⟩, ?_⟩
    · simp only [String.toList_append]
    · rw [String.ofList_toList]
      exact named

/-- Whatever neither is blank nor presents a token is in a wrong format. -/
theorem token?_eq_error_iff (value : String) :
    token? (some value) = .error .invalidFormat ↔
      Text.blank value = false ∧ ∀ token, ¬ Presents value token := by
  rw [← Bool.not_eq_true, ← token?_eq_none_iff]
  simp only [← token?_eq_some_iff_presents]
  rcases token? (some value) with ⟨⟨⟩⟩ | _ | token
  · simp
  · simp
  · simp

end Bearer

end TokenGate
