import TokenGate.Proofs.Text.Pieces
import TokenGate.Proofs.Token.Bearer
import TokenGate.Token.Validation

/-! # From a header value to a verdict

Every header value is blank, presents one token, or is in a wrong format. A token that a value
presents has no blanks, so trimming it again leaves it as it is; and blanks around any text make no
difference to the verdict on it. -/

namespace TokenGate

private theorem Validator.validate_padded (check : SignatureCheck) (v : Validator) (set : KeySet)
    (now : UInt64) {before after : String} (front : Text.blank before = true)
    (back : Text.blank after = true) (text : String) :
    v.validate check set now (before ++ text ++ after) = v.validate check set now text := by
  rw [validate, validate, Text.trim_padded front back]

namespace Bearer

/-- A value presents one token at most. -/
theorem Presents.unique {value token token' : String} (left : Presents value token)
    (right : Presents value token') : token = token' := by
  have found := (token?_eq_some_iff_presents value token).2 left
  rw [(token?_eq_some_iff_presents value token').2 right] at found
  cases found
  rfl

private theorem Presents.trim_eq {value token : String} (presents : Presents value token) :
    Text.trim token = token := by
  obtain ⟨_, _, _, _, _, _, _, _, _, _, solid, _⟩ := presents
  exact Text.trim_eq_self solid

/-- A header says that there is no token just if it is absent or blank, it gives a token just if it
presents it, and all else is in a wrong format. The verdict is the same on the token given and on
any text that is this token with blanks around it. -/
theorem token?_grammar :
    (∀ header, token? header = .ok none ↔
      ∀ value, header = some value → Text.blank value = true) ∧
    (∀ header token, token? header = .ok (some token) ↔
      ∃ value, header = some value ∧ Presents value token) ∧
    (∀ header, token? header = .error .invalidFormat ↔
      ∃ value, header = some value ∧ Text.blank value = false ∧ ∀ token, ¬ Presents value token) ∧
    (∀ value token token', Presents value token → Presents value token' → token = token') ∧
    (∀ (check : SignatureCheck) (v : Validator) (set : KeySet) (now : UInt64)
      (before text after : String), Text.blank before = true → Text.blank after = true →
        v.validate check set now (before ++ text ++ after) = v.validate check set now text) ∧
    ∀ header token, token? header = .ok (some token) → Text.trim token = token := by
  refine ⟨?_, ?_, ?_, fun value token token' => Presents.unique, ?_, ?_⟩
  · rintro (_ | value)
    · simp [token?]
    · simp [token?_eq_none_iff]
  · rintro (_ | value) token
    · simp [token?]
    · simp [token?_eq_some_iff_presents]
  · rintro (_ | value)
    · simp [token?]
    · simp [token?_eq_error_iff]
  · intro check v set now before text after front back
    exact v.validate_padded check set now front back text
  · rintro (_ | value) token given
    · cases given
    · exact ((token?_eq_some_iff_presents value token).1 given).trim_eq

end Bearer

end TokenGate
