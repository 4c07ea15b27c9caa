import Mathlib.Data.List.Induction

/-! # The latest member of a kind

A history is a list of events. The latest of a kind is the one that no other of the kind follows;
a history grows at its end, and its latest event is there or is the one it was before. -/

namespace TokenGate

/-- The last member of a list that is related to anything is related to this. -/
def Latest {α β : Type} (related : α → β → Prop) (members : List α) (value : β) : Prop :=
  ∃ before member after, members = before ++ member :: after ∧ related member value ∧
    ∀ later ∈ after, ∀ other, ¬ related later other

/-- No member of a list is related to anything. -/
def Never {α β : Type} (related : α → β → Prop) (members : List α) : Prop :=
  ∀ member ∈ members, ∀ value, ¬ related member value

section

variable {α β : Type} {related : α → β → Prop} {members : List α} {member : α} {value : β}

theorem Latest.of_last (here : related member value) : Latest related (members ++ [member]) value :=
  ⟨members, member, [], rfl, here, by simp⟩

theorem Latest.concat (latest : Latest related members value)
    (unrelated : ∀ other, ¬ related member other) : Latest related (members ++ [member]) value := by
  obtain ⟨before, last, after, rfl, here, later⟩ := latest
  refine ⟨before, last, after ++ [member], by simp, here, ?_⟩
  intro next present
  rcases List.mem_append.1 present with old | new
  · exact later next old
  · exact List.mem_singleton.1 new ▸ unrelated

theorem Never.nil : Never related [] := by
  rintro member ⟨⟩

theorem never_concat_iff :
    Never related (members ++ [member]) ↔
      Never related members ∧ ∀ other, ¬ related member other := by
  simp [Never, or_imp, forall_and]

theorem Latest.not_never (latest : Latest related members value) : ¬ Never related members := by
  obtain ⟨before, last, after, rfl, here, _⟩ := latest
  exact fun never => never last (by simp) value here

/-- The latest one is the last member, or the latest before it if the last is related to nothing. -/
theorem latest_concat_iff :
    Latest related (members ++ [member]) value ↔
      related member value ∨ (∀ other, ¬ related member other) ∧ Latest related members value := by
  constructor
  · rintro ⟨before, last, after, same, here, later⟩
    rcases List.eq_nil_or_concat after with rfl | ⟨between, newest, rfl⟩
    · obtain ⟨-, rfl⟩ := List.append_inj' same rfl |>.imp id List.singleton_inj.1
      exact Or.inl here
    · rw [List.concat_eq_append, ← List.cons_append, ← List.append_assoc] at same
      obtain ⟨rfl, rfl⟩ := List.append_inj' same rfl |>.imp id List.singleton_inj.1
      exact Or.inr ⟨later _ (by simp), before, last, between, rfl, here,
        fun next present => later next (by simp [present])⟩
  · rintro (here | ⟨unrelated, latest⟩)
    · exact Latest.of_last here
    · exact latest.concat unrelated

/-- A relation that gives a member one value gives a list one latest value. -/
theorem Latest.unique (single : ∀ member value value', related member value →
    related member value' → value = value') {value' : β} (left : Latest related members value)
    (right : Latest related members value') : value = value' := by
  induction members using List.reverseRecOn with
  | nil => exact absurd Never.nil left.not_never
  | append_singleton members member ih =>
    rcases latest_concat_iff.1 left with here | ⟨unrelated, latest⟩
    · rcases latest_concat_iff.1 right with here' | ⟨unrelated', _⟩
      · exact single member value value' here here'
      · exact absurd here (unrelated' value)
    · rcases latest_concat_iff.1 right with here' | ⟨_, latest'⟩
      · exact absurd here' (unrelated value')
      · exact ih latest latest'

end

end TokenGate
