import Mathlib
import TokenGate.Key.Cache

/-! # A cache and the installs before it

A cache that was new once is told by the sets that were installed in it: there are as many as its
generation says, and it shows the last of them, which carries that generation. -/

namespace TokenGate

namespace KeyCache

/-- The cache behind installs one after another, from the beginning. -/
def behind (sets : List KeySet) : KeyCache := KeyCache.new.installAll sets

theorem behind_concat (sets : List KeySet) (set : KeySet) :
    behind (sets ++ [set]) = (behind sets).install set := by
  simp [behind, installAll]

/-- The generation counts the installs. -/
theorem generation_behind (sets : List KeySet) : (behind sets).generation = sets.length := by
  simp [behind, generation_installAll, KeyCache.new]

/-- The set in place has the generation of its install. -/
theorem generation_current_behind (sets : List KeySet) :
    (behind sets).current.generation = sets.length := by
  induction sets using List.reverseRecOn with
  | nil => rfl
  | append_singleton sets set _ =>
    rw [behind_concat, current_install, generation_behind, List.length_append, List.length_singleton]

/-- The last set is shown under the number of installs, and the sentinel before any. -/
theorem current_behind (sets : List KeySet) :
    sets = [] ∧ (behind sets).current = .uninitialized ∨
      ∃ before last, sets = before ++ [last] ∧
        (behind sets).current = { last with generation := sets.length } := by
  rcases List.eq_nil_or_concat sets with rfl | ⟨before, last, rfl⟩
  · exact Or.inl ⟨rfl, rfl⟩
  · refine Or.inr ⟨before, last, List.concat_eq_append, ?_⟩
    rw [List.concat_eq_append, behind_concat, current_install, generation_behind,
      List.length_append, List.length_singleton]

/-- Of all installs the last one alone decides which keys there are. -/
theorem keys_current_behind (sets : List KeySet) :
    (behind sets).current.keys = (behind sets.getLast?.toList).current.keys := by
  rcases List.eq_nil_or_concat sets with rfl | ⟨before, last, rfl⟩
  · rfl
  · rw [List.concat_eq_append, behind_concat, List.getLast?_concat]
    rfl

end KeyCache

end TokenGate
