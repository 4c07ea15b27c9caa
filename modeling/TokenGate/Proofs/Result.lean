/-! # Results of steps

A chain of steps succeeds exactly when each of them does, on what the one before it gave. -/

namespace TokenGate

variable {ε α β : Type}

theorem bind_eq_ok_iff {x : Except ε α} {f : α → Except ε β} {b : β} :
    x >>= f = .ok b ↔ ∃ a, x = .ok a ∧ f a = .ok b := by
  cases x <;> simp [bind, Except.bind]

theorem exists_ok_of_any {result : Except ε α} {p : α → Bool}
    (found : result.toOption.any p = true) : ∃ a, result = .ok a ∧ p a = true := by
  cases result with
  | error e => cases found
  | ok a => exact ⟨a, rfl, found⟩

end TokenGate
