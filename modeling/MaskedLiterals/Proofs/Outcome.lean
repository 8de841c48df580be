import Mathlib

/-!
# Outcomes step by step

An operation that may be refused is an `Except`.  These equations say when such an operation
succeeds or fails in terms of its parts, so that proofs about operations need not open the monad.
-/

namespace MaskedLiterals

universe u v w

variable {ε : Type u} {δ : Type v} {α β : Type w}

/-- A sequence succeeds exactly if each step does. -/
theorem bind_eq_ok_iff {first : Except ε α} {next : α → Except ε β} {b : β} :
    (first >>= next) = .ok b ↔ ∃ a, first = .ok a ∧ next a = .ok b := by
  cases first <;> simp [bind, Except.bind]

/-- A sequence fails as its first failing step does. -/
theorem bind_eq_error_iff {first : Except ε α} {next : α → Except ε β} {e : ε} :
    (first >>= next) = .error e
      ↔ first = .error e ∨ ∃ a, first = .ok a ∧ next a = .error e := by
  cases first <;> simp [bind, Except.bind]

theorem map_eq_ok_iff {outcome : Except ε α} {f : α → β} {b : β} :
    outcome.map f = .ok b ↔ ∃ a, outcome = .ok a ∧ f a = b := by
  cases outcome <;> simp [Except.map]

theorem map_eq_error_iff {outcome : Except ε α} {f : α → β} {e : ε} :
    outcome.map f = .error e ↔ outcome = .error e := by
  cases outcome <;> simp [Except.map]

theorem mapError_eq_ok_iff {outcome : Except ε α} {f : ε → δ} {a : α} :
    outcome.mapError f = .ok a ↔ outcome = .ok a := by
  cases outcome <;> simp [Except.mapError]

theorem mapError_eq_error_iff {outcome : Except ε α} {f : ε → δ} {e : δ} :
    outcome.mapError f = .error e ↔ ∃ cause, outcome = .error cause ∧ f cause = e := by
  cases outcome <;> simp [Except.mapError]

/-- A list of steps fails as one of them does. -/
theorem exists_of_mapM_eq_error {step : α → Except ε β} {items : List α}
    {e : ε} (h : items.mapM step = .error e) : ∃ item ∈ items, step item = .error e := by
  induction items with
  | nil => cases h
  | cons item items ih =>
    rw [List.mapM_cons] at h
    rcases bind_eq_error_iff.1 h with hfirst | ⟨_, -, h⟩
    · exact ⟨item, List.mem_cons_self, hfirst⟩
    rcases bind_eq_error_iff.1 h with hrest | ⟨_, -, h⟩
    · obtain ⟨other, hmem, hother⟩ := ih hrest
      exact ⟨other, List.mem_cons_of_mem item hmem, hother⟩
    · cases h

end MaskedLiterals
