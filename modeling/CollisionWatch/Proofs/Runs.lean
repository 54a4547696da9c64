import CollisionWatch.Crash
import Mathlib.Data.List.Induction

/-!
# Runs of steps that may fail

A run takes one step after the other and ends at the first one that fails. These lemmas take the
last step off a run, which is where an induction over a history looks, or the first one.
-/

namespace CollisionWatch

variable {σ α ε : Type} {step : σ → α → Except ε σ} {s s' : σ} {xs : List α}

/-- A run and one more step. -/
theorem foldlM_append_singleton (h : xs.foldlM step s = .ok s') (x : α) :
    (xs ++ [x]).foldlM step s = step s' x := by
  rw [List.foldlM_append, h]
  change List.foldlM step s' [x] = _
  rw [List.foldlM_cons]
  exact bind_pure (step s' x)

/-- A run that succeeds has succeeded before its last step. -/
theorem exists_of_foldlM_append_singleton {x : α} (h : (xs ++ [x]).foldlM step s = .ok s') :
    ∃ middle, xs.foldlM step s = .ok middle ∧ step middle x = .ok s' := by
  cases hrun : xs.foldlM step s with
  | error e =>
    rw [List.foldlM_append, hrun] at h
    cases h
  | ok middle =>
    rw [foldlM_append_singleton hrun] at h
    exact ⟨middle, rfl, h⟩

/-- A run that succeeds has taken its first step and gone on from there. -/
theorem exists_of_foldlM_cons {x : α} (h : (x :: xs).foldlM step s = .ok s') :
    ∃ middle, step s x = .ok middle ∧ xs.foldlM step middle = .ok s' := by
  rw [List.foldlM_cons] at h
  cases hstep : step s x with
  | error e =>
    rw [hstep] at h
    cases h
  | ok middle =>
    rw [hstep] at h
    exact ⟨middle, rfl, h⟩

/-- A step and what comes after it succeed together only if each does. -/
theorem exists_of_bind_eq_ok {β : Type} {x : Except ε α} {f : α → Except ε β} {y : β}
    (h : (x >>= f) = .ok y) : ∃ a, x = .ok a ∧ f a = .ok y := by
  cases x with
  | error e => cases h
  | ok a => exact ⟨a, rfl, h⟩

/-- What was made of an answer was made of one. -/
theorem exists_of_map_eq_ok {β : Type} {x : Except ε α} {f : α → β} {y : β}
    (h : x.map f = .ok y) : ∃ a, x = .ok a ∧ f a = y := by
  cases x with
  | error e => cases h
  | ok a => exact ⟨a, rfl, Except.ok.inj h⟩

end CollisionWatch
