import Mathlib.Logic.Basic

/-!
# Outcomes of steps that can fail

A chain of steps succeeds if each of them does, and how its errors are worded makes no
difference to that.  These two lemmas take a successful run apart, step by step.
-/

namespace CallbackGate

theorem bind_eq_ok_iff {ε α β : Type} {step : Except ε α} {next : α → Except ε β} {b : β} :
    (step >>= next) = .ok b ↔ ∃ a, step = .ok a ∧ next a = .ok b := by
  cases step with
  | error error =>
    refine iff_of_false (by simp [bind, Except.bind]) ?_
    intro h
    obtain ⟨a, ⟨⟩, -⟩ := h
  | ok a =>
    constructor
    · intro h
      exact ⟨a, rfl, h⟩
    · intro h
      obtain ⟨a', ha, h⟩ := h
      cases ha
      exact h

theorem mapError_eq_ok_iff {ε ε' α : Type} {step : Except ε α} {f : ε → ε'} {a : α} :
    step.mapError f = .ok a ↔ step = .ok a := by
  cases step with
  | error error =>
    constructor
    · intro h
      cases h
    · intro h
      cases h
  | ok found =>
    constructor
    · intro h
      cases h
      rfl
    · intro h
      cases h
      rfl

end CallbackGate
