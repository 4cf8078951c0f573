/-
Computations that end in the same way.

Two computations are paired if both succeed, with results that stand in a relation, or both fail,
for causes that stand in one. Which causes these are is left to those who compare: what is reported
of failures may be the same as a whole, in part, or further down in the text.
-/
import Mathlib.Data.List.Forall2
import RelStore.Error

namespace RelStore

/-- Both computations succeed with related results, or both fail for related causes. -/
inductive Paired {α β : Type} (causes : Cause → Cause → Prop) (R : α → β → Prop) :
    Except Cause α → Except Cause β → Prop where
  | ok {a : α} {b : β} (h : R a b) : Paired causes R (.ok a) (.ok b)
  | error {cause other : Cause} (h : causes cause other) : Paired causes R (.error cause) (.error other)

namespace Paired

variable {causes : Cause → Cause → Prop} {α β γ δ : Type} {R : α → β → Prop} {S : γ → δ → Prop}
  {x : Except Cause α} {y : Except Cause β} {f : α → Except Cause γ} {g : β → Except Cause δ}

theorem mono {T : α → β → Prop} (h : Paired causes R x y) (himp : ∀ a b, R a b → T a b) :
    Paired causes T x y := by
  cases h with
  | ok h => exact .ok (himp _ _ h)
  | error h => exact .error h

/-- Results that are known of on either side. -/
theorem and_ok {P : α → Prop} {Q : β → Prop} (h : Paired causes R x y) (hx : ∀ a, x = .ok a → P a)
    (hy : ∀ b, y = .ok b → Q b) : Paired causes (fun a b => R a b ∧ P a ∧ Q b) x y := by
  cases h with
  | ok h => exact .ok ⟨h, hx _ rfl, hy _ rfl⟩
  | error h => exact .error h

theorem bind (h : Paired causes R x y) (hf : ∀ a b, R a b → Paired causes S (f a) (g b)) :
    Paired causes S (x >>= f) (y >>= g) := by
  cases h with
  | ok h => exact hf _ _ h
  | error h => exact .error h

theorem map {f : α → γ} {g : β → δ} (h : Paired causes R x y) (hf : ∀ a b, R a b → S (f a) (g b)) :
    Paired causes S (x.map f) (y.map g) := by
  cases h with
  | ok h => exact .ok (hf _ _ h)
  | error h => exact .error h

theorem ite {c d : Prop} [Decidable c] [Decidable d] {x' : Except Cause α} {y' : Except Cause β}
    (hcd : c ↔ d) (h : c → Paired causes R x y) (h' : ¬ c → Paired causes R x' y') :
    Paired causes R (if c then x else x') (if d then y else y') := by
  by_cases hc : c
  · rw [if_pos hc, if_pos (hcd.1 hc)]
    exact h hc
  · rw [if_neg hc, if_neg (mt hcd.2 hc)]
    exact h' hc

end Paired

end RelStore
