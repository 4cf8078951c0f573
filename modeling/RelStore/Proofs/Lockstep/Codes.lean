/-
Computations that end with one result or with one code.

Callers tell failures apart by their kind and code; messages quote names as they were written. Of
computations that agree (`Agree`) the results are equal, and so are the kinds and codes of their
failures. What is proved of computations in lockstep holds of these too (`codes`, `groupCodes`), so that
conditions are not gone through again.
-/
import RelStore.Proofs.Lockstep.Condition
import RelStore.Proofs.Paired
import RelStore.Query.Grouping

namespace RelStore

open Sql
open List (Forall₂)

/-- The causes have one kind and one code. -/
structure Cause.SameCode (cause other : Cause) : Prop where
  kind : cause.kind = other.kind
  code : cause.code = other.code

namespace Cause.SameCode

variable {cause other third : Cause}

theorem refl (cause : Cause) : cause.SameCode cause := ⟨rfl, rfl⟩

theorem symm (h : cause.SameCode other) : other.SameCode cause := ⟨h.kind.symm, h.code.symm⟩

theorem trans (h : cause.SameCode other) (h' : other.SameCode third) : cause.SameCode third :=
  ⟨h.kind.trans h'.kind, h.code.trans h'.code⟩

theorem of_alike (h : cause.Alike other) : cause.SameCode other := ⟨h.kind, h.code⟩

end Cause.SameCode

/-- Both computations have one result, or fail with one kind and code. -/
abbrev Agree {α : Type} (x y : Except Cause α) : Prop := Paired Cause.SameCode (· = ·) x y

section

variable {α β γ : Type} {R : α → β → Prop} {x : Except Cause α} {y : Except Cause β}

theorem Ends.paired (h : Ends R x y) : Paired Cause.SameCode R x y := by
  cases h with
  | ok h => exact .ok h
  | error h => exact .error (.of_alike h)

namespace Paired

theorem symm (h : Paired Cause.SameCode R x y) : Paired Cause.SameCode (fun b a => R a b) y x := by
  cases h with
  | ok h => exact .ok h
  | error h => exact .error h.symm

theorem trans {S : β → γ → Prop} {T : α → γ → Prop} {z : Except Cause γ}
    (h : Paired Cause.SameCode R x y) (h' : Paired Cause.SameCode S y z)
    (hT : ∀ a b c, R a b → S b c → T a c) : Paired Cause.SameCode T x z := by
  cases h with
  | ok h =>
    cases h' with
    | ok h' => exact .ok (hT _ _ _ h h')
  | error h =>
    cases h' with
    | error h' => exact .error (h.trans h')

theorem refl (x : Except Cause α) : Agree x x := by
  cases x with
  | ok a => exact .ok rfl
  | error cause => exact .error (.refl cause)

/-- What is made of one result. -/
theorem use {S : β → γ → Prop} {x y : Except Cause α} {f : α → Except Cause β} {g : α → Except Cause γ}
    (h : Agree x y) (hf : ∀ a, Paired Cause.SameCode S (f a) (g a)) :
    Paired Cause.SameCode S (x >>= f) (y >>= g) :=
  h.bind fun a _ hab => hab ▸ hf a

/-- Items one after the other, each under another name. -/
theorem each {f : α → Except Cause γ} {g : β → Except Cause γ} {named : α → β}
    (h : ∀ a, Agree (f a) (g (named a))) (items : List α) :
    Agree (items.mapM f) ((items.map named).mapM g) := by
  induction items with
  | nil => exact .refl _
  | cons a rest ih =>
    rw [List.map_cons, List.mapM_cons, List.mapM_cons]
    exact (h a).use fun _ => ih.use fun _ => .refl _

/-- Checks one after the other. -/
theorem forEach {f : α → Except Cause Unit} {g : β → Except Cause Unit} {named : α → β}
    (h : ∀ a, Agree (f a) (g (named a))) (items : List α) :
    Agree (items.forM f) ((items.map named).forM g) := by
  induction items with
  | nil => exact .refl _
  | cons a rest ih =>
    rw [List.forM_eq_forM, List.forM_eq_forM] at ih
    rw [List.map_cons, List.forM_eq_forM, List.forM_eq_forM, List.forM_cons, List.forM_cons]
    exact (h a).use fun _ => ih

end Paired

end

/-! ## Conditions -/

/-- Computations in step up to what failures say. -/
@[reducible] def Lockstep.codes : Lockstep (Except Cause) where
  InStep := Paired Cause.SameCode
  pure := .ok
  throw h := .error (.of_alike h)
  bind := Paired.bind

/-- Both answer a group of which the same is known alike, and leave the same known. -/
def Answers {α β : Type} (R : α → β → Prop) (x : InGroup α) (y : InGroup β) : Prop :=
  ∀ known, Paired Cause.SameCode (fun a b => R a.1 b.1 ∧ a.2 = b.2) (x.run known) (y.run known)

namespace Answers

variable {α β γ δ : Type} {R : α → β → Prop} {S : γ → δ → Prop} {x : InGroup α} {y : InGroup β}

theorem pure {a : α} {b : β} (h : R a b) : Answers R (Pure.pure a) (Pure.pure b) :=
  fun _ => .ok ⟨h, rfl⟩

theorem throw {cause other : Cause} (h : cause.SameCode other) :
    Answers R (MonadExcept.throw cause) (MonadExcept.throw other) :=
  fun _ => .error h

theorem bind {f : α → InGroup γ} {g : β → InGroup δ} (h : Answers R x y)
    (hf : ∀ a b, R a b → Answers S (f a) (g b)) : Answers S (x >>= f) (y >>= g) := by
  intro known
  refine (h known).bind ?_
  rintro ⟨a, known⟩ ⟨b, _⟩ ⟨hab, rfl⟩
  exact hf a b hab known

theorem lift {a : Except Cause α} {b : Except Cause β} (h : Paired Cause.SameCode R a b) :
    Answers R (liftM a) (liftM b) :=
  fun _ => h.bind fun _ _ hab => .ok ⟨hab, rfl⟩

theorem use {x y : InGroup α} {f : α → InGroup γ} {g : α → InGroup δ} (h : Answers (· = ·) x y)
    (hf : ∀ a, Answers S (f a) (g a)) : Answers S (x >>= f) (y >>= g) :=
  h.bind fun a _ hab => hab ▸ hf a

end Answers

@[reducible] def Lockstep.groupCodes : Lockstep InGroup where
  InStep := Answers
  pure := Answers.pure
  throw h := Answers.throw (.of_alike h)
  bind := Answers.bind

end RelStore
