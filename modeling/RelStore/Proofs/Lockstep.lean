/-
Computations that keep step with each other.

Two computations end alike (`Ends`) if both give results that stand in a relation, or fail for
causes of which the same is reported. `Lockstep` is what a monad needs so that computations in it
can be compared step by step; one lemma about conditions then serves rows and groups.
-/
import RelStore.Proofs.Alike
import RelStore.Condition

namespace RelStore

/-! ## Causes -/

/-- Causes of which the same is reported. -/
structure Cause.Alike (cause other : Cause) : Prop where
  kind : cause.kind = other.kind
  code : cause.code = other.code
  message : cause.message = other.message
  context : cause.context = other.context

namespace Cause.Alike

variable {v w : Value} {table column : String}

theorem refl (cause : Cause) : cause.Alike cause := ⟨rfl, rfl, rfl, rfl⟩

theorem notACondition {a b : Scalar} (h : a.Alike b) :
    (notACondition a).Alike (.notACondition b) where
  kind := rfl
  code := rfl
  message := congrArg₂ (fun type shown => s!"Expected a BOOL condition, got {type} value {shown}")
    (congrArg DataType.name h.dataType_eq) h.jsonText_eq
  context := rfl

theorem wrongType (h : v.Alike w) (type : DataType) :
    (wrongType table column type v).Alike (.wrongType table column type w) where
  kind := rfl
  code := rfl
  message := congrArg₂
    (fun found shown => s!"Column '{column}' expects {type.name}, got {found} value {shown}")
    h.typeName_eq h.shown_eq
  context := rfl

theorem duplicateKey (h : v.Alike w) (primary : Bool) :
    (duplicateKey table column primary v).Alike (.duplicateKey table column primary w) where
  kind := rfl
  code := rfl
  message := congrArg (fun shown =>
    let key := if primary then "PRIMARY KEY" else "UNIQUE"
    s!"Duplicate value {shown} for {key} column '{column}' in table '{table}'") h.shown_eq
  context := rfl

theorem deletedWhileReferenced (h : v.Alike w) (byTable byColumn : String) :
    (deletedWhileReferenced table column v byTable byColumn).Alike
      (.deletedWhileReferenced table column w byTable byColumn) where
  kind := rfl
  code := rfl
  message := congrArg (fun shown =>
    s!"Cannot delete from '{table}': {column} = {shown} is still referenced by {byTable}.{byColumn}")
    h.shown_eq
  context := rfl

theorem updatedWhileReferenced (h : v.Alike w) (byTable byColumn : String) :
    (updatedWhileReferenced table column v byTable byColumn).Alike
      (.updatedWhileReferenced table column w byTable byColumn) where
  kind := rfl
  code := rfl
  message := congrArg (fun shown =>
    s!"Cannot update {table}.{column} = {shown}: it is still referenced by {byTable}.{byColumn}")
    h.shown_eq
  context := rfl

theorem danglingReference (h : v.Alike w) (target targetColumn : String) :
    (danglingReference table column v target targetColumn).Alike
      (.danglingReference table column w target targetColumn) where
  kind := rfl
  code := rfl
  message := congrArg (fun shown =>
    s!"Value {shown} for {table}.{column} does not exist in {target}({targetColumn})") h.shown_eq
  context := rfl

end Cause.Alike

/-! ## Ends -/

/-- Two computations give related results, or fail alike. -/
inductive Ends {α β : Type} (R : α → β → Prop) : Except Cause α → Except Cause β → Prop where
  | ok {a : α} {b : β} : R a b → Ends R (.ok a) (.ok b)
  | error {cause other : Cause} : cause.Alike other → Ends R (.error cause) (.error other)

namespace Ends

variable {α β γ δ : Type} {R : α → β → Prop} {S : γ → δ → Prop} {x : Except Cause α}
  {y : Except Cause β}

theorem of_eq {x y : Except Cause α} (h : x = y) : Ends (· = ·) x y := by
  subst h
  cases x with
  | ok a => exact .ok rfl
  | error cause => exact .error (.refl cause)

theorem mono {T : α → β → Prop} (h : Ends R x y) (hsub : ∀ a b, R a b → T a b) : Ends T x y := by
  cases h with
  | ok h => exact .ok (hsub _ _ h)
  | error h => exact .error h

/-- Results that are known of on either side. -/
theorem and_ok {P : α → Prop} {Q : β → Prop} (h : Ends R x y) (hx : ∀ a, x = .ok a → P a)
    (hy : ∀ b, y = .ok b → Q b) : Ends (fun a b => R a b ∧ P a ∧ Q b) x y := by
  cases h with
  | ok h => exact .ok ⟨h, hx _ rfl, hy _ rfl⟩
  | error h => exact .error h

theorem bind {f : α → Except Cause γ} {g : β → Except Cause δ} (h : Ends R x y)
    (hf : ∀ a b, R a b → Ends S (f a) (g b)) : Ends S (x >>= f) (y >>= g) := by
  cases h with
  | ok h => exact hf _ _ h
  | error h => exact .error h

theorem map {f : α → γ} {g : β → δ} (h : Ends R x y) (hf : ∀ a b, R a b → S (f a) (g b)) :
    Ends S (x.map f) (y.map g) := by
  cases h with
  | ok h => exact .ok (hf _ _ h)
  | error h => exact .error h

theorem ite {c d : Prop} [Decidable c] [Decidable d] {x' : Except Cause α} {y' : Except Cause β}
    (hcd : c ↔ d) (h : Ends R x y) (h' : Ends R x' y') :
    Ends R (if c then x else x') (if d then y else y') := by
  by_cases hd : d
  · rwa [if_pos hd, if_pos (hcd.2 hd)]
  · rwa [if_neg hd, if_neg (mt hcd.1 hd)]

/-- A check of related items, one after the other. -/
theorem forM {f : α → Except Cause Unit} {g : β → Except Cause Unit} {as : List α} {bs : List β}
    (h : List.Forall₂ R as bs) (hf : ∀ a b, R a b → Ends (· = ·) (f a) (g b)) :
    Ends (· = ·) (as.forM f) (bs.forM g) := by
  induction h with
  | nil => exact .of_eq rfl
  | cons hab _ ih =>
    rw [List.forM_eq_forM] at ih ⊢
    rw [List.forM_eq_forM] at ih ⊢
    rw [List.forM_cons, List.forM_cons]
    exact (hf _ _ hab).bind fun _ _ _ => ih

end Ends

/-- Computations of a monad that are compared step by step. -/
class Lockstep (m : Type → Type) [Monad m] [MonadExcept Cause m] where
  InStep : {α β : Type} → (α → β → Prop) → m α → m β → Prop
  pure {α β : Type} {R : α → β → Prop} {a : α} {b : β} :
    R a b → InStep R (pure a) (pure b)
  throw {α β : Type} {R : α → β → Prop} {cause other : Cause} :
    cause.Alike other → InStep R (throw cause) (throw other)
  bind {α β γ δ : Type} {R : α → β → Prop} {S : γ → δ → Prop} {x : m α} {y : m β}
    {f : α → m γ} {g : β → m δ} :
    InStep R x y → (∀ a b, R a b → InStep S (f a) (g b)) → InStep S (x >>= f) (y >>= g)

instance : Lockstep (Except Cause) where
  InStep := Ends
  pure := .ok
  throw := .error
  bind := Ends.bind

namespace Lockstep

variable {m : Type → Type} [Monad m] [MonadExcept Cause m] [Lockstep m] {α β γ δ : Type}
  {R : α → β → Prop} {S : γ → δ → Prop} {x : m α} {y : m β}

theorem mapM [LawfulMonad m] {f : α → m γ} {g : β → m δ} {as : List α} {bs : List β}
    (h : List.Forall₂ R as bs) (hf : ∀ a b, R a b → InStep S (f a) (g b)) :
    InStep (List.Forall₂ S) (as.mapM f) (bs.mapM g) := by
  induction h with
  | nil => exact pure .nil
  | cons hab _ ih =>
    rw [List.mapM_cons, List.mapM_cons]
    exact bind (hf _ _ hab) fun _ _ hc => bind ih fun _ _ hcs => pure (.cons hc hcs)

theorem raised {x : Except Cause α} {y : Except Cause β} (h : Ends R x y) :
    InStep (m := m) R (Sql.raised x) (Sql.raised y) := by
  cases h with
  | ok h => exact pure h
  | error h => exact throw h

end Lockstep

theorem Ends.mapM {α β γ δ : Type} {R : α → β → Prop} {S : γ → δ → Prop} {f : α → Except Cause γ}
    {g : β → Except Cause δ} {as : List α} {bs : List β} (h : List.Forall₂ R as bs)
    (hf : ∀ a b, R a b → Ends S (f a) (g b)) :
    Ends (List.Forall₂ S) (as.mapM f) (bs.mapM g) :=
  Lockstep.mapM (m := Except Cause) h hf

end RelStore
