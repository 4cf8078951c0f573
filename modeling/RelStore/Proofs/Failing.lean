/-
What computations fail for.

A computation fails only for causes of a kind (`FailsOnly`) if each of its parts does. With a state
it may also keep what holds of the state (`Runs`), and do what one without a state does (`Mirrors`).
A cause is foreseen if it is neither a defect of the engine nor one of values that a column has side
by side though they are of different types.
-/
import RelStore.Condition
import RelStore.Proofs.Success

namespace RelStore

/-! ## Causes -/

/-- Values of one column are of different types: they cannot be added up, or put in order. -/
def Cause.mixesTypes : Cause → Bool
  | .notANumber .. | .incomparableExtremes .. | .unorderable .. => true
  | _ => false

/-- A cause that statements can lead to. -/
def Cause.isForeseen (cause : Cause) : Bool := cause.kind != .internal && !cause.mixesTypes

theorem Cause.kind_ne_internal {cause : Cause} (h : cause.isForeseen = true) :
    cause.kind ≠ .internal :=
  bne_iff_ne.1 (Bool.and_eq_true_iff.1 h).1

/-- A foreseen cause that does not lie in what SET lists. -/
def Cause.isRefusal : Cause → Bool
  | .columnAssignedTwice .. => false
  | cause => cause.isForeseen

theorem Cause.isForeseen_of_isRefusal {cause : Cause} (h : cause.isRefusal = true) :
    cause.isForeseen = true := by
  unfold isRefusal at h
  split at h
  next => cases h
  next => exact h

/-! ## Computations -/

section

variable {ε α β : Type} {failing : ε → Prop} {x : Except ε α} {f : α → Except ε β}

/-- A computation fails for causes of a kind only. -/
def FailsOnly (failing : ε → Prop) (x : Except ε α) : Prop := ∀ cause, x = .error cause → failing cause

namespace FailsOnly

theorem ok (a : α) : FailsOnly failing (.ok a : Except ε α) := nofun

theorem pure (a : α) : FailsOnly failing (Pure.pure a : Except ε α) := nofun

theorem error {cause : ε} (h : failing cause) : FailsOnly failing (.error cause : Except ε α) := by
  rintro _ ⟨⟩
  exact h

theorem throw {cause : ε} (h : failing cause) : FailsOnly failing (throw cause : Except ε α) :=
  error h

theorem bind (hx : FailsOnly failing x) (hf : ∀ a, x = .ok a → FailsOnly failing (f a)) :
    FailsOnly failing (x >>= f) := by
  intro cause h
  cases x with
  | error other =>
    obtain rfl : other = cause := Except.error.inj h
    exact hx other rfl
  | ok a => exact hf a rfl cause h

theorem map (hx : FailsOnly failing x) {f : α → β} : FailsOnly failing (x.map f) := by
  intro cause h
  cases x with
  | error other =>
    obtain rfl : other = cause := Except.error.inj h
    exact hx other rfl
  | ok a => cases h

theorem fmap (hx : FailsOnly failing x) {f : α → β} : FailsOnly failing (f <$> x) := hx.map

theorem ite {c : Prop} [Decidable c] {y : Except ε α} (hx : c → FailsOnly failing x)
    (hy : ¬ c → FailsOnly failing y) : FailsOnly failing (if c then x else y) := by
  split
  next h => exact hx h
  next h => exact hy h

theorem mapM {items : List α} (h : ∀ a ∈ items, FailsOnly failing (f a)) :
    FailsOnly failing (items.mapM f) := by
  induction items with
  | nil => exact nofun
  | cons a rest ih =>
    rw [List.mapM_cons]
    obtain ⟨ha, hrest⟩ := List.forall_mem_cons.1 h
    exact ha.bind fun _ _ => (ih hrest).bind fun _ _ => .pure _

theorem forM {f : α → Except ε Unit} {items : List α} (h : ∀ a ∈ items, FailsOnly failing (f a)) :
    FailsOnly failing (items.forM f) := by
  induction items with
  | nil => exact nofun
  | cons a rest ih =>
    obtain ⟨ha, hrest⟩ := List.forall_mem_cons.1 h
    exact ha.bind fun _ _ => ih hrest

/-- A computation that fails for nothing gives something. -/
theorem exists_ok (h : FailsOnly (fun _ : ε => False) x) : ∃ a, x = .ok a := by
  cases x with
  | error cause => exact (h cause rfl).elim
  | ok a => exact ⟨a, rfl⟩

end FailsOnly

/-- A computation gives something, and what it gives is as it should be. -/
def Succeeds (given : α → Prop) (x : Except ε α) : Prop := ∃ a, x = .ok a ∧ given a

namespace Succeeds

variable {given : α → Prop} {last : β → Prop}

theorem ok {a : α} (h : given a) : Succeeds given (.ok a : Except ε α) := ⟨a, rfl, h⟩

theorem pure {a : α} (h : given a) : Succeeds given (Pure.pure a : Except ε α) := ⟨a, rfl, h⟩

theorem bind (hx : Succeeds given x) (hf : ∀ a, given a → Succeeds last (f a)) :
    Succeeds last (x >>= f) := by
  obtain ⟨a, rfl, ha⟩ := hx
  exact hf a ha

theorem map {f : α → β} (hx : Succeeds given x) (hf : ∀ a, given a → last (f a)) :
    Succeeds last (x.map f) := by
  obtain ⟨a, rfl, ha⟩ := hx
  exact ⟨f a, rfl, hf a ha⟩

theorem mapM {f : α → Except ε β} {fact : α → β → Prop} {items : List α}
    (h : ∀ a ∈ items, Succeeds (fact a) (f a)) :
    Succeeds (List.Forall₂ fact items) (items.mapM f) := by
  induction items with
  | nil => exact .pure .nil
  | cons a rest ih =>
    rw [List.mapM_cons]
    obtain ⟨ha, hrest⟩ := List.forall_mem_cons.1 h
    exact ha.bind fun _ hb => (ih hrest).bind fun _ hbs => .pure (.cons hb hbs)

theorem exists_ok (h : Succeeds given x) : ∃ a, x = .ok a := h.imp fun _ h => h.1

theorem failsOnly (h : Succeeds given x) : FailsOnly failing x := by
  obtain ⟨a, rfl, -⟩ := h
  exact .ok a

theorem of_eq_ok (h : Succeeds given x) {a : α} (ha : x = .ok a) : given a := by
  obtain ⟨b, hb, hgiven⟩ := h
  rwa [Except.ok.inj (ha.symm.trans hb)]

end Succeeds

theorem Succeeds.raised {x : Except Cause α} {given : α → Prop} (h : Succeeds given x) :
    Succeeds given (Sql.raised x : Except Cause α) := by
  obtain ⟨a, rfl, ha⟩ := h
  exact .pure ha

end

/-- A computation fails for causes that are foreseen. -/
abbrev FailsForeseen {α : Type} (x : Except Cause α) : Prop := FailsOnly (·.isForeseen = true) x

/-- A computation fails for causes that are foreseen and do not lie in what SET lists. -/
abbrev Refuses {α : Type} (x : Except Cause α) : Prop := FailsOnly (·.isRefusal = true) x

theorem FailsOnly.foreseen {α : Type} {x : Except Cause α} (h : Refuses x) : FailsForeseen x :=
  fun cause hx => Cause.isForeseen_of_isRefusal (h cause hx)

section

variable {failing : Cause → Prop}

theorem FailsOnly.asTruth (h : ∀ v, failing (.notACondition v)) (v : Value) :
    FailsOnly failing v.asTruth := by
  rcases v with _ | ⟨_ | _ | _⟩
  · exact .ok none
  · exact .error (h _)
  · exact .error (h _)
  · exact .ok _

variable (h : ∀ left right, failing (.incomparable left right))

include h

theorem FailsOnly.order (a b : Scalar) : FailsOnly failing (a.order b) := by
  rw [Scalar.order]
  split
  · exact .ok _
  · exact .error (h _ _)

theorem FailsOnly.apply (op : Sql.CompareOp) (v w : Value) : FailsOnly failing (op.apply v w) := by
  rcases v with _ | a <;> rcases w with _ | b
  case some.some =>
    refine FailsOnly.map ?_
    cases op with
    | eq => exact .ok _
    | bangEq => exact .ok _
    | ltGt => exact .ok _
    | _ => exact (FailsOnly.order h a b).map
  all_goals exact .ok none

theorem FailsOnly.isBetween (u v w : Value) : FailsOnly failing (Sql.isBetween u v w) := by
  rcases u with _ | a <;> rcases v with _ | b <;> rcases w with _ | c
  case some.some.some =>
    refine (FailsOnly.order h a b).bind fun _ _ => .ite (fun _ => .ok _) fun _ => ?_
    exact (FailsOnly.order h a c).bind fun _ _ => .ok _
  all_goals exact .ok none

end

/-! ## Computations with a state -/

section

variable {ε σ α β : Type} {keeps : σ → Prop} {failing : ε → Prop} {given : α → Prop}
  {last : β → Prop} {x : StateT σ (Except ε) α} {f : α → StateT σ (Except ε) β}

/-- A computation keeps what holds of its state, gives what is as it should be, and fails for
causes of a kind only. -/
def Runs (keeps : σ → Prop) (failing : ε → Prop) (x : StateT σ (Except ε) α) (given : α → Prop) :
    Prop :=
  ∀ s, keeps s → FailsOnly failing (x.run s) ∧
    ∀ a t, x.run s = .ok (a, t) → given a ∧ keeps t

namespace Runs

theorem pure {a : α} (h : given a) : Runs keeps failing (pure a) given := by
  intro s hs
  refine ⟨nofun, fun b t hrun => ?_⟩
  obtain ⟨rfl, rfl⟩ := Prod.mk.inj (Except.ok.inj hrun)
  exact ⟨h, hs⟩

theorem throw {cause : ε} (h : failing cause) : Runs keeps failing (throw cause) given :=
  fun _ _ => ⟨.error h, nofun⟩

theorem bind (hx : Runs keeps failing x given) (hf : ∀ a, given a → Runs keeps failing (f a) last) :
    Runs keeps failing (x >>= f) last := by
  intro s hs
  obtain ⟨hfails, hgives⟩ := hx s hs
  rw [StateT.run_bind]
  refine ⟨hfails.bind fun ⟨a, t⟩ hrun => ?_, fun b u hrun => ?_⟩
  · obtain ⟨ha, ht⟩ := hgives a t hrun
    exact (hf a ha t ht).1
  · obtain ⟨⟨a, t⟩, hfirst, hrest⟩ := bind_eq_ok.1 hrun
    obtain ⟨ha, ht⟩ := hgives a t hfirst
    exact (hf a ha t ht).2 b u hrest

theorem lift {check : Except ε α} (hfails : FailsOnly failing check)
    (hgives : ∀ a, check = .ok a → given a) : Runs keeps failing (liftM check) given := by
  intro s hs
  refine ⟨hfails.bind fun a _ => .pure _, fun b t hrun => ?_⟩
  obtain ⟨a, ha, hrun⟩ := bind_eq_ok.1 hrun
  obtain ⟨rfl, rfl⟩ := Prod.mk.inj (pure_eq_ok.1 hrun)
  exact ⟨hgives a ha, hs⟩

theorem get : Runs keeps failing (get : StateT σ (Except ε) σ) keeps := by
  intro s hs
  refine ⟨nofun, fun a t hrun => ?_⟩
  obtain ⟨rfl, rfl⟩ := Prod.mk.inj (pure_eq_ok.1 hrun)
  exact ⟨hs, hs⟩

theorem modify {change : σ → σ} (h : ∀ s, keeps s → keeps (change s)) :
    Runs keeps failing (modify change : StateT σ (Except ε) PUnit) fun _ => True := by
  intro s hs
  refine ⟨nofun, fun a t hrun => ?_⟩
  obtain ⟨-, rfl⟩ := Prod.mk.inj (pure_eq_ok.1 hrun)
  exact ⟨trivial, h s hs⟩

theorem mono {others : α → Prop} (h : Runs keeps failing x given) (himp : ∀ a, given a → others a) :
    Runs keeps failing x others :=
  fun s hs => ⟨(h s hs).1, fun a t hrun => ⟨himp a ((h s hs).2 a t hrun).1, ((h s hs).2 a t hrun).2⟩⟩

theorem weaken {others : ε → Prop} (h : Runs keeps failing x given)
    (himp : ∀ cause, failing cause → others cause) : Runs keeps others x given :=
  fun s hs => ⟨fun cause hcause => himp cause ((h s hs).1 cause hcause), (h s hs).2⟩

theorem ite {c : Prop} [Decidable c] {y : StateT σ (Except ε) α} (hx : c → Runs keeps failing x given)
    (hy : ¬ c → Runs keeps failing y given) : Runs keeps failing (if c then x else y) given := by
  split
  next h => exact hx h
  next h => exact hy h

theorem mapM {f : α → StateT σ (Except ε) β} {fact : α → β → Prop} {items : List α}
    (h : ∀ a ∈ items, Runs keeps failing (f a) (fact a)) :
    Runs keeps failing (items.mapM f) (List.Forall₂ fact items) := by
  induction items with
  | nil => exact .pure .nil
  | cons a rest ih =>
    rw [List.mapM_cons]
    obtain ⟨ha, hrest⟩ := List.forall_mem_cons.1 h
    exact ha.bind fun _ hb => (ih hrest).bind fun _ hbs => .pure (.cons hb hbs)

end Runs

/-- A computation with a state gives what one without gives, fails for what it fails for, and keeps
what holds of its state. -/
def Mirrors (keeps : σ → Prop) (x : StateT σ (Except ε) α) (y : Except ε α) : Prop :=
  Runs keeps (fun cause => y = .error cause) x fun a => y = .ok a

namespace Mirrors

variable {y : Except ε α} {k : α → Except ε β}

theorem pure (a : α) : Mirrors keeps (pure a : StateT σ (Except ε) α) (.ok a) := Runs.pure rfl

theorem throw (cause : ε) : Mirrors keeps (throw cause : StateT σ (Except ε) α) (.error cause) :=
  Runs.throw rfl

theorem lift (y : Except ε α) : Mirrors keeps (liftM y : StateT σ (Except ε) α) y :=
  Runs.lift (fun _ => id) fun _ => id

theorem bind (hx : Mirrors keeps x y) (hf : ∀ a, y = .ok a → Mirrors keeps (f a) (k a)) :
    Mirrors keeps (x >>= f) (y >>= k) := by
  cases y with
  | error cause =>
    exact (Runs.weaken hx fun _ hcause => Except.error.inj hcause ▸ rfl).bind fun a ha => nomatch ha
  | ok a =>
    refine (Runs.weaken hx fun _ hcause => nomatch hcause).bind ?_
    rintro _ ⟨⟩
    exact hf a rfl

theorem mapM {items : List α} (h : ∀ a ∈ items, Mirrors keeps (f a) (k a)) :
    Mirrors keeps (items.mapM f) (items.mapM k) := by
  induction items with
  | nil => exact .pure []
  | cons a rest ih =>
    rw [List.mapM_cons, List.mapM_cons]
    obtain ⟨ha, hrest⟩ := List.forall_mem_cons.1 h
    exact ha.bind fun _ _ => (ih hrest).bind fun _ _ => .pure _

theorem run'_eq (h : Mirrors keeps x y) {s : σ} (hs : keeps s) : x.run' s = y := by
  obtain ⟨hfails, hgives⟩ := h s hs
  show (·.1) <$> x.run s = y
  cases hrun : x.run s with
  | error cause => exact (hfails cause hrun).symm
  | ok result => exact (hgives result.1 result.2 hrun).1.symm

end Mirrors

end

/-- A computation keeps what holds of its state, gives what is as it should be, and fails for causes
that are foreseen. -/
abbrev RunsForeseen {σ α : Type} (keeps : σ → Prop) (x : StateT σ (Except Cause) α)
    (given : α → Prop) : Prop :=
  Runs keeps (fun cause : Cause => cause.isForeseen = true) x given

end RelStore
