/-
When computations that can fail succeed: a chain of them if each does, a loop if every round
does, and a run along a list keeps what each of its rounds keeps.
-/
import Mathlib.Data.List.Forall2

namespace RelStore

variable {ε α β σ : Type}

theorem bind_eq_ok {x : Except ε α} {f : α → Except ε β} {b : β} :
    (x >>= f) = .ok b ↔ ∃ a, x = .ok a ∧ f a = .ok b := by
  cases x with
  | error e => simp [bind, Except.bind]
  | ok a => simp [bind, Except.bind]

/-- What comes after a computation matters for what it gives only. -/
theorem bind_congr_of_ok {x : Except ε α} {f k : α → Except ε β} (h : ∀ a, x = .ok a → f a = k a) :
    x >>= f = x >>= k := by
  cases x with
  | error e => rfl
  | ok a => exact h a rfl

theorem map_eq_ok {x : Except ε α} {f : α → β} {b : β} :
    (f <$> x) = .ok b ↔ ∃ a, x = .ok a ∧ f a = b := by
  cases x with
  | error e => simp [Functor.map, Except.map]
  | ok a => simp [Functor.map, Except.map]

theorem pure_eq_ok {a b : α} : (pure a : Except ε α) = .ok b ↔ a = b := by
  simp [pure, Except.pure]

theorem throw_ne_ok {e : ε} {a : α} : ¬ (throw e : Except ε α) = .ok a := by
  simp [throw, throwThe, MonadExceptOf.throw]

/-- A check that is made only sometimes. -/
theorem ite_bind_eq_ok {c : Prop} [Decidable c] {check : Except ε Unit} {rest : Except ε β} {b : β} :
    (if c then check >>= fun _ => rest else rest) = .ok b ↔
      (c → check = .ok ()) ∧ rest = .ok b := by
  by_cases hc : c
  · simp only [hc, if_true, bind_eq_ok, forall_const]
    exact ⟨fun ⟨_, hcheck, hr⟩ => ⟨hcheck, hr⟩, fun ⟨hcheck, hr⟩ => ⟨(), hcheck, hr⟩⟩
  · simp [hc]

theorem forM_eq_ok {f : α → Except ε Unit} {items : List α} :
    items.forM f = .ok () ↔ ∀ a ∈ items, f a = .ok () := by
  induction items with
  | nil => simp [pure_eq_ok]
  | cons a rest ih =>
    rw [List.forM_eq_forM] at ih ⊢
    simp only [List.forM_cons, bind_eq_ok, ih, List.forall_mem_cons]
    exact ⟨fun ⟨_, ha, hr⟩ => ⟨ha, hr⟩, fun ⟨ha, hr⟩ => ⟨(), ha, hr⟩⟩

theorem mapM_eq_ok {f : α → Except ε β} {items : List α} {results : List β} :
    items.mapM f = .ok results ↔ List.Forall₂ (fun a b => f a = .ok b) items results := by
  induction items generalizing results with
  | nil =>
    rw [List.mapM_nil, pure_eq_ok]
    constructor
    · rintro rfl
      exact .nil
    · rintro ⟨⟩
      rfl
  | cons a rest ih =>
    simp only [List.mapM_cons, bind_eq_ok, pure_eq_ok, ih]
    constructor
    · rintro ⟨b, hb, bs, hbs, rfl⟩
      exact .cons hb hbs
    · rintro ⟨⟩
      rename_i b bs hb hbs
      exact ⟨b, hb, bs, hbs, rfl⟩

theorem mapM_map {γ : Type} (f : α → Except ε β) (g : β → γ) (items : List α) :
    (items.mapM fun a => g <$> f a) = List.map g <$> items.mapM f := by
  induction items with
  | nil => rfl
  | cons a rest ih =>
    rw [List.mapM_cons, List.mapM_cons, ih]
    cases f a with
    | error cause => rfl
    | ok b => cases rest.mapM f <;> rfl

/-- What is made of items that are checked first. -/
theorem mapM_checked_eq_ok {check : α → Except ε Unit} {f : α → β} {items : List α}
    {results : List β} : (items.mapM fun a => do check a; return f a) = .ok results ↔
      (∀ a ∈ items, check a = .ok ()) ∧ results = items.map f := by
  induction items generalizing results with
  | nil =>
    rw [List.mapM_nil, pure_eq_ok, List.map_nil, eq_comm]
    exact (and_iff_right (List.forall_mem_nil _)).symm
  | cons a rest ih =>
    simp only [List.mapM_cons, bind_eq_ok, pure_eq_ok, ih, List.forall_mem_cons, List.map_cons]
    constructor
    · rintro ⟨_, ⟨⟨⟩, ha, rfl⟩, _, ⟨hrest, rfl⟩, rfl⟩
      exact ⟨⟨ha, hrest⟩, rfl⟩
    · rintro ⟨⟨ha, hrest⟩, rfl⟩
      exact ⟨f a, ⟨(), ha, rfl⟩, rest.map f, ⟨hrest, rfl⟩, rfl⟩

/-- What a run along a list gives is what each of its steps gives, in some state. -/
theorem forall₂_of_run_mapM {f : α → StateT σ (Except ε) β} {items : List α} {results : List β}
    {s t : σ} (h : (items.mapM f).run s = .ok (results, t)) :
    List.Forall₂ (fun a b => ∃ s t, (f a).run s = .ok (b, t)) items results := by
  induction items generalizing results s with
  | nil =>
    rw [List.mapM_nil] at h
    cases h
    exact .nil
  | cons a rest ih =>
    rw [List.mapM_cons, StateT.run_bind] at h
    obtain ⟨⟨b, s'⟩, hb, h⟩ := bind_eq_ok.1 h
    rw [StateT.run_bind] at h
    obtain ⟨⟨bs, t'⟩, hbs, h⟩ := bind_eq_ok.1 h
    cases h
    exact .cons ⟨s, s', hb⟩ (ih hbs)

/-- Each item on the right of a pairing has its partner on the left. -/
theorem exists_left_of_mem {R : α → β → Prop} {as : List α} {bs : List β}
    (h : List.Forall₂ R as bs) {b : β} (hb : b ∈ bs) : ∃ a ∈ as, R a b := by
  induction h with
  | nil => cases hb
  | cons hab _ ih =>
    rcases List.mem_cons.1 hb with rfl | hb
    · exact ⟨_, List.mem_cons_self, hab⟩
    · obtain ⟨a, ha, hr⟩ := ih hb
      exact ⟨a, List.mem_cons_of_mem _ ha, hr⟩

/-- Each item on the left of a pairing has its partner on the right. -/
theorem exists_right_of_mem {R : α → β → Prop} {as : List α} {bs : List β}
    (h : List.Forall₂ R as bs) {a : α} (ha : a ∈ as) : ∃ b ∈ bs, R a b :=
  exists_left_of_mem (R := fun b a => R a b) h.flip ha

/-- What holds at the start and is kept by each round holds at the end. -/
theorem foldl_keeps {f : σ → α → σ} {P : σ → Prop} {items : List α} {s : σ} (hs : P s)
    (step : ∀ s, P s → ∀ a ∈ items, P (f s a)) : P (items.foldl f s) := by
  induction items generalizing s with
  | nil => exact hs
  | cons a rest ih =>
    exact ih (step s hs a List.mem_cons_self)
      fun s hs b hb => step s hs b (List.mem_cons_of_mem _ hb)

end RelStore
