/-
Sorting, paging and keeping apart in lockstep.

Items that stand in a relation are sorted in lockstep if they are given with alike values: the
order of two values does not tell one zero from the other, and sorting does nothing else with
items. The key texts of alike rows are equal, so that of equal rows the same are kept.
-/
import RelStore.Proofs.KeyText
import RelStore.Proofs.Lockstep
import RelStore.Proofs.Sorting
import RelStore.Scope
import RelStore.Sorting

namespace RelStore

open Sql Lockstep
open List (Forall₂)

variable {α β : Type} {R : α → β → Prop} {as : List α} {bs : List β}

/-! ## Related lists -/

/-- Related lists are the two sides of a list of pairs. -/
theorem exists_pairs (h : Forall₂ R as bs) : ∃ pairs : List {pair : α × β // R pair.1 pair.2},
    as = pairs.map (·.1.1) ∧ bs = pairs.map (·.1.2) := by
  induction h with
  | nil => exact ⟨[], rfl, rfl⟩
  | @cons a b as bs hab _ ih =>
    obtain ⟨pairs, rfl, rfl⟩ := ih
    exact ⟨⟨(a, b), hab⟩ :: pairs, rfl, rfl⟩

theorem forall₂_filter {p : α → Bool} {q : β → Bool} (h : Forall₂ R as bs)
    (hpq : ∀ a b, R a b → p a = q b) : Forall₂ R (as.filter p) (bs.filter q) :=
  List.rel_filter (fun a b hab => by simp only [hpq a b hab]) h

theorem forall₂_and_mem (h : Forall₂ R as bs) :
    Forall₂ (fun a b => R a b ∧ a ∈ as ∧ b ∈ bs) as bs :=
  List.forall₂_iff_zip.2
    ⟨h.length_eq, fun hpair => ⟨List.forall₂_zip h hpair, List.of_mem_zip hpair⟩⟩

theorem map_eq_map {γ : Type} {f : α → γ} {g : β → γ} (h : Forall₂ R as bs)
    (hfg : ∀ a b, R a b → f a = g b) : as.map f = bs.map g := by
  induction h with
  | nil => rfl
  | cons hab _ ih => rw [List.map_cons, List.map_cons, hfg _ _ hab, ih]

theorem any_eq_any {p : α → Bool} {q : β → Bool} (h : Forall₂ R as bs)
    (hpq : ∀ a b, R a b → p a = q b) : as.any p = bs.any q := by
  induction h with
  | nil => rfl
  | cons hab _ ih => rw [List.any_cons, List.any_cons, hpq _ _ hab, ih]

theorem rel_find? {p : α → Bool} {q : β → Bool} (h : Forall₂ R as bs)
    (hpq : ∀ a b, R a b → p a = q b) : Option.Rel R (as.find? p) (bs.find? q) := by
  induction h with
  | nil => exact .none
  | cons hab _ ih =>
    rw [List.find?_cons, List.find?_cons, hpq _ _ hab]
    split
    · exact .some hab
    · exact ih

theorem ends_sort {precedes : α → α → Except Cause Bool} {precedes' : β → β → Except Cause Bool}
    (h : Forall₂ R as bs)
    (hsame : ∀ a b, R a b → ∀ c d, R c d → precedes a c = precedes' b d) :
    Ends (Forall₂ R) (Sorting.sort precedes as) (Sorting.sort precedes' bs) := by
  obtain ⟨pairs, rfl, rfl⟩ := exists_pairs h
  have hprecedes : (fun p q : {pair : α × β // R pair.1 pair.2} => precedes p.1.1 q.1.1) =
      fun p q => precedes' p.1.2 q.1.2 :=
    funext fun p => funext fun q => hsame _ _ p.2 _ _ q.2
  rw [Sorting.sort_map, Sorting.sort_map, hprecedes]
  cases Sorting.sort (fun p q : {pair : α × β // R pair.1 pair.2} => precedes' p.1.2 q.1.2) pairs with
  | error cause => exact .error (.refl cause)
  | ok sorted =>
    refine .ok (List.forall₂_map_left_iff.2 (List.forall₂_map_right_iff.2 ?_))
    exact List.forall₂_same.2 fun pair _ => pair.2

/-! ## Comparing -/

theorem compareSort_eq (direction : Direction) {v w v' w' : Value} (h : v.Alike v')
    (h' : w.Alike w') : compareSort direction v w = compareSort direction v' w' := by
  rcases h.rel with ha | _
  · rcases h'.rel with hb | _
    · simp only [compareSort, ha.compare?_eq hb, ha.dataType_eq, hb.dataType_eq]
    · rfl
  · rcases h'.rel with hb | _
    · rfl
    · rfl

theorem compareKeys_eq (directions : List Direction) {as bs cs ds : List Value}
    (h : Forall₂ Value.Alike as bs) (h' : Forall₂ Value.Alike cs ds) :
    compareKeys directions as cs = compareKeys directions bs ds := by
  induction directions generalizing as bs cs ds with
  | nil => cases h <;> cases h' <;> rfl
  | cons direction directions ih =>
    cases h with
    | nil => rfl
    | cons hab has =>
      cases h' with
      | nil => rfl
      | cons hcd hcs => simp only [compareKeys, compareSort_eq direction hab hcd, ih has hcs]

/-- Items at one place, with alike values. -/
def Sortable.Alike (R : α → β → Prop) (a : Sortable α) (b : Sortable β) : Prop :=
  R a.item b.item ∧ Forall₂ Value.Alike a.values b.values ∧ a.position = b.position

/-- **Items are sorted in lockstep.** -/
theorem ends_sortItems (directions : List Direction) {items : List (α × List Value)}
    {others : List (β × List Value)}
    (h : Forall₂ (fun a b => R a.1 b.1 ∧ Forall₂ Value.Alike a.2 b.2) items others) :
    Ends (Forall₂ R) (sortItems directions items) (sortItems directions others) := by
  have hsortable : Forall₂ (Sortable.Alike R)
      (items.mapIdx fun position item => ⟨item.1, item.2, position⟩)
      (others.mapIdx fun position item => ⟨item.1, item.2, position⟩) := by
    obtain ⟨hlength, hget⟩ := List.forall₂_iff_get.1 h
    refine List.forall₂_iff_get.2 ⟨by simp [hlength], fun i hi hj => ?_⟩
    rw [List.length_mapIdx] at hi hj
    obtain ⟨hitem, hvalues⟩ := hget i hi hj
    simpa [Sortable.Alike] using ⟨hitem, hvalues⟩
  have hsame : ∀ a b, Sortable.Alike R a b → ∀ c d, Sortable.Alike R c d →
      Sortable.precedes directions a c = Sortable.precedes directions b d := by
    intro a b hab c d hcd
    simp only [Sortable.precedes, Sortable.compare, compareKeys_eq directions hab.2.1 hcd.2.1,
      hab.2.2, hcd.2.2]
  refine (ends_sort hsortable hsame).bind fun sorted sorted' hsorted => .ok ?_
  exact List.forall₂_map_left_iff.2 (List.forall₂_map_right_iff.2 (hsorted.imp fun _ _ h => h.1))

/-! ## Keeping apart -/

theorem rowKeyText_eq (columns : List String) {row other : Row} (h : row.Alike other) :
    rowKeyText columns row = rowKeyText columns other :=
  congrArg joinKeyTexts (List.map_congr_left fun name _ => fieldKeyText_eq_iff.2 (h.get? name))

theorem forall₂_keepFirst {keyOf : α → String} {keyOf' : β → String} (h : Forall₂ R as bs)
    (hkey : ∀ a b, R a b → keyOf a = keyOf' b) (seen : List String) :
    Forall₂ R (keepFirst keyOf seen as) (keepFirst keyOf' seen bs) := by
  induction h generalizing seen with
  | nil => exact .nil
  | cons hab _ ih =>
    rw [keepFirst, keepFirst, hkey _ _ hab]
    split
    · exact ih _
    · exact .cons hab (ih _)

theorem forall₂_paginate (h : Forall₂ R as bs) (offset limit : Option Binary64) :
    Forall₂ R (paginate offset limit as) (paginate offset limit bs) := by
  simp only [paginate, h.length_eq]
  exact List.forall₂_drop _ (List.forall₂_take _ h)

theorem ends_keepPassing {test : α → Except Cause Bool} {test' : β → Except Cause Bool}
    (h : Forall₂ R as bs) (htest : ∀ a b, R a b → Ends (· = ·) (test a) (test' b)) :
    Ends (Forall₂ R) (keepPassing test as) (keepPassing test' bs) := by
  induction h with
  | nil => exact .ok .nil
  | cons hab _ ih =>
    rw [keepPassing, keepPassing]
    refine (htest _ _ hab).bind fun passes _ hpasses => ih.bind fun kept kept' hkept => ?_
    subst hpasses
    cases passes
    · exact .ok hkept
    · exact .ok (.cons hab hkept)

end RelStore
