/-
Names that differ in every letter case.

Columns, indexes, tables and databases are found by name in any letter case, as the first with
such a name. Where names differ in every letter case there is only one (`find?_sameName`).
-/
import Mathlib.Data.List.Nodup
import RelStore.Text.Case

namespace RelStore

open Text (lower sameName)

/-- The names of items differ, in every letter case. -/
def DistinctNames {α : Type} (name : α → String) (items : List α) : Prop :=
  (items.map fun item => lower (name item)).Nodup

theorem sameName_iff {a b : String} : sameName a b = true ↔ lower a = lower b := by
  simp [sameName]

theorem sameName_congr {a b : String} (h : sameName a b = true) (c : String) :
    sameName c a = sameName c b := by
  rw [Bool.eq_iff_iff, sameName_iff, sameName_iff, sameName_iff.1 h]

theorem sameName_congr_left {a b : String} (h : sameName a b = true) (c : String) :
    sameName a c = sameName b c := by
  rw [Text.sameName_comm a, Text.sameName_comm b, sameName_congr h]

namespace DistinctNames

variable {α : Type} {name : α → String} {items : List α} {a b : α} {n : String}

theorem cons_iff : DistinctNames name (a :: items) ↔
    (∀ b ∈ items, sameName (name b) (name a) = false) ∧ DistinctNames name items := by
  simp only [DistinctNames, List.map_cons, List.nodup_cons, List.mem_map, not_exists, not_and,
    sameName, beq_eq_false_iff_ne, ne_eq]

theorem append_iff {others : List α} : DistinctNames name (items ++ others) ↔
    DistinctNames name items ∧ DistinctNames name others ∧
      ∀ a ∈ items, ∀ b ∈ others, sameName (name a) (name b) = false := by
  simp only [DistinctNames, List.map_append, List.nodup_append, List.mem_map, sameName,
    beq_eq_false_iff_ne, ne_eq, forall_exists_index, and_imp, forall_apply_eq_imp_iff₂]

/-- One more item may come at the end if none has its name. -/
theorem concat (h : DistinctNames name items)
    (hnew : ∀ b ∈ items, sameName (name b) (name a) = false) : DistinctNames name (items ++ [a]) := by
  refine append_iff.2 ⟨h, List.nodup_singleton _, fun b hb other hother => ?_⟩
  rw [List.mem_singleton.1 hother]
  exact hnew b hb

theorem sublist {others : List α} (h : DistinctNames name items) (hs : others.Sublist items) :
    DistinctNames name others :=
  List.Nodup.sublist (hs.map _) h

/-- Items of one name are one item. -/
theorem eq_of_sameName (h : DistinctNames name items) (ha : a ∈ items) (hb : b ∈ items)
    (hab : sameName (name a) (name b) = true) : a = b :=
  List.inj_on_of_nodup_map h ha hb (sameName_iff.1 hab)

theorem eq_of_name_eq (h : DistinctNames name items) (ha : a ∈ items) (hb : b ∈ items)
    (hab : name a = name b) : a = b :=
  h.eq_of_sameName ha hb (hab ▸ Text.sameName_refl _)

theorem find?_eq_some_iff (h : DistinctNames name items) :
    items.find? (fun item => sameName (name item) n) = some a ↔
      a ∈ items ∧ sameName (name a) n = true := by
  constructor
  · intro hf
    exact ⟨List.mem_of_find?_eq_some hf, by simpa using List.find?_some hf⟩
  · intro ⟨ha, hn⟩
    obtain ⟨b, hb⟩ : ∃ b, items.find? (fun item => sameName (name item) n) = some b :=
      Option.isSome_iff_exists.1 (List.find?_isSome.2 ⟨a, ha, hn⟩)
    have hbn : sameName (name b) n = true := by simpa using List.find?_some hb
    have hab : a = b := h.eq_of_sameName ha (List.mem_of_find?_eq_some hb)
      (Text.sameName_trans hn (Text.sameName_comm _ _ ▸ hbn))
    rw [hb, hab]

/-- An item may be put in the place of the one with its name. -/
theorem replace (h : DistinctNames name items) (item : α) : DistinctNames name
    (items.map fun other => if sameName (name other) (name item) then item else other) := by
  have hnames : (items.map fun other =>
      if sameName (name other) (name item) then item else other).map (fun item => lower (name item)) =
      items.map fun item => lower (name item) := by
    rw [List.map_map]
    refine List.map_congr_left fun other _ => ?_
    rw [Function.comp_apply]
    split
    next hsame => exact (sameName_iff.1 hsame).symm
    next => rfl
  rwa [DistinctNames, hnames]

theorem nodup_names (h : DistinctNames name items) : (items.map name).Nodup :=
  List.Nodup.of_map lower (by simpa [DistinctNames, Function.comp_def] using h)

end DistinctNames

end RelStore
