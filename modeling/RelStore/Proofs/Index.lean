/-
What an index holds: for each key the ids of the rows that have it.

`Represents` says of which relation between ids and keys an index is the table. Adding and removing
change the relation at one pair (`Represents.add`, `Represents.remove`), and what is read off an
index is read off the relation: `lookup` gives the ids in ascending order, `has` tells whether
there are any, and `values` has one value for each key that has some.
-/
import Mathlib.Data.List.Basic
import RelStore.Index

namespace RelStore.Index

/-! ## Ids in ascending order -/

theorem insertId_ne_nil (id : Nat) (ids : List Nat) : insertId id ids ≠ [] := by
  cases ids with
  | nil => simp [insertId]
  | cons first rest =>
    simp only [insertId]
    split
    · simp
    · split <;> simp

theorem pairwise_insertId {id : Nat} {ids : List Nat} (h : ids.Pairwise (· < ·)) :
    (insertId id ids).Pairwise (· < ·) := by
  induction ids with
  | nil => simp [insertId]
  | cons first rest ih =>
    obtain ⟨hfirst, hrest⟩ := List.pairwise_cons.1 h
    simp only [insertId]
    split
    next hlt =>
      refine List.pairwise_cons.2 ⟨fun other ho => ?_, h⟩
      rcases List.mem_cons.1 ho with rfl | ho
      · exact hlt
      · exact Nat.lt_trans hlt (hfirst other ho)
    next hge =>
      split
      · exact h
      next hne =>
        refine List.pairwise_cons.2 ⟨fun other ho => ?_, ih hrest⟩
        rcases mem_insertId.1 ho with rfl | ho
        · omega
        · exact hfirst other ho

/-! ## Entries -/

/-- The ids that entries have for a value. -/
def idsOf (entries : List IndexEntry) (v : Value) : List Nat :=
  ((entries.find? fun entry => entry.value.key = v.key).map (·.ids)).getD []

def keys (entries : List IndexEntry) : List Key := entries.map (·.value.key)

/-- Different entries have different keys, and each has ids in ascending order. -/
structure WellFormed (entries : List IndexEntry) : Prop where
  keys : (keys entries).Nodup
  ascending : ∀ entry ∈ entries, entry.ids.Pairwise (· < ·)
  inhabited : ∀ entry ∈ entries, entry.ids ≠ []

variable {entries : List IndexEntry} {v w : Value} {id other : Nat}

theorem idsOf_cons (entry : IndexEntry) :
    idsOf (entry :: entries) w = if entry.value.key = w.key then entry.ids else idsOf entries w := by
  by_cases h : entry.value.key = w.key <;> simp [idsOf, h]

theorem idsOf_eq_nil (h : w.key ∉ keys entries) : idsOf entries w = [] := by
  induction entries with
  | nil => rfl
  | cons entry rest ih =>
    simp only [keys, List.map_cons, List.mem_cons, not_or] at h
    rw [idsOf_cons, if_neg fun e => h.1 e.symm]
    exact ih h.2

theorem idsOf_eq_of_mem (hk : (keys entries).Nodup) {entry : IndexEntry} (h : entry ∈ entries)
    (hw : entry.value.key = w.key) : idsOf entries w = entry.ids := by
  induction entries with
  | nil => cases h
  | cons first rest ih =>
    obtain ⟨hfirst, hrest⟩ := List.nodup_cons.1 hk
    rw [idsOf_cons]
    rcases List.mem_cons.1 h with rfl | h
    · rw [if_pos hw]
    · have hne : first.value.key ≠ w.key := by
        rw [← hw]
        exact fun e => hfirst (List.mem_map.2 ⟨entry, h, e.symm⟩)
      rw [if_neg hne, ih hrest h]

theorem exists_entry_of_idsOf_ne_nil (h : idsOf entries w ≠ []) :
    ∃ entry ∈ entries, entry.value.key = w.key ∧ idsOf entries w = entry.ids := by
  induction entries with
  | nil => exact absurd rfl h
  | cons first rest ih =>
    rw [idsOf_cons] at h ⊢
    by_cases hk : first.value.key = w.key
    · exact ⟨first, List.mem_cons_self, hk, if_pos hk⟩
    · rw [if_neg hk] at h ⊢
      obtain ⟨entry, hm, he⟩ := ih h
      exact ⟨entry, List.mem_cons_of_mem _ hm, he⟩

theorem mem_idsOf_addEntry :
    other ∈ idsOf (addEntry v id entries) w ↔
      other ∈ idsOf entries w ∨ (other = id ∧ w.key = v.key) := by
  induction entries with
  | nil => by_cases h : v.key = w.key <;> simp [addEntry, idsOf, h, eq_comm]
  | cons entry rest ih =>
    by_cases hv : entry.value.key = v.key
    · simp only [addEntry, hv, if_true, idsOf_cons]
      by_cases hw : v.key = w.key
      · simp [hw, mem_insertId, or_comm]
      · simp [hw, eq_comm]
    · simp only [addEntry, hv, if_false, idsOf_cons]
      by_cases hw : entry.value.key = w.key
      · have hne : ¬ w.key = v.key := fun e => hv (hw.trans e)
        simp [hw, hne]
      · simp [hw, ih]

theorem mem_idsOf_removeEntry (hk : (keys entries).Nodup) :
    other ∈ idsOf (removeEntry v id entries) w ↔
      other ∈ idsOf entries w ∧ ¬ (other = id ∧ w.key = v.key) := by
  induction entries with
  | nil => simp [removeEntry, idsOf]
  | cons entry rest ih =>
    obtain ⟨hentry, hrest⟩ := List.nodup_cons.1 hk
    by_cases hv : entry.value.key = v.key
    · simp only [removeEntry, hv, if_true]
      split
      next hempty =>
        rw [idsOf_cons, hv]
        by_cases hw : v.key = w.key
        · -- the entry goes, and there is no other of its key
          have hgone : idsOf rest w = [] := idsOf_eq_nil (by rwa [← hw, ← hv])
          have hall : ∀ i ∈ entry.ids, i = id := by simpa using hempty
          simp only [hgone, List.not_mem_nil, hw, if_true, and_true, false_iff, not_and, not_not]
          exact hall other
        · simp [hw, eq_comm]
      next =>
        simp only [idsOf_cons, hv]
        by_cases hw : v.key = w.key
        · simp [hw]
        · simp [hw, eq_comm]
    · simp only [removeEntry, hv, if_false, idsOf_cons]
      by_cases hw : entry.value.key = w.key
      · have hne : ¬ w.key = v.key := fun e => hv (hw.trans e)
        simp [hw, hne]
      · simp [hw, ih hrest]

theorem keys_eq_map : keys entries = (entries.map (·.value)).map Value.key := by
  rw [List.map_map]
  rfl

theorem values_addEntry :
    (addEntry v id entries).map (·.value) =
      if v.key ∈ keys entries then entries.map (·.value) else entries.map (·.value) ++ [v] := by
  induction entries with
  | nil => rfl
  | cons entry rest ih =>
    by_cases hv : entry.value.key = v.key
    · simp [addEntry, keys, hv]
    · have hne : ¬ v.key = entry.value.key := fun e => hv e.symm
      simp only [addEntry, hv, if_false, keys, List.map_cons, List.mem_cons, hne, false_or] at ih ⊢
      rw [ih, List.cons_append]
      exact (apply_ite (List.cons _) _ _ _)

theorem keys_addEntry :
    keys (addEntry v id entries) =
      if v.key ∈ keys entries then keys entries else keys entries ++ [v.key] := by
  rw [keys_eq_map, values_addEntry, apply_ite (List.map Value.key), List.map_append, ← keys_eq_map]
  rfl

theorem values_removeEntry_sublist :
    ((removeEntry v id entries).map (·.value)).Sublist (entries.map (·.value)) := by
  induction entries with
  | nil => exact .slnil
  | cons entry rest ih =>
    simp only [removeEntry]
    split
    · split
      · exact List.sublist_cons_self _ _
      · exact .refl _
    · exact ih.cons_cons _

theorem keys_removeEntry_sublist : (keys (removeEntry v id entries)).Sublist (keys entries) := by
  rw [keys_eq_map, keys_eq_map]
  exact values_removeEntry_sublist.map _

theorem forall_mem_addEntry {P : List Nat → Prop} (hnew : P [id])
    (hstep : ∀ ids, P ids → P (insertId id ids)) (h : ∀ entry ∈ entries, P entry.ids) :
    ∀ entry ∈ addEntry v id entries, P entry.ids := by
  induction entries with
  | nil => simpa [addEntry] using hnew
  | cons entry rest ih =>
    obtain ⟨hentry, hrest⟩ := List.forall_mem_cons.1 h
    simp only [addEntry]
    split
    · exact List.forall_mem_cons.2 ⟨hstep _ hentry, hrest⟩
    · exact List.forall_mem_cons.2 ⟨hentry, ih hrest⟩

theorem forall_mem_removeEntry {P : List Nat → Prop}
    (hstep : ∀ ids, P ids → ids.filter (· != id) ≠ [] → P (ids.filter (· != id)))
    (h : ∀ entry ∈ entries, P entry.ids) : ∀ entry ∈ removeEntry v id entries, P entry.ids := by
  induction entries with
  | nil => simp [removeEntry]
  | cons entry rest ih =>
    obtain ⟨hentry, hrest⟩ := List.forall_mem_cons.1 h
    simp only [removeEntry]
    split
    · split
      · exact hrest
      next hne => exact List.forall_mem_cons.2 ⟨hstep _ hentry (by simpa using hne), hrest⟩
    · exact List.forall_mem_cons.2 ⟨hentry, ih hrest⟩

theorem WellFormed.add (h : WellFormed entries) : WellFormed (addEntry v id entries) where
  keys := by
    rw [keys_addEntry]
    split
    · exact h.keys
    next hnew =>
      refine List.nodup_append.2 ⟨h.keys, by simp, fun a ha b hb e => ?_⟩
      rw [List.mem_singleton.1 hb] at e
      exact hnew (e ▸ ha)
  ascending :=
    forall_mem_addEntry (List.pairwise_singleton _ _) (fun _ => pairwise_insertId) h.ascending
  inhabited :=
    forall_mem_addEntry (P := (· ≠ [])) (List.cons_ne_nil _ _)
      (fun ids _ => insertId_ne_nil id ids) h.inhabited

theorem WellFormed.remove (h : WellFormed entries) : WellFormed (removeEntry v id entries) where
  keys := h.keys.sublist keys_removeEntry_sublist
  ascending := forall_mem_removeEntry (fun _ ha _ => ha.filter _) h.ascending
  inhabited := forall_mem_removeEntry (P := (· ≠ [])) (fun _ _ hne => hne) h.inhabited

/-! ## Indexes as relations -/

/-- An index has exactly the ids for a key that stand in a relation to it. -/
structure Represents (index : Index) (holds : Nat → Key → Prop) : Prop where
  wellFormed : WellFormed index.entries
  mem_lookup : ∀ v id, id ∈ index.lookup v ↔ holds id v.key

variable {index : Index} {holds : Nat → Key → Prop}

theorem Represents.empty (column : String) : (empty column).Represents fun _ _ => False where
  wellFormed := ⟨List.nodup_nil, by simp [Index.empty], by simp [Index.empty]⟩
  mem_lookup := by simp

theorem Represents.congr {holds' : Nat → Key → Prop} (h : index.Represents holds)
    (hiff : ∀ id v, holds id (Value.key v) ↔ holds' id v.key) : index.Represents holds' where
  wellFormed := h.wellFormed
  mem_lookup v id := (h.mem_lookup v id).trans (hiff id v)

theorem Represents.add (h : index.Represents holds) (v : Value) (id : Nat) :
    (index.add v id).Represents fun other k => holds other k ∨ (other = id ∧ k = v.key) where
  wellFormed := h.wellFormed.add
  mem_lookup w other := mem_idsOf_addEntry.trans (or_congr_left (h.mem_lookup w other))

theorem Represents.remove (h : index.Represents holds) (v : Value) (id : Nat) :
    (index.remove v id).Represents fun other k => holds other k ∧ ¬ (other = id ∧ k = v.key) where
  wellFormed := h.wellFormed.remove
  mem_lookup w other :=
    (mem_idsOf_removeEntry h.wellFormed.keys).trans (and_congr_left' (h.mem_lookup w other))

theorem Represents.pairwise_lookup (h : index.Represents holds) (v : Value) :
    (index.lookup v).Pairwise (· < ·) := by
  change (idsOf index.entries v).Pairwise (· < ·)
  by_cases hnil : idsOf index.entries v = []
  · rw [hnil]
    exact .nil
  · obtain ⟨entry, hm, -, he⟩ := exists_entry_of_idsOf_ne_nil hnil
    rw [he]
    exact h.wellFormed.ascending entry hm

theorem Represents.has_iff (h : index.Represents holds) (v : Value) :
    index.has v = true ↔ ∃ id, holds id v.key := by
  have hhas : index.has v = true ↔ ∃ entry ∈ index.entries, entry.value.key = v.key := by
    simp [has, entry?, List.find?_isSome]
  simp only [hhas, ← h.mem_lookup]
  constructor
  · intro ⟨entry, hm, hk⟩
    obtain ⟨id, hid⟩ := List.exists_mem_of_ne_nil _ (h.wellFormed.inhabited entry hm)
    rw [← idsOf_eq_of_mem h.wellFormed.keys hm hk] at hid
    exact ⟨id, hid⟩
  · intro ⟨id, hid⟩
    obtain ⟨entry, hm, hk, -⟩ := exists_entry_of_idsOf_ne_nil (List.ne_nil_of_mem hid)
    exact ⟨entry, hm, hk⟩

theorem Represents.exists_value_iff (h : index.Represents holds) (v : Value) :
    (∃ w ∈ index.values, w.key = v.key) ↔ ∃ id, holds id v.key := by
  rw [← h.has_iff v]
  simp [has, entry?, List.find?_isSome, values]

theorem Represents.has_iff_lookup_ne_nil (h : index.Represents holds) (v : Value) :
    index.has v = true ↔ index.lookup v ≠ [] := by
  rw [h.has_iff v, ne_eq, List.eq_nil_iff_forall_not_mem, not_forall]
  exact exists_congr fun id => (h.mem_lookup v id).symm.trans not_not.symm

theorem Represents.nodup_values (h : index.Represents holds) :
    (index.values.map Value.key).Nodup := by
  have hkeys := h.wellFormed.keys
  simpa [values, keys, Function.comp_def] using hkeys

/-! ## Values in order -/

theorem has_iff_mem_keys (index : Index) (v : Value) : index.has v = true ↔ v.key ∈ keys index.entries := by
  simp [has, entry?, List.find?_isSome, keys]

/-- A value that an index did not have comes last. -/
theorem values_add (index : Index) (v : Value) (id : Nat) :
    (index.add v id).values = if index.has v then index.values else index.values ++ [v] := by
  simp only [has_iff_mem_keys]
  exact values_addEntry

/-- Of items that differ under `f`, a sublist keeps exactly those it has under `f`. -/
theorem eq_filter_of_sublist {α β : Type} [DecidableEq β] {f : α → β} {left items : List α}
    (h : left.Sublist items) (hitems : (items.map f).Nodup) :
    left = items.filter fun item => f item ∈ left.map f := by
  induction h with
  | slnil => rfl
  | cons item h ih =>
    obtain ⟨hitem, hrest⟩ := List.nodup_cons.1 hitems
    rw [List.filter_cons_of_neg, ← ih hrest]
    simpa using fun hmem => hitem ((h.map f).subset hmem)
  | @cons_cons left items item h ih =>
    obtain ⟨hitem, hrest⟩ := List.nodup_cons.1 hitems
    rw [List.filter_cons_of_pos (by simp)]
    refine congrArg (List.cons item) ((ih hrest).trans (List.filter_congr fun other hmem => ?_))
    have hne : f other ≠ f item := fun heq => hitem (heq ▸ List.mem_map_of_mem hmem)
    simp [hne]

/-- The values that are left keep their order. -/
theorem Represents.values_remove (h : index.Represents holds) (v : Value) (id : Nat) :
    (index.remove v id).values = index.values.filter (index.remove v id).has := by
  have hsub : (index.remove v id).values.Sublist index.values := values_removeEntry_sublist
  refine (eq_filter_of_sublist hsub h.nodup_values).trans (List.filter_congr fun w _ => ?_)
  rw [Bool.eq_iff_iff, decide_eq_true_iff, has_iff_mem_keys, keys_eq_map]
  rfl

end RelStore.Index
