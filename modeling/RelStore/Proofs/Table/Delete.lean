/-
Deleting rows keeps the invariant of a table. The rows of the given ids go, from the indexes too,
and an id that no row has, or has no more, changes nothing.
-/
import RelStore.Proofs.Table.Update

namespace RelStore.Table

variable {table : Table} {ids : List Nat}

theorem rows_deleteRow (id : Nat) :
    (table.deleteRow id).rows = table.rows.filter (·.id != id) := by
  simp only [deleteRow]
  cases hr : table.row? id with
  | some stored => rfl
  | none =>
    refine (List.filter_eq_self.2 fun stored hs => ?_).symm
    simpa using row?_eq_none_iff.1 hr stored hs

theorem sameFrame_deleteRow (id : Nat) : table.SameFrame (table.deleteRow id) := by
  simp only [deleteRow]
  cases table.row? id with
  | none => exact ⟨rfl, rfl, rfl, rfl⟩
  | some stored => exact ⟨rfl, rfl, rfl, by simp [Index.remove, Function.comp_def]⟩

/-- A row that goes takes its entries out of the indexes. -/
theorem Represented.deleteRow (h : table.Represented)
    (hasc : (table.rows.map (·.id)).Pairwise (· < ·)) (id : Nat) :
    (table.deleteRow id).Represented := by
  intro index hi
  have hrows := table.rows_deleteRow id
  simp only [Table.deleteRow] at hi hrows ⊢
  cases hr : table.row? id with
  | none =>
    rw [hr] at hi
    exact h index hi
  | some gone =>
    rw [hr] at hi
    obtain ⟨old, ho, rfl⟩ := List.mem_map.1 hi
    obtain ⟨hgone, rfl⟩ := (row?_eq_some_iff hasc).1 hr
    refine ((h old ho).remove _ _).congr fun id v => ?_
    simp only [Holds, Index.remove, List.mem_filter, bne_iff_ne]
    constructor
    · rintro ⟨⟨stored, hs, rfl, hk⟩, hne⟩
      refine ⟨stored, ⟨hs, fun hid => hne ⟨hid, ?_⟩⟩, rfl, hk⟩
      rw [← hk, eq_of_id_eq hasc hs hgone hid]
    · rintro ⟨stored, ⟨hs, hne⟩, rfl, hk⟩
      exact ⟨⟨stored, hs, rfl, hk⟩, fun e => hne e.1⟩

theorem Invariant.deleteRow (h : table.Invariant) (id : Nat) : (table.deleteRow id).Invariant := by
  have hframe := table.sameFrame_deleteRow id
  have hsub : (table.deleteRow id).rows.Sublist table.rows := by
    rw [rows_deleteRow]
    exact List.filter_sublist
  constructor
  case shaped => exact hframe.shaped h.shaped
  case ascending => exact h.ascending.sublist (hsub.map _)
  case fresh => exact fun stored hs => hframe.nextId ▸ h.fresh stored (hsub.subset hs)
  case admitted => exact fun stored hs => hframe.admits (h.admitted stored (hsub.subset hs))
  case apart =>
    rw [hframe.columns]
    intro column hc hk a ha b hb hv he
    exact h.apart column hc hk a (hsub.subset ha) b (hsub.subset hb) hv he
  case represented => exact Represented.deleteRow h.represented h.ascending id

theorem sameFrame_delete (ids : List Nat) : table.SameFrame (table.delete ids).1 := by
  refine foldl_keeps ⟨rfl, rfl, rfl, rfl⟩ ?_
  intro state ⟨hs, hk, hn, hi⟩ id _
  have hframe := state.sameFrame_deleteRow id
  exact ⟨hframe.schema.trans hs, hframe.primaryKey.trans hk, hframe.nextId.trans hn,
    hframe.indexes.trans hi⟩

theorem Invariant.delete (h : table.Invariant) (ids : List Nat) : (table.delete ids).1.Invariant :=
  foldl_keeps h fun _ hs id _ => hs.deleteRow id

/-- The rows that are left after a deletion. -/
theorem rows_delete :
    (table.delete ids).1.rows = table.rows.filter fun stored => !ids.contains stored.id := by
  simp only [delete]
  induction ids generalizing table with
  | nil => simp
  | cons id rest ih =>
    rw [List.foldl_cons, ih, rows_deleteRow, List.filter_filter]
    refine List.filter_congr fun stored _ => ?_
    simp only [List.contains_cons, Bool.not_or, Bool.and_comm, bne]

end RelStore.Table
