/-
Which deletions and updates a database refuses.

A database is satisfied if each value of a referencing column is one of the column that it refers
to. A deletion from a satisfied database is refused exactly if the database would not be satisfied
without the rows, and an update exactly if it would not be with the assigned values in place
(`Reached.restricts`); for updates this takes a table that none of its own columns refers to, as a
value that an update both writes and takes away is not noticed (`Strands`).

The checks ask for the values that go, and find rows by what they held before. That nothing is
refused without need rests on keys: once a value has gone from one row, no other row has it.
-/
import RelStore.Proofs.Reached
import RelStore.Proofs.Table.Acceptance

namespace RelStore

open Text (sameName)

namespace Database

open Table (pendingOf updated assign)

variable {db other : Database} {table written x y : Table} {column key : Column} {name : String}
  {ids : List Nat} {assignments : List (String × Value)} {changes : List (Column × Value)}
  {rows : List StoredRow} {pending : List PendingUpdate}

/-- A reference that is still held without some rows lets them go. -/
theorem Held.checkDeleteOf (h : db.Sound) (hl : db.Link x column table key) {ref : Reference}
    (hfound : table.column? ref.column = some key)
    (hheld : Held (exchanged table (table.delete ((table.rowsOf ids).map (·.id))).1 x) column
      (table.delete ((table.rowsOf ids).map (·.id))).1 key) :
    checkDeleteOf table (table.rowsOf ids) ⟨x, column, ref⟩ = .ok () := by
  refine (hl.checkDeleteOf_eq_ok h hfound).2 fun target ht hv stored hs hk => ?_
  have hinv := h.tables table hl.target_mem
  obtain ⟨hkm, hkey, -⟩ := hl.key_spec h
  by_contra hstays
  -- a row that stays holds the value, so that another row than the deleted one has it
  have hrow : stored ∈ (exchanged table (table.delete ((table.rowsOf ids).map (·.id))).1 x).rows := by
    rw [exchanged]
    split
    next he =>
      rw [Table.rows_delete, List.mem_filter]
      exact ⟨he ▸ hs, by simpa [he] using hstays⟩
    next => exact hs
  obtain ⟨other, ho, hother⟩ := hheld stored hrow (Value.ne_none_of_key_eq hk.symm hv)
  rw [Table.rows_delete, List.mem_filter] at ho
  have htm := ((Table.mem_rowsOf hinv.ascending).1 ht).1
  have hid := hinv.apart key hkm hkey target htm other ho.1 hv (hk.symm.trans hother.symm)
  have hgone : other.id ∈ (table.rowsOf ids).map (·.id) := hid ▸ List.mem_map_of_mem ht
  simp only [List.contains_iff_mem.2 hgone, Bool.not_true, Bool.false_eq_true, and_false] at ho

/-- A reference of another table that is held after an update lets the values go that the update
takes out of the key. -/
theorem Held.checkUpdateOf (h : db.Sound) (hl : db.Link x column table key) {ref : Reference}
    (hfound : table.column? ref.column = some key)
    (hprep : table.Prepared (table.rowsOf ids) changes)
    (hheld : Held x column (table.applyUpdate ((table.rowsOf ids).map (pendingOf changes))) key) :
    checkUpdateOf table ((table.rowsOf ids).map (pendingOf changes)) (changes.map (·.1))
      ⟨x, column, ref⟩ = .ok () := by
  obtain ⟨hkm, hkey, -⟩ := hl.key_spec h
  refine (hl.checkUpdateOf_eq_ok h hfound hprep.mem_columns).2 fun _ change hm hv hgoes stored hs hk => ?_
  obtain ⟨gone, hgone, rfl⟩ := List.mem_map.1 hm
  have hkept := hheld stored hs (Value.ne_none_of_key_eq hk.symm hv)
  rw [hk] at hkept
  exact absurd hkept (not_hasKey_of_gone (h.tables table hl.target_mem) hprep hkm hkey hgone hv
    fun he => hgoes he.symm)

end Database

end RelStore
