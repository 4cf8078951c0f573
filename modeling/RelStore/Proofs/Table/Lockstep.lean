/-
Writes to matching tables.

A write is prepared in lockstep: the columns and values are those of the statement, and the keys
are checked against alike rows. What is prepared of twins leads from matching tables to matching
tables (`Matches.applyInsert`, `Matches.applyUpdate`, `Matches.delete`).
-/
import RelStore.Proofs.Table.Matches

namespace RelStore.Table

open Sql
open List (Forall₂)

variable {table other : Table} {s t : StoredRow} {row row' : Row} {ss ts : List StoredRow}
  {assignments : List (String × Value)} {changes : List (Column × Value)}

/-! ## Inserting -/

/-- Why values are too many or too few. -/
def arity (table : Table) (listed : Option (List String)) (columns values : Nat) : Cause :=
  if listed.isSome then .listedArity table.name columns values
  else .tableArity table.name columns values

theorem prepareInsert_eq (table : Table) (values : List Value) (listed : Option (List String)) :
    table.prepareInsert values listed = table.targets listed >>= fun columns =>
      if values.length ≠ columns.length then
        .error (table.arity listed columns.length values.length)
      else table.fillRow [] table.blank (columns.zip values) >>= fun row =>
        table.checkKeys [] row >>= fun _ => .ok row := by
  cases listed with
  | none =>
    simp only [prepareInsert, targets]
    refine bind_congr fun columns => ?_
    split
    · rfl
    · rfl
  | some names =>
    simp only [prepareInsert, targets]
    refine bind_congr fun columns => ?_
    split
    · rfl
    · rfl

/-- What is prepared for the changes that are known. -/
theorem Invariant.prepared_of_changes (h : table.Invariant) {ids : List Nat}
    {pending : List PendingUpdate} (hp : table.prepareUpdate ids assignments = .ok pending)
    (hchanges : table.checkAssignments assignments = .ok changes)
    (hrows : table.rowsOf ids = ss) : table.Prepared ss changes := by
  obtain ⟨found, hfound, -, hprepared⟩ := h.prepared hp
  obtain rfl := Except.ok.inj (hchanges.symm.trans hfound)
  rwa [hrows] at hprepared

namespace Matches

theorem checkType_eq (h : table.Matches other) : table.checkType = other.checkType := by
  funext column value
  rw [checkType, checkType, h.name_eq]

theorem fillRow_eq (h : table.Matches other) (assigned : List String) (row : Row)
    (pairs : List (Column × Value)) :
    table.fillRow assigned row pairs = other.fillRow assigned row pairs := by
  induction pairs generalizing assigned row with
  | nil => rfl
  | cons pair rest ih =>
    rw [fillRow, fillRow, h.name_eq, h.checkType_eq]
    simp only [ih]

theorem targets_eq (h : table.Matches other) (listed : Option (List String)) :
    table.targets listed = other.targets listed := by
  cases listed with
  | none => exact congrArg Except.ok h.columns_eq
  | some names => exact congrArg names.mapM (funext h.requireColumn_eq)

theorem excludes_nil : Excludes table other [] [] :=
  fun _ _ _ => iff_of_false List.not_mem_nil List.not_mem_nil

theorem ends_prepareInsert (h : table.Matches other) (values : List Value)
    (listed : Option (List String)) :
    Ends (· = ·) (table.prepareInsert values listed) (other.prepareInsert values listed) := by
  have harity : table.arity listed = other.arity listed := by
    funext columns values
    rw [arity, arity, h.name_eq]
  have hblank : table.blank = other.blank := by rw [blank, blank, h.columns_eq]
  rw [prepareInsert_eq, prepareInsert_eq, h.targets_eq, harity, hblank]
  refine (Ends.of_eq rfl).bind fun columns _ hcolumns => ?_
  subst hcolumns
  split
  · exact .error (.refl _)
  · rw [h.fillRow_eq]
    refine (Ends.of_eq rfl).bind fun row _ hrow => ?_
    subst hrow
    exact (h.ends_checkKeys excludes_nil (.refl row)).bind fun _ _ _ => .ok rfl

theorem applyInsert (h : table.Matches other) {values : List Value}
    {listed : Option (List String)} (hrow : table.prepareInsert values listed = .ok row)
    (hrow' : other.prepareInsert values listed = .ok row') (halike : row.Alike row') :
    (table.applyInsert row).Matches (other.applyInsert row') where
  left := by
    obtain ⟨hadmits, hapart⟩ := h.left.admits_of_prepareInsert hrow
    exact h.left.applyInsert hadmits hapart
  right := by
    obtain ⟨hadmits, hapart⟩ := h.right.admits_of_prepareInsert hrow'
    exact h.right.applyInsert hadmits hapart
  schema := h.schema
  rows := List.rel_append h.rows (.cons halike .nil)

/-! ## Updating -/

theorem checkAssignments_eq (h : table.Matches other) (assignments : List (String × Value)) :
    table.checkAssignments assignments = other.checkAssignments assignments := by
  rw [checkAssignments, checkAssignments, funext h.requireColumn_eq, h.checkType_eq]

theorem alike_assign (changes : List (Column × Value)) (h : row.Alike row') :
    (assign changes row).Alike (assign changes row') := by
  induction changes generalizing row row' with
  | nil => exact h
  | cons change rest ih => exact ih (h.set (.refl change.2) change.1.name)

/-- Rows of matching tables that are looked up by their ids. -/
theorem rowsOf_map_id (h : table.Matches other) (hss : ss.Sublist table.rows)
    (hts : ts.Sublist other.rows) :
    table.rowsOf (ss.map (·.id)) = ss ∧ other.rowsOf (ts.map (·.id)) = ts :=
  ⟨Table.rowsOf_map_id h.left.ascending hss, Table.rowsOf_map_id h.right.ascending hts⟩

theorem excludes (h : table.Matches other) (hboth : Forall₂ (Twin table other) ss ts) :
    Excludes table other (ss.map (·.id)) (ts.map (·.id)) :=
  fun _ _ hst => h.id_mem_iff hst hboth

/-- The same change of twins. -/
def TwinChange (table other : Table) (changes : List (Column × Value)) (p q : PendingUpdate) :
    Prop :=
  ∃ s t, Twin table other s t ∧ p = pendingOf changes s ∧ q = pendingOf changes t

theorem twinChanges (hboth : Forall₂ (Twin table other) ss ts)
    (changes : List (Column × Value)) : Forall₂ (TwinChange table other changes)
      (ss.map (pendingOf changes)) (ts.map (pendingOf changes)) :=
  List.forall₂_map_left_iff.2 (List.forall₂_map_right_iff.2
    (hboth.imp fun s t hst => ⟨s, t, hst, rfl, rfl⟩))

/-- **An update is prepared in lockstep**: it makes the same changes of twins. -/
theorem ends_prepareUpdate (h : table.Matches other) (hboth : Forall₂ (Twin table other) ss ts)
    (hss : ss.Sublist table.rows) (hts : ts.Sublist other.rows)
    (assignments : List (String × Value)) :
    Ends (fun pending pending' => ∃ changes, other.checkAssignments assignments = .ok changes ∧
        pending = ss.map (pendingOf changes) ∧ pending' = ts.map (pendingOf changes))
      (table.prepareUpdate (ss.map (·.id)) assignments)
      (other.prepareUpdate (ts.map (·.id)) assignments) := by
  obtain ⟨hrows, hrows'⟩ := h.rowsOf_map_id hss hts
  unfold prepareUpdate
  rw [h.checkAssignments_eq, hrows, hrows']
  cases hchanges : other.checkAssignments assignments with
  | error cause => exact .error (.refl cause)
  | ok changes =>
    have hmade : Ends (fun pending pending' => pending = ss.map (pendingOf changes) ∧
          pending' = ts.map (pendingOf changes))
        (ss.mapM fun target => do
          table.checkKeys (ss.map (·.id)) (assign changes target.row)
          return pendingOf changes target)
        (ts.mapM fun target => do
          other.checkKeys (ts.map (·.id)) (assign changes target.row)
          return pendingOf changes target) := by
      refine ((Ends.mapM (S := fun _ _ => True) hboth fun s t hst => ?_).and_ok
        (fun _ h => (mapM_checked_eq_ok.1 h).2) fun _ h => (mapM_checked_eq_ok.1 h).2).mono fun _ _ h => h.2
      refine (h.ends_checkKeys (h.excludes hboth) (alike_assign changes hst.alike)).bind ?_
      exact fun _ _ _ => .ok trivial
    refine hmade.bind fun pending pending' ⟨hpending, hpending'⟩ => ?_
    have hlength : pending.length = pending'.length := by
      rw [hpending, hpending', List.length_map, List.length_map, hboth.length_eq]
    rw [hlength]
    split
    · split
      next column value _ =>
        rw [duplicate, duplicate, h.name_eq]
        exact .error (.refl _)
      next => exact .ok ⟨changes, rfl, hpending, hpending'⟩
    · exact .ok ⟨changes, rfl, hpending, hpending'⟩

theorem applyUpdate (h : table.Matches other) (hboth : Forall₂ (Twin table other) ss ts)
    (hprepared : table.Prepared ss changes) (hprepared' : other.Prepared ts changes) :
    (table.applyUpdate (ss.map (pendingOf changes))).Matches
      (other.applyUpdate (ts.map (pendingOf changes))) where
  left := h.left.applyUpdate hprepared
  right := h.right.applyUpdate hprepared'
  schema := sameFrame_applyUpdate.schema.trans (h.schema.trans sameFrame_applyUpdate.schema.symm)
  rows := by
    rw [rows_applyUpdate h.left.ascending hprepared.stored,
      rows_applyUpdate h.right.ascending hprepared'.stored, List.forall₂_map_left_iff,
      List.forall₂_map_right_iff]
    refine h.twins.imp fun s t hst => ?_
    simp only [updated, List.rel_mem h.biUnique_twin hst hboth]
    split
    · exact alike_assign changes hst.alike
    · exact hst.alike

/-! ## Deleting -/

/-- **Deleting twins** leaves matching tables, and as many rows are gone. -/
theorem delete (h : table.Matches other) (hboth : Forall₂ (Twin table other) ss ts) :
    (table.delete (ss.map (·.id))).1.Matches (other.delete (ts.map (·.id))).1 ∧
      (table.delete (ss.map (·.id))).2 = (other.delete (ts.map (·.id))).2 := by
  have hrows : Forall₂ (fun s t => s.row.Alike t.row) (table.delete (ss.map (·.id))).1.rows
      (other.delete (ts.map (·.id))).1.rows := by
    rw [rows_delete, rows_delete]
    refine (forall₂_filter h.twins fun s t hst => ?_).imp fun _ _ hst => hst.alike
    rw [Bool.eq_iff_iff]
    simpa using not_congr (h.id_mem_iff hst hboth)
  refine ⟨⟨h.left.delete _, h.right.delete _, ?_, hrows⟩, ?_⟩
  · exact (sameFrame_delete _).schema.trans (h.schema.trans (sameFrame_delete _).schema.symm)
  · have hcount (table : Table) (ids : List Nat) :
        (table.delete ids).2 = table.rows.length - (table.delete ids).1.rows.length := rfl
    rw [hcount, hcount, h.rows.length_eq, hrows.length_eq]

end Matches

end RelStore.Table
