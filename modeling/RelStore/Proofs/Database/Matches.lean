/-
Databases of matching tables.

Matching databases have matching tables in one order (`Matches`). Checks between tables ask which
rows hold a value, and after an update or a deletion which rows still do, so that matching
databases are checked and written in lockstep too.
-/
import RelStore.Proofs.Database.Update
import RelStore.Proofs.Table.Lockstep

namespace RelStore

open List (Forall₂)
open Text (sameName)

namespace Database

variable {db other : Database} {table table' : Table} {name : String} {r r' : Referrer}
  {ss ts : List StoredRow} {changes : List (Column × Value)} {row row' : Row} {v w : Value}

/-- Databases of one name that have matching tables in one order, of different names. -/
structure Matches (db other : Database) : Prop where
  name : db.name = other.name
  distinct : DistinctNames Table.name db.tables
  tables : Forall₂ Table.Matches db.tables other.tables

/-- References of matching tables, to tables of one name. -/
structure RefersAlike (db other : Database) (r r' : Referrer) : Prop where
  left : r.table ∈ db.tables
  right : r'.table ∈ other.tables
  tables : r.table.Matches r'.table
  column : r.column = r'.column
  target : r.target = r'.target

namespace Matches

theorem tableNames_eq (h : db.Matches other) : db.tableNames = other.tableNames :=
  map_eq_map h.tables fun _ _ ht => ht.name_eq

theorem distinct' (h : db.Matches other) : DistinctNames Table.name other.tables := by
  have hdistinct := h.distinct
  rwa [DistinctNames, map_eq_map h.tables fun _ _ ht => by rw [ht.name_eq]] at hdistinct

theorem table? (h : db.Matches other) (name : String) :
    Option.Rel Table.Matches (db.table? name) (other.table? name) :=
  rel_find? h.tables fun _ _ ht => by rw [ht.name_eq]

theorem ends_requireTable (h : db.Matches other) (name : String) :
    Ends (fun table table' => table.Matches table' ∧ db.table? name = some table ∧
      other.table? name = some table') (db.requireTable name) (other.requireTable name) := by
  refine Ends.and_ok ?_ (fun _ => requireTable_eq_ok.1) fun _ => requireTable_eq_ok.1
  have hrel := h.table? name
  rw [requireTable, requireTable, h.name]
  revert hrel
  generalize db.table? name = found, other.table? name = found'
  rintro (ht | _)
  · exact .ok ht
  · exact .error (.refl _)

theorem setTable (h : db.Matches other) (ht : table.Matches table') :
    (db.setTable table).Matches (other.setTable table') where
  name := h.name
  distinct := h.distinct.replace table
  tables := by
    refine List.forall₂_map_left_iff.2 (List.forall₂_map_right_iff.2 (h.tables.imp ?_))
    intro old old' hold
    rw [hold.name_eq, ht.name_eq]
    split
    · exact ht
    · exact hold

/-! ## References -/

theorem referrers (h : db.Matches other) (name : String) :
    Forall₂ (RefersAlike db other) (db.referrers name) (other.referrers name) := by
  have hboth : Forall₂ (fun r r' : Referrer => r.table.Matches r'.table ∧ r.column = r'.column ∧
      r.target = r'.target) (db.referrers name) (other.referrers name) := by
    refine List.rel_flatMap h.tables fun table table' ht => ?_
    have hcolumns : Forall₂ (· = ·) table.columns table'.columns := by
      rw [List.forall₂_eq_eq_eq, ht.columns_eq]
    refine List.rel_filterMap (fun column column' hcolumn => ?_) hcolumns
    obtain rfl : column = column' := hcolumn
    cases column.references with
    | none => exact .none
    | some ref =>
      dsimp only
      split
      · exact .some ⟨ht, rfl, rfl⟩
      · exact .none
  refine (forall₂_and_mem hboth).imp fun r r' ⟨⟨ht, hcolumn, htarget⟩, hr, hr'⟩ => ?_
  exact ⟨(mem_referrers.1 hr).1, (mem_referrers.1 hr').1, ht, hcolumn, htarget⟩

theorem ends_checkReference (h : db.Matches other) (ht : table.Matches table') (column : Column)
    (ref : Reference) : Ends (· = ·) (db.checkReference table column ref)
      (other.checkReference table' column ref) := by
  have htarget : Option.Rel Table.Matches
      (if sameName ref.table table.name then some table else db.table? ref.table)
      (if sameName ref.table table'.name then some table' else other.table? ref.table) := by
    rw [ht.name_eq]
    split
    · exact .some ht
    · exact h.table? _
  unfold checkReference
  revert htarget
  generalize (if sameName ref.table table.name then some table else db.table? ref.table) = target,
    (if sameName ref.table table'.name then some table' else other.table? ref.table) = target'
  rintro (htarget | _)
  · rename_i target target'
    dsimp only
    rw [Table.column?, Table.column?, htarget.schema, ht.name_eq, htarget.name_eq]
    exact .of_eq rfl
  · rw [ht.name_eq]
    exact .of_eq rfl

/-! ## Referenced values -/

theorem holdsValue_eq (ht : table.Matches table') (column : String) (hv : v.Alike w) :
    holdsValue table column v = holdsValue table' column w := by
  rw [holdsValue, holdsValue]
  obtain ⟨hi, hi'⟩ | ⟨index, index', hi, hi', -⟩ := ht.index?_cases column
  · rw [hi, hi']
    refine any_eq_any ht.rows fun s t hst => ?_
    have hget := hst.get? column
    revert hget
    generalize s.row.get? column = x, t.row.get? column = y
    rintro (hxy | _)
    · rename_i x y
      have hkey : x.key = y.key := hxy
      rw [Option.any_some, Option.any_some, hkey, show v.key = w.key from hv]
    · rfl
  · rw [hi, hi']
    exact ht.has_eq hi hi' hv

theorem ends_checkReferenceHeld (h : db.Matches other) (ht : table.Matches table')
    (hrow : row.Alike row') (column : Column) :
    Ends (· = ·) (db.checkReferenceHeld table row column)
      (other.checkReferenceHeld table' row' column) := by
  unfold checkReferenceHeld
  cases column.references with
  | none => exact .of_eq rfl
  | some ref =>
    dsimp only
    rw [(hrow.get column.name).isSome_eq]
    split
    · refine (h.ends_requireTable ref.table).bind fun target target' htarget => ?_
      rw [holdsValue_eq htarget.1 ref.column (hrow.get column.name), ht.name_eq,
        htarget.1.name_eq]
      split
      · exact .error (.danglingReference (hrow.get _) _ _)
      · exact .of_eq rfl
    · exact .of_eq rfl

theorem ends_checkReferencesHeld (h : db.Matches other) (ht : table.Matches table')
    (hrow : row.Alike row') (columns : List Column) :
    Ends (· = ·) (db.checkReferencesHeld table row columns)
      (other.checkReferencesHeld table' row' columns) := by
  refine Ends.forM (R := (· = ·)) (List.forall₂_same.2 fun _ _ => rfl) fun column _ hcolumn => ?_
  exact hcolumn ▸ h.ends_checkReferenceHeld ht hrow column

/-! ## Values that stay referenced -/

/-- A table that goes by the name of a table is this table. -/
theorem eq_of_sameName (h : db.Matches other) (hmem : table ∈ db.tables)
    (hmem' : table' ∈ other.tables) (ht : table.Matches table') (hr : RefersAlike db other r r')
    (hsame : sameName r.table.name table.name = true) : r.table = table ∧ r'.table = table' := by
  refine ⟨h.distinct.eq_of_sameName hr.left hmem hsame, ?_⟩
  rw [hr.tables.name_eq, ht.name_eq] at hsame
  exact h.distinct'.eq_of_sameName hr.right hmem' hsame

theorem afterUpdate_eq {s : StoredRow} (h : table.Invariant) (hsub : ss.Sublist table.rows)
    (hs : s ∈ table.rows) : afterUpdate (ss.map (Table.pendingOf changes)) s.id =
      if s ∈ ss then some (Table.assign changes s.row) else none := by
  rw [afterUpdate, List.find?_map]
  split
  next hmem =>
    obtain ⟨found, hfound⟩ : ∃ found, ss.find? (fun stored => stored.id == s.id) = some found :=
      Option.isSome_iff_exists.1 (List.find?_isSome.2 ⟨s, hmem, by simp⟩)
    have hid : found.id = s.id := by simpa using List.find?_some hfound
    have hmem := hsub.subset (List.mem_of_find?_eq_some hfound)
    rw [Table.eq_of_id_eq h.ascending hmem hs hid] at hfound
    exact congrArg (Option.map PendingUpdate.after) (congrArg (Option.map (Table.pendingOf changes)) hfound)
  next hnot =>
    have hnone : ss.find? (fun stored => stored.id == s.id) = none := by
      refine List.find?_eq_none.2 fun found hfound hid => hnot ?_
      rwa [Table.eq_of_id_eq h.ascending (hsub.subset hfound) hs (by simpa using hid)] at hfound
    exact congrArg (Option.map PendingUpdate.after) (congrArg (Option.map (Table.pendingOf changes)) hnone)

theorem stillHolds_eq (h : db.Matches other) (hmem : table ∈ db.tables)
    (hmem' : table' ∈ other.tables) (ht : table.Matches table')
    (hboth : Forall₂ (Table.Twin table table') ss ts) (hss : ss.Sublist table.rows)
    (hts : ts.Sublist table'.rows) (hr : RefersAlike db other r r')
    (changes : List (Column × Value)) (hv : v.Alike w) {s t : StoredRow} (hst : Table.Twin r.table r'.table s t) :
    stillHolds table (ss.map (Table.pendingOf changes)) r v s.id =
      stillHolds table' (ts.map (Table.pendingOf changes)) r' w t.id := by
  rw [stillHolds, stillHolds, ← hr.tables.name_eq, ← ht.name_eq, ← hr.column]
  by_cases hsame : sameName r.table.name table.name = true
  · obtain ⟨heq, heq'⟩ := h.eq_of_sameName hmem hmem' ht hr hsame
    rw [heq, heq'] at hst
    rw [if_pos hsame, if_pos hsame, afterUpdate_eq ht.left hss hst.left_mem,
      afterUpdate_eq ht.right hts hst.right_mem]
    simp only [List.rel_mem ht.biUnique_twin hst hboth]
    by_cases hin : t ∈ ts
    · have hkey : ((Table.assign changes s.row).get r.column.name).key =
          ((Table.assign changes t.row).get r.column.name).key :=
        (Table.Matches.alike_assign changes hst.alike).get _
      rw [if_pos hin, if_pos hin]
      dsimp only
      rw [hkey, show v.key = w.key from hv]
    · rw [if_neg hin, if_neg hin]
  · rw [if_neg hsame, if_neg hsame]

/-! ## Values that go -/

theorem ends_checkUpdateOf (h : db.Matches other) (hmem : table ∈ db.tables)
    (hmem' : table' ∈ other.tables) (ht : table.Matches table')
    (hboth : Forall₂ (Table.Twin table table') ss ts) (hss : ss.Sublist table.rows)
    (hts : ts.Sublist table'.rows) (changed : List Column) (hr : RefersAlike db other r r') :
    Ends (· = ·) (checkUpdateOf table (ss.map (Table.pendingOf changes)) changed r)
      (checkUpdateOf table' (ts.map (Table.pendingOf changes)) changed r') := by
  unfold checkUpdateOf
  rw [← hr.target, ← hr.column]
  split
  next column _ =>
    obtain ⟨hi, hi'⟩ | ⟨index, index', hi, hi', -⟩ := hr.tables.index?_cases r.column.name
    · rw [hi, hi']
      exact .of_eq rfl
    rw [hi, hi']
    refine Ends.forM (Table.Matches.twinChanges hboth changes) ?_
    rintro _ _ ⟨s, t, hst, rfl, rfl⟩
    have hbefore := hst.get column.name
    have hkey : (s.row.get column.name).key = (t.row.get column.name).key := hbefore
    have hafter : ((Table.assign changes s.row).get column.name).key =
        ((Table.assign changes t.row).get column.name).key :=
      (Table.Matches.alike_assign changes hst.alike).get _
    have hholds := hr.tables.any_lookup_eq hi hi' hbefore fun x y hxy =>
      h.stillHolds_eq hmem hmem' ht hboth hss hts hr changes hbefore hxy
    refine .ite ?_ (.ite ?_ ?_ (.of_eq rfl)) (.of_eq rfl)
    · simp only [Table.pendingOf, ne_eq, Bool.and_eq_true, decide_eq_true_eq, hbefore.isSome_eq,
        hkey, hafter]
      exact and_congr_right fun _ => decide_eq_true_iff.symm
    · exact Bool.eq_iff_iff.1 hholds
    · rw [ht.name_eq, hr.tables.name_eq]
      exact .error (.updatedWhileReferenced hbefore _ _)
  next => exact .of_eq rfl

theorem ends_checkDeleteOf (h : db.Matches other) (hmem : table ∈ db.tables)
    (hmem' : table' ∈ other.tables) (ht : table.Matches table')
    (hboth : Forall₂ (Table.Twin table table') ss ts) (hr : RefersAlike db other r r') :
    Ends (· = ·) (checkDeleteOf table ss r) (checkDeleteOf table' ts r') := by
  unfold checkDeleteOf
  rw [← hr.target, ← hr.column, ht.requireColumn_eq]
  refine (Ends.of_eq rfl).bind fun column _ hcolumn => ?_
  subst hcolumn
  obtain ⟨hi, hi'⟩ | ⟨index, index', hi, hi', -⟩ := hr.tables.index?_cases r.column.name
  · rw [hi, hi']
    exact .of_eq rfl
  rw [hi, hi']
  refine Ends.forM hboth fun s t hst => ?_
  have hvalue := hst.get column.name
  have hremains := hr.tables.any_lookup_eq hi hi' hvalue
    (p := fun id => !sameName r.table.name table.name || !(ss.map (·.id)).contains id)
    (q := fun id => !sameName r'.table.name table'.name || !(ts.map (·.id)).contains id) (by
      intro x y hxy
      rw [← hr.tables.name_eq, ← ht.name_eq]
      by_cases hsame : sameName r.table.name table.name = true
      · obtain ⟨heq, heq'⟩ := h.eq_of_sameName hmem hmem' ht hr hsame
        rw [heq, heq'] at hxy
        rw [hsame, Bool.eq_iff_iff]
        simpa using not_congr (ht.id_mem_iff hxy hboth)
      · rw [Bool.eq_false_iff.2 hsame]
        rfl)
  refine .ite ?_ ?_ (.of_eq rfl)
  · rw [hvalue.isSome_eq]
    rw [Bool.and_eq_true, Bool.and_eq_true, hremains]
  · rw [ht.name_eq, hr.tables.name_eq]
    exact .error (.deletedWhileReferenced hvalue _ _)

/-! ## Schema -/

theorem ends_createTable (h : db.Matches other) (schema : Schema) :
    Ends (fun result result' => result.1.Matches result'.1) (db.createTable schema)
      (other.createTable schema) := by
  have hisSome : (db.table? schema.name).isSome = (other.table? schema.name).isSome := by
    have hrel := h.table? schema.name
    revert hrel
    generalize db.table? schema.name = found, other.table? schema.name = found'
    rintro (_ | _) <;> rfl
  unfold createTable
  rw [hisSome]
  dsimp only
  by_cases hknown : (other.table? schema.name).isSome = true
  · rw [if_pos hknown, if_pos hknown]
    exact .error (.refl _)
  rw [if_neg hknown, if_neg hknown]
  refine ((Ends.of_eq rfl).and_ok (fun _ => id) fun _ => id).bind ?_
  rintro table _ ⟨rfl, hcreate, -⟩
  have ht := (Table.invariant_create hcreate).matches_self
  have hchecks : Ends (· = ·) (table.columns.forM (db.checkColumnReference table))
      (table.columns.forM (other.checkColumnReference table)) := by
    refine Ends.forM (R := (· = ·)) (List.forall₂_same.2 fun _ _ => rfl) fun column _ hcolumn => ?_
    subst hcolumn
    rw [checkColumnReference, checkColumnReference]
    cases column.references with
    | none => exact .of_eq rfl
    | some ref => exact h.ends_checkReference ht column ref
  refine hchecks.bind fun _ _ _ => .ok ⟨h.name, ?_, List.rel_append h.tables (.cons ht .nil)⟩
  obtain ⟨key, -, rfl⟩ := Table.create_eq_ok.1 hcreate
  refine h.distinct.concat fun old hold => Bool.eq_false_iff.2 fun hsame => ?_
  exact hknown (hisSome ▸ List.find?_isSome.2 ⟨old, hold, hsame⟩)

theorem ends_dropTable (h : db.Matches other) (name : String) :
    Ends Matches (db.dropTable name) (other.dropTable name) := by
  refine (h.ends_requireTable name).bind fun table table' ⟨ht, _, _⟩ => ?_
  have hfound := rel_find? (h.referrers table'.name)
    (p := fun r => !sameName r.table.name table'.name)
    (q := fun r => !sameName r.table.name table'.name) fun r r' hr => by rw [hr.tables.name_eq]
  rw [ht.name_eq]
  revert hfound
  generalize (db.referrers table'.name).find? (fun r => !sameName r.table.name table'.name) = found,
    (other.referrers table'.name).find? (fun r => !sameName r.table.name table'.name) = found'
  rintro (hr | _)
  · dsimp only
    rw [hr.tables.name_eq, hr.column]
    exact .error (.refl _)
  · refine .ok ⟨h.name, h.distinct.sublist List.filter_sublist, ?_⟩
    exact forall₂_filter h.tables fun old old' hold => by rw [hold.name_eq]

/-! ## Writes -/

theorem ends_insertRow (h : db.Matches other) (name : String) (values : List Value)
    (listed : Option (List String)) :
    Ends (fun result result' => result.1.Matches result'.1) (db.insertRow name values listed)
      (other.insertRow name values listed) := by
  refine (h.ends_requireTable name).bind fun table table' ⟨ht, _, _⟩ => ?_
  refine ((ht.ends_prepareInsert values listed).and_ok (fun _ => id) fun _ => id).bind ?_
  rintro row _ ⟨rfl, hrow, hrow'⟩
  rw [ht.columns_eq]
  refine (h.ends_checkReferencesHeld ht (.refl row) _).bind fun _ _ _ => .ok ?_
  exact h.setTable (ht.applyInsert hrow hrow' (.refl row))

theorem ends_updateRows (h : db.Matches other) (hfound : db.table? name = some table)
    (hfound' : other.table? name = some table')
    (hboth : Forall₂ (Table.Twin table table') ss ts) (hss : ss.Sublist table.rows)
    (hts : ts.Sublist table'.rows) (assignments : List (String × Value)) :
    Ends (fun result result' => result.1.Matches result'.1 ∧ result.2 = result'.2)
      (db.updateRows name (ss.map (·.id)) assignments)
      (other.updateRows name (ts.map (·.id)) assignments) := by
  refine (h.ends_requireTable name).bind fun found found' ⟨ht, hin, hin'⟩ => ?_
  obtain rfl := Option.some.inj (hfound.symm.trans hin)
  obtain rfl := Option.some.inj (hfound'.symm.trans hin')
  refine ((ht.ends_prepareUpdate hboth hss hts assignments).and_ok (fun _ => id) fun _ => id).bind ?_
  rintro _ _ ⟨⟨changes, hchanges, rfl, rfl⟩, hprepared, hprepared'⟩
  rw [funext ht.requireColumn_eq]
  refine (Ends.of_eq rfl).bind fun changed _ hchanged => ?_
  subst hchanged
  have hrest : Ends (fun result result' => result.1.Matches result'.1 ∧ result.2 = result'.2)
      (do
        (db.referrers table.name).forM
          (checkUpdateOf table (ss.map (Table.pendingOf changes)) changed)
        return (db.setTable (table.applyUpdate (ss.map (Table.pendingOf changes))),
          (ss.map (Table.pendingOf changes)).length))
      (do
        (other.referrers table'.name).forM
          (checkUpdateOf table' (ts.map (Table.pendingOf changes)) changed)
        return (other.setTable (table'.applyUpdate (ts.map (Table.pendingOf changes))),
          (ts.map (Table.pendingOf changes)).length)) := by
    rw [ht.name_eq]
    refine (Ends.forM (h.referrers table'.name) fun r r' hr => ?_).bind fun _ _ _ => .ok ⟨?_, ?_⟩
    · exact h.ends_checkUpdateOf (List.mem_of_find?_eq_some hin) (List.mem_of_find?_eq_some hin') ht
        hboth hss hts changed hr
    · refine h.setTable (ht.applyUpdate hboth ?_ ?_)
      · exact ht.left.prepared_of_changes hprepared (ht.checkAssignments_eq _ ▸ hchanges)
          (ht.rowsOf_map_id hss hts).1
      · exact ht.right.prepared_of_changes hprepared' hchanges (ht.rowsOf_map_id hss hts).2
    · rw [List.length_map, List.length_map, hboth.length_eq]
  refine .ite Iff.rfl ?_ hrest
  refine (Ends.forM (Table.Matches.twinChanges hboth changes) ?_).bind fun _ _ _ => hrest
  rintro _ _ ⟨s, t, hst, rfl, rfl⟩
  exact h.ends_checkReferencesHeld ht (Table.Matches.alike_assign changes hst.alike) changed

theorem ends_deleteRows (h : db.Matches other) (hfound : db.table? name = some table)
    (hfound' : other.table? name = some table')
    (hboth : Forall₂ (Table.Twin table table') ss ts) (hss : ss.Sublist table.rows)
    (hts : ts.Sublist table'.rows) :
    Ends (fun result result' => result.1.Matches result'.1 ∧ result.2 = result'.2)
      (db.deleteRows name (ss.map (·.id))) (other.deleteRows name (ts.map (·.id))) := by
  refine (h.ends_requireTable name).bind fun found found' ⟨ht, hin, hin'⟩ => ?_
  obtain rfl := Option.some.inj (hfound.symm.trans hin)
  obtain rfl := Option.some.inj (hfound'.symm.trans hin')
  obtain ⟨hrows, hrows'⟩ := ht.rowsOf_map_id hss hts
  rw [hrows, hrows', ht.name_eq]
  refine (Ends.forM (h.referrers table'.name) fun r r' hr => ?_).bind fun _ _ _ => ?_
  · exact h.ends_checkDeleteOf (List.mem_of_find?_eq_some hin) (List.mem_of_find?_eq_some hin') ht
      hboth hr
  · obtain ⟨hdeleted, hcount⟩ := ht.delete hboth
    exact .ok ⟨h.setTable hdeleted, hcount⟩

end Matches

end Database

end RelStore
