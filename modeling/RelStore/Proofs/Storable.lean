/-
Statements keep databases such that they can be written.

What a statement stores are the values and names that stand in it (`Statement.Writable`). A value
that a column takes is finite if it is a number, so that of the values only texts are asked about
(`Value.Joined`), and rows keep what they are asked however they are changed. `storable_of_plan`
says it of all that is known after a statement.
-/
import RelStore.Proofs.Catalog.Mirror
import RelStore.Proofs.Plan

namespace RelStore

open Sql
open Text (sameName)

/-! ## Rows -/

theorem Row.Joined.set {row : Row} {v : Value} (h : row.Joined) (hv : v.Joined) (name : String) :
    (row.set name v).Joined := by
  intro other
  rw [get_set]
  split
  · exact hv
  · exact h other

namespace Table

variable {table written : Table} {row filled : Row} {values : List Value}
  {listed : Option (List String)} {changes : List (Column × Value)}

theorem joined_blank (table : Table) : table.blank.Joined := by
  intro name s hs
  have hnone := Row.get_foldl_set_none (table.columns.map (·.name)) Row.empty name rfl
  rw [List.map_map] at hnone
  exact nomatch hnone.symm.trans hs

theorem joined_fillRow {assigned : List String} {pairs : List (Column × Value)}
    (hrow : row.Joined) (hpairs : ∀ pair ∈ pairs, pair.2.Joined)
    (h : table.fillRow assigned row pairs = .ok filled) : filled.Joined := by
  induction pairs generalizing assigned row with
  | nil =>
    obtain rfl := Except.ok.inj h
    exact hrow
  | cons pair rest ih =>
    obtain ⟨column, value⟩ := pair
    obtain ⟨hvalue, hrest⟩ := List.forall_mem_cons.1 hpairs
    simp only [fillRow] at h
    split at h
    · simp [bind_eq_ok, throw_ne_ok] at h
    · obtain ⟨_, -, h⟩ := bind_eq_ok.1 h
      exact ih (hrow.set hvalue _) hrest h

theorem joined_prepareInsert (hvalues : ∀ v ∈ values, v.Joined)
    (h : table.prepareInsert values listed = .ok row) : row.Joined := by
  obtain ⟨columns, -, -, hfill, -⟩ := prepareInsert_eq_ok.1 h
  exact joined_fillRow table.joined_blank (fun pair hp => hvalues _ (List.of_mem_zip hp).2) hfill

theorem joined_assign (hrow : row.Joined) (hchanges : ∀ change ∈ changes, change.2.Joined) :
    (assign changes row).Joined :=
  foldl_keeps hrow fun _ hs change hc => hs.set (hchanges change hc) _

/-- A table whose rows are changed can be written if their texts can. -/
theorem Storable.of_rows (h : table.Storable) (hinvariant : written.Invariant)
    (hschema : written.schema = table.schema) (hrows : ∀ stored ∈ written.rows, stored.row.Joined) :
    written.Storable where
  invariant := hinvariant
  name := by
    rw [Table.name, hschema]
    exact h.name
  columns := by
    rw [Table.columns, hschema]
    exact h.columns
  joined := hrows

theorem Storable.applyInsert (h : table.Storable) (hvalues : ∀ v ∈ values, v.Joined)
    (hp : table.prepareInsert values listed = .ok row) : (table.applyInsert row).Storable := by
  obtain ⟨hadmits, hapart⟩ := h.invariant.admits_of_prepareInsert hp
  refine h.of_rows (h.invariant.applyInsert hadmits hapart) rfl fun stored hs => ?_
  rcases List.mem_append.1 hs with hs | hs
  · exact h.joined stored hs
  · rw [List.mem_singleton.1 hs]
    exact joined_prepareInsert hvalues hp

theorem Storable.applyUpdate {ids : List Nat} {assignments : List (String × Value)}
    {pending : List PendingUpdate} (h : table.Storable)
    (hvalues : ∀ assignment ∈ assignments, assignment.2.Joined)
    (hp : table.prepareUpdate ids assignments = .ok pending) :
    (table.applyUpdate pending).Storable := by
  obtain ⟨changes, hchecked, rfl, hprepared⟩ := h.invariant.prepared hp
  have hchanges : ∀ change ∈ changes, change.2.Joined := by
    intro change hc
    obtain ⟨assignment, ha, -, hvalue, -⟩ :=
      exists_left_of_mem (checkAssignments_eq_ok.1 hchecked) hc
    rw [hvalue]
    exact hvalues assignment ha
  refine h.of_rows (h.invariant.update hp) sameFrame_applyUpdate.schema fun stored hs => ?_
  rw [rows_applyUpdate h.invariant.ascending hprepared.stored] at hs
  obtain ⟨before, hbefore, rfl⟩ := List.mem_map.1 hs
  rw [updated]
  split
  · exact joined_assign (h.joined before hbefore) hchanges
  · exact h.joined before hbefore

theorem Storable.delete (h : table.Storable) (ids : List Nat) : (table.delete ids).1.Storable := by
  refine h.of_rows (h.invariant.delete ids) (sameFrame_delete ids).schema fun stored hs => ?_
  rw [rows_delete] at hs
  exact h.joined stored (List.mem_of_mem_filter hs)

end Table

/-! ## Databases -/

namespace Database

variable {db next : Database} {table written : Table} {name : String}

theorem storable_empty (h : checkName .database name = .ok ()) : (empty name).Storable :=
  ⟨Store.isName_of_checkName h, List.nodup_nil, nofun⟩

theorem Storable.setTable (h : db.Storable) (hwritten : written.Storable) :
    (db.setTable written).Storable where
  name := h.name
  distinct := h.distinct.replace written
  tables other ho := by
    obtain ⟨before, hbefore, rfl⟩ := List.mem_map.1 ho
    split
    · exact hwritten
    · exact h.tables before hbefore

theorem Storable.createTable {schema : Schema} (h : db.Storable) (hname : IsName schema.name)
    (hcolumns : ∀ column ∈ schema.columns, column.Writable)
    (hc : db.createTable schema = .ok (next, table)) : next.Storable := by
  have hdistinct := h.distinct.concat (fresh_of_createTable hc)
  obtain ⟨-, hcreate, -, rfl⟩ := createTable_eq_ok.1 hc
  have hinvariant := Table.invariant_create hcreate
  obtain ⟨key, -, rfl⟩ := Table.create_eq_ok.1 hcreate
  refine ⟨h.name, hdistinct, fun other ho => ?_⟩
  rcases List.mem_append.1 ho with ho | ho
  · exact h.tables other ho
  · rw [List.mem_singleton.1 ho]
    exact ⟨hinvariant, hname, hcolumns, nofun⟩

theorem Storable.dropTable (h : db.Storable) (hd : db.dropTable name = .ok next) :
    next.Storable := by
  obtain ⟨table, -, -, rfl⟩ := dropTable_eq_ok.1 hd
  exact ⟨h.name, h.distinct.sublist List.filter_sublist,
    fun other ho => h.tables other (List.mem_of_mem_filter ho)⟩

theorem Storable.table? (h : db.Storable) (ht : db.table? name = some table) : table.Storable :=
  h.tables table (List.mem_of_find?_eq_some ht)

theorem Storable.insertRow {values : List Value} {listed : Option (List String)}
    {result : Database × Nat} (h : db.Storable) (hvalues : ∀ v ∈ values, v.Joined)
    (hi : db.insertRow name values listed = .ok result) : result.1.Storable := by
  obtain ⟨table, row, ht, hp, -, rfl⟩ := insertRow_eq_ok.1 hi
  exact h.setTable ((h.table? ht).applyInsert hvalues hp)

theorem Storable.updateRows {ids : List Nat} {assignments : List (String × Value)}
    {result : Database × Nat} (h : db.Storable)
    (hvalues : ∀ assignment ∈ assignments, assignment.2.Joined)
    (hu : db.updateRows name ids assignments = .ok result) : result.1.Storable := by
  obtain ⟨table, pending, changed, ht, hp, -, -, rfl⟩ := updateRows_eq_ok.1 hu
  exact h.setTable ((h.table? ht).applyUpdate hvalues hp)

theorem Storable.deleteRows {ids : List Nat} {result : Database × Nat} (h : db.Storable)
    (hd : db.deleteRows name ids = .ok result) : result.1.Storable := by
  obtain ⟨table, ht, -, rfl⟩ := deleteRows_eq_ok.1 hd
  exact h.setTable ((h.table? ht).delete _)

end Database

/-! ## Statements -/

/-- What a statement stores can be written. -/
def Sql.Statement.Writable : Statement → Prop
  | .createTable schema => IsName schema.name ∧ ∀ column ∈ schema.columns, column.Writable
  | .insert _ _ values => ∀ v ∈ values, v.Joined
  | .update _ items _ => ∀ item ∈ items, item.value.Joined
  | _ => True

theorem exists_item_of_bindAssignments {table : Table} {assigned : List String}
    {items : List Assignment} {bound : List (String × Value)}
    (h : bindAssignments table assigned items = .ok bound) :
    ∀ assignment ∈ bound, ∃ item ∈ items, item.value = assignment.2 := by
  induction items generalizing assigned bound with
  | nil =>
    obtain rfl := Except.ok.inj h
    exact nofun
  | cons item rest ih =>
    simp only [bindAssignments] at h
    obtain ⟨column, -, h⟩ := bind_eq_ok.1 h
    split at h
    next => simp [bind_eq_ok, throw_ne_ok] at h
    next =>
      obtain ⟨others, hothers, h⟩ := bind_eq_ok.1 h
      obtain rfl := pure_eq_ok.1 h
      intro assignment ha
      rcases List.mem_cons.1 ha with rfl | ha
      · exact ⟨item, List.mem_cons_self, rfl⟩
      · obtain ⟨other, ho, hv⟩ := ih hothers assignment ha
        exact ⟨other, List.mem_cons_of_mem _ ho, hv⟩

theorem Record.mem_of_mem_insertIndexed {α : Type} {number : Nat} {field : String × α}
    {entries : List (Nat × String × α)} {entry : Nat × String × α}
    (h : entry ∈ insertIndexed number field entries) : entry = (number, field) ∨ entry ∈ entries := by
  induction entries with
  | nil => exact .inl (List.mem_singleton.1 h)
  | cons first rest ih =>
    obtain ⟨other, next⟩ := first
    rw [insertIndexed] at h
    split at h
    · exact List.mem_cons.1 h
    · rcases List.mem_cons.1 h with rfl | h
      · exact .inr List.mem_cons_self
      · exact (ih h).imp_right (List.mem_cons_of_mem _)

/-- A record in its order has the fields that were set. -/
theorem Record.mem_of_mem_inOrder {α : Type} {fields : List (String × α)} {field : String × α}
    (h : field ∈ inOrder fields) : field ∈ fields := by
  have hindexed : ∀ entry ∈ indexed fields, entry.2 ∈ fields := by
    clear h
    induction fields with
    | nil => exact nofun
    | cons first rest ih =>
      intro entry he
      rw [indexed] at he
      split at he
      · rcases mem_of_mem_insertIndexed he with rfl | he
        · exact List.mem_cons_self
        · exact List.mem_cons_of_mem _ (ih entry he)
      · exact List.mem_cons_of_mem _ (ih entry he)
  rcases List.mem_append.1 h with h | h
  · obtain ⟨entry, he, rfl⟩ := List.mem_map.1 h
    exact hindexed entry he
  · exact List.mem_of_mem_filter h

namespace Catalog

variable {catalog : Catalog} {session : Session} {clock : String} {db : Database} {plan : Plan}
  {statement : Statement}

/-- All that is known can be written. -/
def Storable (catalog : Catalog) : Prop := ∀ db ∈ catalog.databases, db.Storable

theorem Storable.setDatabase (h : catalog.Storable) (hdb : db.Storable) :
    (catalog.setDatabase db).Storable := by
  intro other ho
  rcases mem_setDatabase.1 ho with rfl | ⟨hin, -⟩
  · exact hdb
  · exact h other hin

/-- **What is known after a statement can be written** if what it stores can. -/
theorem storable_of_plan (h : catalog.Storable) (hwritable : statement.Writable)
    (hplan : catalog.plan session clock statement = .ok plan) : plan.change.done.Storable := by
  cases statement with
  | createDatabase name =>
    obtain ⟨hcheck, -, hchange⟩ := createDatabase_eq_ok.1 (plannedBy_of_plan hplan)
    rw [hchange]
    exact h.setDatabase (Database.storable_empty hcheck)
  | dropDatabase name =>
    obtain ⟨db, -, hchange⟩ := plannedBy_of_plan hplan
    rw [hchange]
    exact fun other ho => h other (List.mem_of_mem_filter ho)
  | createTable schema =>
    obtain ⟨db, hs, ⟨next, table⟩, hnext, rfl⟩ := plan_createTable_eq_ok.1 hplan
    exact h.setDatabase ((h db (mem_of_selected hs)).createTable hwritable.1 hwritable.2 hnext)
  | dropTable table =>
    obtain ⟨db, hs, found, -, next, hnext, rfl⟩ := plan_dropTable_eq_ok.1 hplan
    exact h.setDatabase ((h db (mem_of_selected hs)).dropTable hnext)
  | insert table columns values =>
    obtain ⟨db, hs, result, hresult, rfl⟩ := planInsert_eq_ok.1 hplan
    exact h.setDatabase ((h db (mem_of_selected hs)).insertRow hwritable hresult)
  | update table items filter =>
    obtain ⟨db, hs, _, -, assignments, hbound, _, -, result, hresult, rfl⟩ :=
      planUpdate_eq_ok.1 hplan
    refine h.setDatabase ((h db (mem_of_selected hs)).updateRows (fun assignment ha => ?_) hresult)
    obtain ⟨item, hitem, hvalue⟩ :=
      exists_item_of_bindAssignments hbound assignment (Record.mem_of_mem_inOrder ha)
    exact hvalue ▸ hwritable item hitem
  | delete table filter =>
    obtain ⟨db, hs, _, -, _, -, result, hresult, rfl⟩ := planDelete_eq_ok.1 hplan
    exact h.setDatabase ((h db (mem_of_selected hs)).deleteRows hresult)
  | _ =>
    have hnone : plan.change = catalog.unchanged := plannedBy_of_plan hplan
    rw [hnone]
    exact h

end Catalog

end RelStore
