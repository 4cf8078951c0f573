/-
What changes of databases are refused for.

A schema, a value, a key or a reference is wrong, or a name names nothing. Which rows there are
does not matter for that.
-/
import RelStore.Database
import RelStore.Proofs.Failing

namespace RelStore

/-! ## Tables -/

theorem refuses_check (schema : Schema) : Refuses schema.check := by
  refine .ite (fun _ => .error rfl) fun _ => ?_
  split
  · exact .error rfl
  · split
    · exact .ok _
    · exact .error rfl

namespace Table

variable (table : Table)

theorem refuses_create (schema : Schema) : Refuses (create schema) :=
  (refuses_check schema).bind fun _ _ => .pure _

theorem refuses_requireColumn (name : String) : Refuses (table.requireColumn name) := by
  rw [requireColumn]
  split
  · exact .ok _
  · exact .error rfl

theorem refuses_checkType (column : Column) (value : Value) :
    Refuses (table.checkType column value) :=
  .ite (fun _ => .ok _) fun _ => .error rfl

theorem refuses_checkKeys (excluded : List Nat) (row : Row) :
    Refuses (table.checkKeys excluded row) := by
  refine .ite (fun _ => .error rfl) fun _ => ?_
  dsimp only
  split
  · exact .error rfl
  · exact .ok _

theorem refuses_fillRow (assigned : List String) (row : Row) (values : List (Column × Value)) :
    Refuses (table.fillRow assigned row values) := by
  induction values generalizing assigned row with
  | nil => exact .ok _
  | cons value rest ih =>
    refine .ite (fun _ => .error rfl) fun _ => ?_
    exact (table.refuses_checkType _ _).bind fun _ _ => ih _ _

theorem refuses_prepareInsert (values : List Value) (listed : Option (List String)) :
    Refuses (table.prepareInsert values listed) := by
  have hfill (targets : List Column) : Refuses (do
      let row ← table.fillRow []
        (Row.ofList (table.columns.map fun column => (column.name, none))) (targets.zip values)
      table.checkKeys [] row
      return row) :=
    (table.refuses_fillRow _ _ _).bind fun row _ =>
      (table.refuses_checkKeys _ _).bind fun _ _ => .pure row
  cases listed with
  | none => exact .ite (fun _ => .error rfl) fun _ => hfill _
  | some names =>
    refine (FailsOnly.mapM fun name _ => table.refuses_requireColumn name).bind fun targets _ => ?_
    exact .ite (fun _ => .error rfl) fun _ => hfill targets

theorem refuses_checkAssignments (assignments : List (String × Value)) :
    Refuses (table.checkAssignments assignments) :=
  .mapM fun _ _ => (table.refuses_requireColumn _).bind fun _ _ =>
    (table.refuses_checkType _ _).bind fun _ _ => .pure _

theorem refuses_prepareUpdate (ids : List Nat) (assignments : List (String × Value)) :
    Refuses (table.prepareUpdate ids assignments) := by
  refine (table.refuses_checkAssignments _).bind fun changes _ => ?_
  refine (FailsOnly.mapM fun target _ => (table.refuses_checkKeys _ _).bind fun _ _ => .pure _).bind
    fun pending _ => .ite (fun _ => ?_) fun _ => .pure _
  split
  · exact .throw rfl
  · exact .pure _

end Table

/-! ## Databases -/

namespace Database

variable (db : Database)

theorem refuses_requireTable (name : String) : Refuses (db.requireTable name) := by
  rw [requireTable]
  split
  · exact .ok _
  · exact .error rfl

theorem refuses_checkReference (table : Table) (column : Column) (ref : Reference) :
    Refuses (db.checkReference table column ref) := by
  rw [checkReference]
  split
  · split
    · exact .ite (fun _ => .error rfl) fun _ => .ite (fun _ => .error rfl) fun _ => .pure _
    · exact .throw rfl
  · exact .throw rfl

theorem refuses_createTable (schema : Schema) : Refuses (db.createTable schema) := by
  refine .ite (fun _ => .error rfl) fun _ => (Table.refuses_create schema).bind fun table _ => ?_
  refine (FailsOnly.forM fun column _ => ?_).bind fun _ _ => .pure _
  rw [checkColumnReference]
  split
  · exact db.refuses_checkReference _ _ _
  · exact .ok _

theorem refuses_dropTable (name : String) : Refuses (db.dropTable name) := by
  refine (db.refuses_requireTable name).bind fun table _ => ?_
  split
  · exact .throw rfl
  · exact .pure _

theorem refuses_checkReferencesHeld (table : Table) (row : Row) (columns : List Column) :
    Refuses (db.checkReferencesHeld table row columns) := by
  refine .forM fun column _ => ?_
  rw [checkReferenceHeld]
  split
  · refine .ite (fun _ => ?_) fun _ => .pure _
    exact (db.refuses_requireTable _).bind fun _ _ => .ite (fun _ => .throw rfl) fun _ => .pure _
  · exact .pure _

theorem refuses_insertRow (name : String) (values : List Value) (listed : Option (List String)) :
    Refuses (db.insertRow name values listed) :=
  (db.refuses_requireTable name).bind fun table _ =>
    (table.refuses_prepareInsert values listed).bind fun _ _ =>
      (db.refuses_checkReferencesHeld _ _ _).bind fun _ _ => .pure _

theorem refuses_checkUpdateOf (table : Table) (pending : List PendingUpdate)
    (changed : List Column) (r : Referrer) : Refuses (checkUpdateOf table pending changed r) := by
  rw [checkUpdateOf]
  split
  · split
    · exact .forM fun _ _ => .ite (fun _ => .ite (fun _ => .throw rfl) fun _ => .pure _) fun _ => .pure _
    · exact .pure _
  · exact .pure _

theorem refuses_updateRows (name : String) (ids : List Nat) (assignments : List (String × Value)) :
    Refuses (db.updateRows name ids assignments) := by
  refine (db.refuses_requireTable name).bind fun table _ => ?_
  refine (table.refuses_prepareUpdate ids assignments).bind fun pending _ => ?_
  refine (FailsOnly.mapM fun _ _ => table.refuses_requireColumn _).bind fun changed _ => ?_
  have hreferrers : Refuses (do
      (db.referrers table.name).forM (checkUpdateOf table pending changed)
      return (db.setTable (table.applyUpdate pending), pending.length)) :=
    (FailsOnly.forM fun r _ => refuses_checkUpdateOf table pending changed r).bind
      fun _ _ => .pure _
  refine .ite (fun _ => ?_) fun _ => hreferrers
  exact (FailsOnly.forM fun _ _ => db.refuses_checkReferencesHeld _ _ _).bind fun _ _ => hreferrers

theorem refuses_checkDeleteOf (table : Table) (targets : List StoredRow) (r : Referrer) :
    Refuses (checkDeleteOf table targets r) := by
  refine (table.refuses_requireColumn _).bind fun column _ => ?_
  split
  · exact .forM fun _ _ => .ite (fun _ => .throw rfl) fun _ => .pure _
  · exact .pure _

theorem refuses_deleteRows (name : String) (ids : List Nat) :
    Refuses (db.deleteRows name ids) :=
  (db.refuses_requireTable name).bind fun table _ =>
    (FailsOnly.forM fun r _ => refuses_checkDeleteOf table _ r).bind fun _ _ => .pure _

end Database

end RelStore
