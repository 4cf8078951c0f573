/-
What statements plan.

A statement on tables replaces a database that is known by itself after the statement, and those
that add a table, remove one or add a row always change it (`Replaces.changes`). Making and
dropping a database save two files each, and change what is known only when both are saved. What only
reads has no more than an answer (`plan_of_onlyReads`).
-/
import RelStore.Engine
import RelStore.Proofs.Catalog
import RelStore.Proofs.Database.Schema
import RelStore.Proofs.Database.Update
import RelStore.Proofs.Database.Write

namespace RelStore

open Sql
open Text (sameName)

/-- A statement that asks for something and is not to change anything. -/
def Sql.Statement.OnlyReads : Statement → Prop
  | .select _ | .showDatabases | .showTables | .describe _ => True
  | _ => False

namespace Database

variable {db next : Database} {table : Table} {name : String}

theorem setTable_ne {written : Table} (ht : db.table? name = some table)
    (hname : written.name = table.name) (hrows : written.rows.length ≠ table.rows.length) :
    db.setTable written ≠ db := by
  intro heq
  have htables : db.tables.map (fun other =>
      if sameName other.name written.name then written else other) = db.tables.map id := by
    rw [List.map_id]
    exact congrArg Database.tables heq
  have hself := List.map_inj_left.1 htables table (List.mem_of_find?_eq_some ht)
  rw [hname, if_pos (Text.sameName_refl _)] at hself
  exact hrows (congrArg (fun other : Table => other.rows.length) hself)

/-- A row that is inserted is one more. -/
theorem insertRow_ne {values : List Value} {listed : Option (List String)}
    {result : Database × Nat} (h : db.insertRow name values listed = .ok result) :
    result.1 ≠ db := by
  obtain ⟨table, row, ht, -, -, rfl⟩ := insertRow_eq_ok.1 h
  refine setTable_ne ht rfl ?_
  simp [Table.applyInsert]

theorem createTable_ne {schema : Schema} {result : Database × Table}
    (h : db.createTable schema = .ok result) : result.1 ≠ db := by
  obtain ⟨-, -, -, hnext⟩ := createTable_eq_ok.1 h
  intro heq
  have hlength := congrArg (fun other : Database => other.tables.length) (hnext.symm.trans heq)
  simp at hlength

theorem dropTable_ne (h : db.dropTable name = .ok next) : next ≠ db := by
  obtain ⟨table, ht, -, rfl⟩ := dropTable_eq_ok.1 h
  intro heq
  have hall := List.filter_eq_self.1 (congrArg Database.tables heq) table
    (List.mem_of_find?_eq_some ht)
  have hsame := List.find?_some ht
  simp [hsame] at hall

end Database

namespace Catalog

variable {catalog : Catalog} {session : Session} {clock name : String} {db next : Database}
  {plan : Plan} {change : Change}

theorem requireDatabase_eq_ok :
    catalog.requireDatabase name = .ok db ↔ catalog.database? name = some db := by
  simp only [requireDatabase]
  cases catalog.database? name <;> simp

theorem mem_of_selected (h : catalog.selected session = .ok db) : db ∈ catalog.databases := by
  rw [selected] at h
  split at h
  · exact List.mem_of_find?_eq_some (requireDatabase_eq_ok.1 h)
  · cases h

/-- A database that is put into another state makes another catalog. -/
theorem setDatabase_ne (hmem : db ∈ catalog.databases) (hname : next.name = db.name)
    (hne : next ≠ db) : catalog.setDatabase next ≠ catalog := by
  intro heq
  have hknown : (catalog.database? next.name).isSome = true :=
    isSome_database?_iff.2 ⟨db, hmem, hname ▸ Text.sameName_refl _⟩
  rw [setDatabase, if_pos hknown] at heq
  have hall : catalog.databases.map (fun other =>
      if sameName other.name next.name then next else other) = catalog.databases.map id := by
    rw [List.map_id]
    exact congrArg Catalog.databases heq
  have hself := List.map_inj_left.1 hall db hmem
  rw [hname, if_pos (Text.sameName_refl _)] at hself
  exact hne hself

/-! ## Databases -/

theorem database?_congr {other : String} (h : sameName name other = true) :
    catalog.database? name = catalog.database? other := by
  simp only [database?, Text.sameName] at h ⊢
  rw [beq_iff_eq] at h
  rw [h]

theorem createDatabase_eq_ok : catalog.createDatabase name clock = .ok change ↔
    checkName .database name = .ok () ∧ catalog.database? name = none ∧
      change = ⟨catalog.saveSteps (.empty name) clock ++
        catalog.saveNamesSteps (sortNames (catalog.names ++ [name])),
        catalog.setDatabase (.empty name), catalog⟩ := by
  simp only [createDatabase]
  cases hn : catalog.database? name with
  | some db =>
    simp only [Option.isSome_some, if_true, bind_eq_ok, throw_ne_ok, false_and, exists_false,
      and_false, reduceCtorEq]
  | none =>
    simp only [Option.isSome_none, Bool.false_eq_true, if_false, bind_eq_ok, pure_eq_ok, true_and]
    constructor
    · intro ⟨_, hc, heq⟩
      exact ⟨hc, heq.symm⟩
    · intro ⟨hc, heq⟩
      exact ⟨(), hc, heq.symm⟩

theorem dropDatabase_eq_ok : catalog.dropDatabase name = .ok change ↔
    ∃ db, catalog.database? name = some db ∧
      change = ⟨catalog.saveNamesSteps (catalog.names.filter (· != db.name)) ++
        catalog.deleteSteps db.name, catalog.eraseDatabase name, catalog⟩ := by
  simp only [dropDatabase, bind_eq_ok, pure_eq_ok, requireDatabase_eq_ok]
  exact exists_congr fun db => and_congr_right fun _ => eq_comm

/-! ## Tables -/

/-- A change puts a database that is known into a new state. -/
def Replaces (catalog : Catalog) (clock : String) (change : Change) : Prop :=
  ∃ db ∈ catalog.databases, ∃ next : Database, next.name = db.name ∧
    change = catalog.replaceDatabase next clock

/-- What the change of each statement is. -/
def PlannedBy (catalog : Catalog) (clock : String) (change : Change) : Statement → Prop
  | .createDatabase name => catalog.createDatabase name clock = .ok change
  | .dropDatabase name => ∃ db, catalog.database? name = some db ∧
      change = ⟨catalog.saveNamesSteps (catalog.names.filter (· != db.name)) ++
        catalog.deleteSteps db.name, catalog.eraseDatabase db.name, catalog⟩
  | .createTable _ | .dropTable _ | .insert .. =>
    catalog.Replaces clock change ∧ change.done ≠ catalog
  | .update .. | .delete .. => catalog.Replaces clock change
  | _ => change = catalog.unchanged

theorem replaces_of_ne (hs : catalog.selected session = .ok db) (hname : next.name = db.name)
    (hne : next ≠ db) : catalog.Replaces clock (catalog.replaceDatabase next clock) ∧
      (catalog.replaceDatabase next clock).done ≠ catalog :=
  ⟨⟨db, mem_of_selected hs, next, hname, rfl⟩, setDatabase_ne (mem_of_selected hs) hname hne⟩

section

variable {table : String} {schema : Schema} {items : List Assignment} {filter : Option Expr}
  {listed : Option (List String)} {values : List Value}

theorem plan_createTable_eq_ok : catalog.plan session clock (.createTable schema) = .ok plan ↔
    ∃ db, catalog.selected session = .ok db ∧ ∃ result, db.createTable schema = .ok result ∧
      catalog.replacing session clock result.1 0 s!"Table '{schema.name}' created" = plan := by
  simp only [Catalog.plan, bind_eq_ok, pure_eq_ok]

theorem plan_dropTable_eq_ok : catalog.plan session clock (.dropTable table) = .ok plan ↔
    ∃ db, catalog.selected session = .ok db ∧ ∃ found, db.requireTable table = .ok found ∧
      ∃ next, db.dropTable found.name = .ok next ∧
        catalog.replacing session clock next 0 s!"Table '{found.name}' dropped" = plan := by
  simp only [Catalog.plan, bind_eq_ok, pure_eq_ok]

theorem planInsert_eq_ok : catalog.planInsert session clock table listed values = .ok plan ↔
    ∃ db, catalog.selected session = .ok db ∧ ∃ result, db.insertRow table values listed = .ok result ∧
      catalog.replacing session clock result.1 1 (rowsAffected 1 "inserted") = plan := by
  simp only [planInsert, bind_eq_ok, pure_eq_ok]

theorem planUpdate_eq_ok : catalog.planUpdate session clock table items filter = .ok plan ↔
    ∃ db, catalog.selected session = .ok db ∧ ∃ found, db.requireTable table = .ok found ∧
      ∃ assignments, bindAssignments found Record.memberNames items = .ok assignments ∧
      ∃ targets, found.matching filter = .ok targets ∧
      ∃ result, db.updateRows found.name (targets.map (·.id)) (Record.inOrder assignments) =
          .ok result ∧
        catalog.replacing session clock result.1 result.2 (rowsAffected result.2 "updated") =
          plan := by
  simp only [planUpdate, bind_eq_ok, pure_eq_ok]

theorem planDelete_eq_ok : catalog.planDelete session clock table filter = .ok plan ↔
    ∃ db, catalog.selected session = .ok db ∧ ∃ found, db.requireTable table = .ok found ∧
      ∃ targets, found.matching filter = .ok targets ∧
      ∃ result, db.deleteRows found.name (targets.map (·.id)) = .ok result ∧
        catalog.replacing session clock result.1 result.2 (rowsAffected result.2 "deleted") =
          plan := by
  simp only [planDelete, bind_eq_ok, pure_eq_ok]

end

theorem plan_of_onlyReads {statement : Statement} (hreads : statement.OnlyReads)
    (h : catalog.plan session clock statement = .ok plan) :
    plan = catalog.answerOnly session plan.answer := by
  cases statement with
  | select query =>
    obtain ⟨db, -, h⟩ := bind_eq_ok.1 h
    obtain ⟨listing, -, h⟩ := bind_eq_ok.1 h
    obtain rfl := pure_eq_ok.1 h
    rfl
  | showDatabases =>
    obtain rfl := Except.ok.inj h
    rfl
  | showTables =>
    obtain ⟨db, -, h⟩ := bind_eq_ok.1 h
    obtain rfl := pure_eq_ok.1 h
    rfl
  | describe table =>
    obtain ⟨db, -, h⟩ := bind_eq_ok.1 h
    obtain ⟨found, -, h⟩ := bind_eq_ok.1 h
    obtain rfl := pure_eq_ok.1 h
    rfl
  | _ => cases hreads

theorem plannedBy_of_plan {statement : Statement}
    (h : catalog.plan session clock statement = .ok plan) :
    catalog.PlannedBy clock plan.change statement := by
  cases statement with
  | createDatabase name =>
    obtain ⟨change, hchange, h⟩ := bind_eq_ok.1 h
    obtain rfl := pure_eq_ok.1 h
    exact hchange
  | dropDatabase name =>
    obtain ⟨db, hdb, h⟩ := bind_eq_ok.1 h
    obtain ⟨change, hchange, h⟩ := bind_eq_ok.1 h
    obtain rfl := pure_eq_ok.1 h
    rw [requireDatabase_eq_ok] at hdb
    obtain ⟨found, hfound, rfl⟩ := dropDatabase_eq_ok.1 hchange
    have hsame : sameName db.name name = true := by simpa using List.find?_some hdb
    obtain rfl : db = found := by simpa [database?_congr hsame, hdb] using hfound
    exact ⟨db, hdb, rfl⟩
  | useDatabase name =>
    obtain ⟨db, -, h⟩ := bind_eq_ok.1 h
    obtain rfl := pure_eq_ok.1 h
    rfl
  | showDatabases | showTables | describe _ | select _ =>
    exact congrArg Plan.change (plan_of_onlyReads (by trivial) h)
  | createTable schema =>
    obtain ⟨db, hs, result, hresult, rfl⟩ := plan_createTable_eq_ok.1 h
    exact replaces_of_ne hs (Database.name_createTable hresult) (Database.createTable_ne hresult)
  | dropTable table =>
    obtain ⟨db, hs, found, -, next, hnext, rfl⟩ := plan_dropTable_eq_ok.1 h
    exact replaces_of_ne hs (Database.name_dropTable hnext) (Database.dropTable_ne hnext)
  | insert table columns values =>
    obtain ⟨db, hs, result, hresult, rfl⟩ := planInsert_eq_ok.1 h
    exact replaces_of_ne hs (Database.name_insertRow hresult) (Database.insertRow_ne hresult)
  | update table items filter =>
    obtain ⟨db, hs, _, -, _, -, _, -, result, hresult, rfl⟩ := planUpdate_eq_ok.1 h
    exact ⟨db, mem_of_selected hs, result.1, Database.name_updateRows hresult, rfl⟩
  | delete table filter =>
    obtain ⟨db, hs, _, -, _, -, result, hresult, rfl⟩ := planDelete_eq_ok.1 h
    exact ⟨db, mem_of_selected hs, result.1, Database.name_deleteRows hresult, rfl⟩
  | unknown description => cases h

end Catalog

end RelStore
