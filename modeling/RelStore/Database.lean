/-
Databases: named tables in the order of their creation, with references between them.

Names are found in any letter case. A write checks the referenced and the referencing tables
between preparing and applying it: a value in a referencing column must be in the referenced
column, and a referenced value may not go while rows hold it.
-/
import RelStore.Document

namespace RelStore

structure Database where
  name : String
  tables : List Table
  deriving DecidableEq, Repr

/-- A column that refers to some table, and the table it is in. -/
structure Referrer where
  table : Table
  column : Column
  target : Reference

namespace Database

def empty (name : String) : Database := ⟨name, []⟩

def table? (db : Database) (name : String) : Option Table :=
  db.tables.find? fun table => Text.sameName table.name name

def requireTable (db : Database) (name : String) : Except Cause Table :=
  match db.table? name with
  | some table => .ok table
  | none => .error (.unknownTable name db.name)

def tableNames (db : Database) : List String := db.tables.map (·.name)

/-- Puts a table in the place of the one with its name. -/
def setTable (db : Database) (table : Table) : Database :=
  { db with
    tables := db.tables.map fun other => if Text.sameName other.name table.name then table else other }

/-! ## Schema -/

/-- A referenced column is a key of an existing table, or of the new table itself, and of the
type family of the referencing column. -/
def checkReference (db : Database) (table : Table) (column : Column) (ref : Reference) :
    Except Cause Unit := do
  let target? := if Text.sameName ref.table table.name then some table else db.table? ref.table
  let some target := target?
    | throw (.unknownReferencedTable table.name column.name ref.table)
  let some targetColumn := target.column? ref.column
    | throw (.unknownReferencedColumn table.name column.name ref.table ref.column)
  if !targetColumn.isKey then
    throw (.referencedColumnNotKey table.name column.name target.name targetColumn.name)
  if targetColumn.type.family ≠ column.type.family then
    throw (.referencedTypeDiffers table.name column.name column.type target.name targetColumn.name
      targetColumn.type)

def checkColumnReference (db : Database) (table : Table) (column : Column) : Except Cause Unit :=
  match column.references with
  | some ref => db.checkReference table column ref
  | none => .ok ()

/-- Adds an empty table. -/
def createTable (db : Database) (schema : Schema) : Except Cause (Database × Table) := do
  if (db.table? schema.name).isSome then throw (.tableExists schema.name)
  let table ← Table.create schema
  table.columns.forM (db.checkColumnReference table)
  return ({ db with tables := db.tables ++ [table] }, table)

/-- The columns whose references point to a table, in the order of the tables. -/
def referrers (db : Database) (tableName : String) : List Referrer :=
  db.tables.flatMap fun table =>
    table.columns.filterMap fun column =>
      match column.references with
      | some ref => if Text.sameName ref.table tableName then some ⟨table, column, ref⟩ else none
      | none => none

/-- Removes a table that no other table refers to. -/
def dropTable (db : Database) (name : String) : Except Cause Database := do
  let table ← db.requireTable name
  match (db.referrers table.name).find? fun r => !Text.sameName r.table.name table.name with
  | some r => throw (.droppedWhileReferenced table.name r.table.name r.column.name)
  | none => return { db with tables := db.tables.filter fun t => !Text.sameName t.name name }

/-! ## References -/

/-- Whether a referenced column holds a value. -/
def holdsValue (target : Table) (column : String) (value : Value) : Bool :=
  match target.index? column with
  | some index => index.has value
  | none => target.rows.any fun stored => (stored.row.get? column).any (·.key = value.key)

/-- The value that a row has in a referencing column, if it is not NULL, is in the referenced
column. -/
def checkReferenceHeld (db : Database) (table : Table) (row : Row) (column : Column) :
    Except Cause Unit := do
  let value := row.get column.name
  match column.references with
  | some ref =>
    if value.isSome then
      let target ← db.requireTable ref.table
      if !holdsValue target ref.column value then
        throw (.danglingReference table.name column.name value target.name ref.column)
  | none => return ()

def checkReferencesHeld (db : Database) (table : Table) (row : Row) (columns : List Column) :
    Except Cause Unit :=
  columns.forM (db.checkReferenceHeld table row)

/-! ## Writing -/

/-- Inserts a row and gives its id. -/
def insertRow (db : Database) (tableName : String) (values : List Value)
    (listed : Option (List String)) : Except Cause (Database × Nat) := do
  let table ← db.requireTable tableName
  let row ← table.prepareInsert values listed
  db.checkReferencesHeld table row table.columns
  return (db.setTable (table.applyInsert row), table.nextId)

/-- What a row holds after an update, if the update changes it. -/
def afterUpdate (pending : List PendingUpdate) (id : Nat) : Option Row :=
  (pending.find? (·.id == id)).map (·.after)

/-- Whether a row of a referring table holds a value after an update of `table`. -/
def stillHolds (table : Table) (pending : List PendingUpdate) (r : Referrer) (value : Value)
    (id : Nat) : Bool :=
  match if Text.sameName r.table.name table.name then afterUpdate pending id else none with
  | some after => (after.get r.column.name).key = value.key
  | none => true

/-- No referenced value goes by an update while rows of one referring column hold it. -/
def checkUpdateOf (table : Table) (pending : List PendingUpdate) (changed : List Column)
    (r : Referrer) : Except Cause Unit := do
  let some column := changed.find? fun column => Text.sameName column.name r.target.column
    | return ()
  let some index := r.table.index? r.column.name
    | return ()
  pending.forM fun change => do
    let before := change.before.get column.name
    if before.isSome && before.key ≠ (change.after.get column.name).key then
      if (index.lookup before).any (stillHolds table pending r before) then
        throw (.updatedWhileReferenced table.name column.name before r.table.name r.column.name)

/-- Sets columns of the rows of the given ids and gives their number. -/
def updateRows (db : Database) (tableName : String) (ids : List Nat)
    (assignments : List (String × Value)) : Except Cause (Database × Nat) := do
  let table ← db.requireTable tableName
  let pending ← table.prepareUpdate ids assignments
  let changed ← assignments.mapM fun (name, _) => table.requireColumn name
  if changed.any (·.references.isSome) then
    pending.forM fun change => db.checkReferencesHeld table change.after changed
  (db.referrers table.name).forM (checkUpdateOf table pending changed)
  return (db.setTable (table.applyUpdate pending), pending.length)

/-- No row is deleted while other rows of one referring column hold its value. -/
def checkDeleteOf (table : Table) (targets : List StoredRow) (r : Referrer) : Except Cause Unit := do
  let column ← table.requireColumn r.target.column
  let some index := r.table.index? r.column.name
    | return ()
  targets.forM fun target => do
    let value := target.row.get column.name
    let remains (id : Nat) : Bool :=
      !Text.sameName r.table.name table.name || !(targets.map (·.id)).contains id
    if value.isSome && (index.lookup value).any remains then
      throw (.deletedWhileReferenced table.name column.name value r.table.name r.column.name)

/-- Removes the rows of the given ids and gives their number. -/
def deleteRows (db : Database) (tableName : String) (ids : List Nat) :
    Except Cause (Database × Nat) := do
  let table ← db.requireTable tableName
  let targets := table.rowsOf ids
  (db.referrers table.name).forM (checkDeleteOf table targets)
  let (smaller, count) := table.delete (targets.map (·.id))
  return (db.setTable smaller, count)

/-! ## Documents -/

def version : String := "1.0.0"

/-- The document of a database, saved at the given time. -/
def toDocument (db : Database) (savedAt : String) : DatabaseDocument where
  version := version
  name := db.name
  savedAt := savedAt
  tables := db.tables.map (·.toDocument)

/-- Adds the table of a document, whose name must be new. -/
def addDocument (db : Database) (doc : TableDocument) : Except Cause Database := do
  if (db.table? doc.name).isSome then throw (.repeatedTable doc.name db.name)
  let table ← Table.ofDocument doc
  return { db with tables := db.tables ++ [table] }

def ofDocument (doc : DatabaseDocument) : Except Cause Database :=
  doc.tables.foldlM addDocument (empty doc.name)

end Database

end RelStore
