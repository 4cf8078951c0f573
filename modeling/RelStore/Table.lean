/-
Tables: a schema, the rows in the order of their ids, and an index for each key and reference.

A write is prepared first, which checks it and changes nothing, and then applied, so that a
database can check other tables in between. A row keeps its id for life, and the id of a new row
has never been used before.
-/
import RelStore.Error
import RelStore.Index
import RelStore.Row
import RelStore.Text.Case

namespace RelStore

structure StoredRow where
  id : Nat
  row : Row
  deriving DecidableEq, Repr

structure Table where
  schema : Schema
  primaryKey : Column
  rows : List StoredRow
  nextId : Nat
  indexes : List Index
  deriving DecidableEq, Repr

/-- A checked change of one row. -/
structure PendingUpdate where
  id : Nat
  before : Row
  after : Row
  deriving DecidableEq, Repr

/-- The column of a name, in any letter case. -/
def Schema.column? (schema : Schema) (name : String) : Option Column :=
  schema.columns.find? fun column => Text.sameName column.name name

/-- The first column whose name an earlier one has. -/
def repeatedColumn? : List String → List Column → Option Column
  | _, [] => none
  | seen, column :: rest =>
    if seen.contains (Text.lower column.name) then some column
    else repeatedColumn? (Text.lower column.name :: seen) rest

/-- The primary key of a schema that has columns, different names and exactly one primary key. -/
def Schema.check (schema : Schema) : Except Cause Column :=
  if schema.columns.isEmpty then .error (.noColumns schema.name)
  else
    match repeatedColumn? [] schema.columns with
    | some column => .error (.duplicateColumn schema.name column.name)
    | none =>
      match schema.columns.filter (·.primaryKey) with
      | [column] => .ok column
      | columns => .error (.primaryKeyCount schema.name columns.length)

namespace Table

def create (schema : Schema) : Except Cause Table := do
  let primaryKey ← schema.check
  let indexes := (schema.columns.filter (·.isIndexed)).map fun column => Index.empty column.name
  return { schema, primaryKey, rows := [], nextId := 1, indexes }

def name (table : Table) : String := table.schema.name

def columns (table : Table) : List Column := table.schema.columns

def column? (table : Table) (name : String) : Option Column := table.schema.column? name

def requireColumn (table : Table) (name : String) : Except Cause Column :=
  match table.column? name with
  | some column => .ok column
  | none => .error (.unknownColumn name table.name)

def index? (table : Table) (column : String) : Option Index :=
  table.indexes.find? fun index => Text.sameName index.column column

def row? (table : Table) (id : Nat) : Option StoredRow := table.rows.find? (·.id == id)

/-- The rows of the given ids in ascending order, as often as their ids are given. -/
def rowsOf (table : Table) (ids : List Nat) : List StoredRow :=
  (ids.mergeSort (· ≤ ·)).filterMap table.row?

/-! ## Checks -/

def checkType (table : Table) (column : Column) (value : Value) : Except Cause Unit :=
  if value.conforms column.type then .ok ()
  else .error (.wrongType table.name column.name column.type value)

def duplicate (table : Table) (column : Column) (value : Value) : Cause :=
  .duplicateKey table.name column.name column.primaryKey value

/-- Whether another row than the excluded ones holds a value, as the index says. -/
def isTaken (table : Table) (excluded : List Nat) (column : Column) (value : Value) : Bool :=
  match table.index? column.name with
  | none => false
  | some index => (index.lookup value).any fun id => !excluded.contains id

/-- The primary key is not NULL, and no key value is held by another row than the excluded. -/
def checkKeys (table : Table) (excluded : List Nat) (row : Row) : Except Cause Unit :=
  if (row.get table.primaryKey.name).isNone then
    .error (.nullPrimaryKey table.name table.primaryKey.name)
  else
    let taken := table.columns.find? fun column =>
      column.isKey && (row.get column.name).isSome &&
        table.isTaken excluded column (row.get column.name)
    match taken with
    | some column => .error (table.duplicate column (row.get column.name))
    | none => .ok ()

/-! ## Inserting -/

/-- Sets the listed columns of a row, each once and to a value of its type. -/
def fillRow (table : Table) : List String → Row → List (Column × Value) → Except Cause Row
  | _, row, [] => .ok row
  | assigned, row, (column, value) :: rest => do
    if assigned.contains column.name then throw (.columnListedTwice table.name column.name)
    table.checkType column value
    table.fillRow (column.name :: assigned) (row.set column.name value) rest

/-- A new row with the given values in the listed columns, or in all of them in order, and NULL
elsewhere. -/
def prepareInsert (table : Table) (values : List Value) (listed : Option (List String)) :
    Except Cause Row := do
  let targets ← match listed with
    | some names => names.mapM table.requireColumn
    | none => pure table.columns
  if values.length ≠ targets.length then
    match listed with
    | some _ => throw (.listedArity table.name targets.length values.length)
    | none => throw (.tableArity table.name targets.length values.length)
  let blank := Row.ofList (table.columns.map fun column => (column.name, none))
  let row ← table.fillRow [] blank (targets.zip values)
  table.checkKeys [] row
  return row

/-- Adds a prepared row at the end. -/
def applyInsert (table : Table) (row : Row) : Table :=
  { table with
    rows := table.rows ++ [⟨table.nextId, row⟩]
    nextId := table.nextId + 1
    indexes := table.indexes.map fun index => index.add (row.get index.column) table.nextId }

/-- Inserts a row and gives its id. -/
def insert (table : Table) (values : List Value) (listed : Option (List String)) :
    Except Cause (Table × Nat) := do
  let row ← table.prepareInsert values listed
  return (table.applyInsert row, table.nextId)

/-! ## Updating -/

/-- The columns of assignments, each to a value of its type. -/
def checkAssignments (table : Table) (assignments : List (String × Value)) :
    Except Cause (List (Column × Value)) :=
  assignments.mapM fun (name, value) => do
    let column ← table.requireColumn name
    table.checkType column value
    return (column, value)

def assign (changes : List (Column × Value)) (row : Row) : Row :=
  changes.foldl (fun row (column, value) => row.set column.name value) row

/-- The changes of the rows of the given ids, whose keys stay apart from those of all other rows
and from each other: as all rows get the same values, two rows collide in each assigned key. -/
def prepareUpdate (table : Table) (ids : List Nat) (assignments : List (String × Value)) :
    Except Cause (List PendingUpdate) := do
  let changes ← table.checkAssignments assignments
  let targets := table.rowsOf ids
  let batch := targets.map (·.id)
  let pending ← targets.mapM fun target => do
    let after := assign changes target.row
    table.checkKeys batch after
    return { id := target.id, before := target.row, after : PendingUpdate }
  if 1 < pending.length then
    match changes.find? fun (column, value) => column.isKey && value.isSome with
    | some (column, value) => throw (table.duplicate column value)
    | none => return pending
  return pending

/-- Replaces one row and moves its entries in the indexes. -/
def applyChange (table : Table) (change : PendingUpdate) : Table :=
  if (table.row? change.id).isNone then table
  else
    { table with
      rows := table.rows.map fun stored =>
        if stored.id = change.id then { stored with row := change.after } else stored
      indexes := table.indexes.map fun index =>
        (index.remove (change.before.get index.column) change.id).add
          (change.after.get index.column) change.id }

def applyUpdate (table : Table) (pending : List PendingUpdate) : Table :=
  pending.foldl applyChange table

/-! ## Deleting -/

/-- Removes one row, if there is one of this id. -/
def deleteRow (table : Table) (id : Nat) : Table :=
  match table.row? id with
  | none => table
  | some stored =>
    { table with
      rows := table.rows.filter (·.id != id)
      indexes := table.indexes.map fun index => index.remove (stored.row.get index.column) id }

/-- Removes rows and gives their number. -/
def delete (table : Table) (ids : List Nat) : Table × Nat :=
  let smaller := ids.foldl deleteRow table
  (smaller, table.rows.length - smaller.rows.length)

/-! ## Describing -/

def describeColumns : List String := ["column", "type", "primary_key", "unique", "references"]

/-- One row for each column. -/
def describe (table : Table) : List Row :=
  table.columns.map fun column =>
    ⟨[("column", Value.ofText column.name), ("type", Value.ofText column.type.name),
      ("primary_key", Value.ofBool column.primaryKey), ("unique", Value.ofBool column.unique),
      ("references", column.references.map fun r => .text r.text)]⟩

end Table

end RelStore
