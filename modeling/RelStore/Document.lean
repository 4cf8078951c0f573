/-
Documents: what a database is saved as.

A document lists the tables in their order, each with its columns and with its rows as lists of
values in the order of the columns. Ids of rows and indexes are not saved: reading a document
inserts row after row, which checks them and builds the indexes.
-/
import RelStore.Issue
import RelStore.Table

namespace RelStore

structure TableDocument where
  name : String
  columns : List Column
  rows : List (List Value)
  deriving DecidableEq, Repr

structure DatabaseDocument where
  version : String
  name : String
  savedAt : String
  tables : List TableDocument
  deriving DecidableEq, Repr

def Scalar.toJson : Scalar → Json
  | .number n => .number n
  | .text s => .string s
  | .bool b => .bool b

def Value.toJson : Value → Json
  | none => .null
  | some v => v.toJson

def Reference.toJson (r : Reference) : Json :=
  .object [("table", .string r.table), ("column", .string r.column)]

def Column.toJson (c : Column) : Json :=
  .object <|
    [("name", .string c.name), ("type", .string c.type.name), ("primaryKey", .bool c.primaryKey),
     ("unique", .bool c.unique)] ++ (c.references.map fun r => ("references", r.toJson)).toList

def TableDocument.toJson (doc : TableDocument) : Json :=
  .object
    [("name", .string doc.name), ("columns", .array (doc.columns.map (·.toJson))),
     ("rows", .array (doc.rows.map fun row => .array (row.map (·.toJson))))]

def DatabaseDocument.toJson (doc : DatabaseDocument) : Json :=
  .object
    [("version", .string doc.version), ("name", .string doc.name), ("savedAt", .string doc.savedAt),
     ("tables", .array (doc.tables.map (·.toJson)))]

namespace Table

def toDocument (table : Table) : TableDocument where
  name := table.name
  columns := table.columns
  rows := table.rows.map fun stored => table.columns.map fun column => stored.row.get column.name

/-- The table of a document, if its schema and all its rows are accepted. -/
def ofDocument (doc : TableDocument) : Except Cause Table := do
  let table ← create ⟨doc.name, doc.columns⟩
  doc.rows.foldlM (fun table values => (·.1) <$> table.insert values none) table

end Table

/-! ## Documents read from JSON -/

open Shape

/-- A scalar or NULL. -/
def valueShape : Shape Value := fun place found =>
  match found with
  | some .null => .ok none
  | some (.bool b) => .ok (some (.bool b))
  | some (.number n) => .ok (some (.number n))
  | some (.string s) => .ok (some (.text s))
  | _ => .issue place "Invalid input"

def referenceShape : Shape Reference := object fun place entries =>
  (Checked.both (field place entries "table" nonempty) (field place entries "column" nonempty)).map
    fun (table, column) => ⟨table, column⟩

def dataTypeShape : Shape DataType := choice (DataType.all.map (·.name)) DataType.ofName?

def columnShape : Shape Column := object fun place entries =>
  let name := field place entries "name" nonempty
  let type := field place entries "type" dataTypeShape
  let primaryKey := field place entries "primaryKey" bool
  let unique := field place entries "unique" bool
  let references := field place entries "references" (optional referenceShape)
  (Checked.both name (.both type (.both primaryKey (.both unique references)))).map
    fun (name, type, primaryKey, unique, references) =>
      { name, type, primaryKey, unique, references }

def tableShape : Shape TableDocument := object fun place entries =>
  let name := field place entries "name" nonempty
  let columns := field place entries "columns" (arrayOf columnShape)
  let rows := field place entries "rows" (arrayOf (arrayOf valueShape))
  (Checked.both name (.both columns rows)).map fun (name, columns, rows) => { name, columns, rows }

def databaseShape : Shape DatabaseDocument := object fun place entries =>
  let version := field place entries "version" string
  let name := field place entries "name" nonempty
  let savedAt := field place entries "savedAt" string
  let tables := field place entries "tables" (arrayOf tableShape)
  (Checked.both version (.both name (.both savedAt tables))).map
    fun (version, name, savedAt, tables) => { version, name, savedAt, tables }

/-- The names of the databases in a directory. -/
def namesShape : Shape (List String) := object fun place entries =>
  field place entries "databases" (arrayOf nonempty)

/-- What a JSON value describes. -/
def Shape.read {α : Type} (shape : Shape α) (json : Json) : Checked α := shape [] (some json)

end RelStore
