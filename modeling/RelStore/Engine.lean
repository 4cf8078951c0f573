/-
Running statements.

A statement is planned first: `plan` gives its answer, the session and the catalog after it, and
the steps that save the change, or else the reason why it fails, and then nothing has changed.
Planning reads no files. Carrying out the plan then fails only if a step is refused.

A script is parsed as a whole, and its statements run up to the first that fails.
-/
import RelStore.Catalog
import RelStore.Query
import RelStore.Record
import RelStore.Sql.Parse.Statement

namespace RelStore

open Sql

/-- The database that a user has chosen, if any. -/
structure Session where
  database : Option String := none
  deriving DecidableEq, Repr

/-- What a statement that succeeds tells. -/
inductive Answer where
  | rows (listing : Listing)
  /-- Names and columns of what is stored. -/
  | schema (listing : Listing)
  | mutation (rowCount : Nat) (message : String)
  deriving DecidableEq, Repr

structure Plan where
  change : Change
  /-- The session if all steps are carried out. -/
  session : Session
  answer : Answer
  deriving DecidableEq, Repr

def rowsAffected (count : Nat) (verb : String) : String :=
  let noun := if count = 1 then "row" else "rows"
  s!"{count} {noun} {verb}"

/-- Names as a listing with one column. -/
def namesListing (column : String) (names : List String) : Listing :=
  ⟨[column], names.map fun name => ⟨[(column, Value.ofText name)]⟩⟩

/-- The assigned columns under their declared names, each assigned once. The members that
every record has count as assigned before. -/
def bindAssignments (table : Table) : List String → List Assignment →
    Except Cause (List (String × Value))
  | _, [] => .ok []
  | assigned, item :: rest => do
    let column ← table.requireColumn item.column
    if assigned.contains column.name then throw (.columnAssignedTwice table.name column.name)
    let others ← bindAssignments table (column.name :: assigned) rest
    return (column.name, item.value) :: others

namespace Catalog

/-- The database of a session. -/
def selected (catalog : Catalog) (session : Session) : Except Cause Database :=
  match session.database with
  | some name => catalog.requireDatabase name
  | none => .error .noDatabaseSelected

/-! ## Planning -/

/-- A plan that changes nothing. -/
def answerOnly (catalog : Catalog) (session : Session) (answer : Answer) : Plan :=
  ⟨catalog.unchanged, session, answer⟩

/-- A plan that puts a database into a new state. -/
def replacing (catalog : Catalog) (session : Session) (clock : String) (db : Database)
    (rowCount : Nat) (message : String) : Plan :=
  ⟨catalog.replaceDatabase db clock, session, .mutation rowCount message⟩

def planDropDatabase (catalog : Catalog) (session : Session) (name : String) :
    Except Cause Plan := do
  let db ← catalog.requireDatabase name
  let change ← catalog.dropDatabase db.name
  let isCurrent := session.database.any (Text.sameName · db.name)
  return ⟨change, if isCurrent then {} else session, .mutation 0 s!"Database '{db.name}' dropped"⟩

def planInsert (catalog : Catalog) (session : Session) (clock table : String)
    (columns : Option (List String)) (values : List Value) : Except Cause Plan := do
  let db ← catalog.selected session
  let (db, _) ← db.insertRow table values columns
  return catalog.replacing session clock db 1 (rowsAffected 1 "inserted")

def planUpdate (catalog : Catalog) (session : Session) (clock tableName : String)
    (items : List Assignment) (filter : Option Expr) : Except Cause Plan := do
  let db ← catalog.selected session
  let table ← db.requireTable tableName
  let assignments ← bindAssignments table Record.memberNames items
  let targets ← table.matching filter
  let (db, count) ← db.updateRows table.name (targets.map (·.id)) (Record.inOrder assignments)
  return catalog.replacing session clock db count (rowsAffected count "updated")

def planDelete (catalog : Catalog) (session : Session) (clock tableName : String)
    (filter : Option Expr) : Except Cause Plan := do
  let db ← catalog.selected session
  let table ← db.requireTable tableName
  let targets ← table.matching filter
  let (db, count) ← db.deleteRows table.name (targets.map (·.id))
  return catalog.replacing session clock db count (rowsAffected count "deleted")

/-- What a statement does and answers. -/
def plan (catalog : Catalog) (session : Session) (clock : String) :
    Statement → Except Cause Plan
  | .createDatabase name => do
    let change ← catalog.createDatabase name clock
    return ⟨change, session, .mutation 0 s!"Database '{name}' created"⟩
  | .dropDatabase name => catalog.planDropDatabase session name
  | .useDatabase name => do
    let db ← catalog.requireDatabase name
    return catalog.answerOnly ⟨some db.name⟩ (.mutation 0 s!"Using database '{db.name}'")
  | .showDatabases => .ok (catalog.answerOnly session (.schema (namesListing "database" catalog.names)))
  | .showTables => do
    let db ← catalog.selected session
    return catalog.answerOnly session (.schema (namesListing "table" db.tableNames))
  | .describe tableName => do
    let table ← (← catalog.selected session).requireTable tableName
    return catalog.answerOnly session (.schema ⟨Table.describeColumns, table.describe⟩)
  | .createTable schema => do
    let (db, _) ← (← catalog.selected session).createTable schema
    return catalog.replacing session clock db 0 s!"Table '{schema.name}' created"
  | .dropTable tableName => do
    let db ← catalog.selected session
    let table ← db.requireTable tableName
    return catalog.replacing session clock (← db.dropTable table.name) 0 s!"Table '{table.name}' dropped"
  | .insert table columns values => catalog.planInsert session clock table columns values
  | .update table items filter => catalog.planUpdate session clock table items filter
  | .delete table filter => catalog.planDelete session clock table filter
  | .select query => do
    let listing ← query.run (← catalog.selected session)
    return catalog.answerOnly session (.rows listing)
  | .unknown description => .error (.unknownStatement description)

end Catalog

/-! ## Carrying out -/

/-- A catalog and the disk under it. -/
structure Engine where
  catalog : Catalog
  disk : Disk
  deriving DecidableEq, Repr

/-- A session at an engine: all that statements can change. -/
structure Workspace where
  engine : Engine
  session : Session
  deriving DecidableEq, Repr

/-- What running a statement gives. -/
abbrev Outcome := Except Failure Answer

namespace Engine

/-- Carries out a change. -/
def apply (engine : Engine) (change : Change) : Engine × Except Cause Unit :=
  let (disk, catalog, result) := change.apply engine.disk
  (⟨catalog, disk⟩, result)

/-- Carries out a change, or reports why there is none. -/
def applyPlanned (engine : Engine) (change : Except Cause Change) : Engine × Except Cause Unit :=
  match change with
  | .ok change => engine.apply change
  | .error cause => (engine, .error cause)

end Engine

namespace Workspace

/-- Runs a statement. -/
def run (w : Workspace) (statement : Statement) : Workspace × Except Cause Answer :=
  match w.engine.catalog.plan w.session w.engine.disk.clock statement with
  | .error cause => (w, .error cause)
  | .ok plan =>
    match w.engine.apply plan.change with
    | (engine, .ok ()) => (⟨engine, plan.session⟩, .ok plan.answer)
    | (engine, .error cause) => (⟨engine, w.session⟩, .error cause)

/-- Runs a statement that has the given text. -/
def runAs (w : Workspace) (sql : Option String) (statement : Statement) : Workspace × Outcome :=
  match w.run statement with
  | (w, .ok answer) => (w, .ok answer)
  | (w, .error cause) => (w, .error ⟨cause, sql⟩)

/-- Runs a text that is one statement. -/
def execute (w : Workspace) (sql : String) : Workspace × Outcome :=
  match parse sql with
  | .error cause => (w, .error ⟨cause, some sql⟩)
  | .ok statement => w.runAs (some sql) statement

/-- Runs statements up to the first that fails. -/
def runAll (w : Workspace) : List Statement → Workspace × List Outcome
  | [] => (w, [])
  | statement :: rest =>
    match w.runAs none statement with
    | (w, .error failure) => (w, [.error failure])
    | (w, .ok answer) =>
      let (w, outcomes) := w.runAll rest
      (w, .ok answer :: outcomes)

/-- Runs a text that is a script. -/
def executeScript (w : Workspace) (sql : String) : Workspace × List Outcome :=
  match parseScript sql with
  | .error cause => (w, [.error ⟨cause, some sql⟩])
  | .ok statements => w.runAll statements

end Workspace

end RelStore
