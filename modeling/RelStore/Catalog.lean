/-
The databases that are known at a time, and where they are saved.

Names are found in any letter case. A catalog without a store is in memory only, and nothing is
written for it.
-/
import RelStore.Sql.Name
import RelStore.Store

namespace RelStore

structure Catalog where
  store : Option Store
  databases : List Database
  deriving DecidableEq, Repr

namespace Catalog

def inMemory : Catalog := ⟨none, []⟩

def database? (catalog : Catalog) (name : String) : Option Database :=
  catalog.databases.find? fun db => Text.sameName db.name name

def requireDatabase (catalog : Catalog) (name : String) : Except Cause Database :=
  match catalog.database? name with
  | some db => .ok db
  | none => .error (.unknownDatabase name)

/-- Puts a database in the place of the one with its name, or at the end. -/
def setDatabase (catalog : Catalog) (db : Database) : Catalog :=
  if (catalog.database? db.name).isSome then
    { catalog with
      databases := catalog.databases.map fun other =>
        if Text.sameName other.name db.name then db else other }
  else { catalog with databases := catalog.databases ++ [db] }

def eraseDatabase (catalog : Catalog) (name : String) : Catalog :=
  { catalog with databases := catalog.databases.filter fun db => !Text.sameName db.name name }

/-- Names in the order of their lower cases. -/
def sortNames (names : List String) : List String :=
  names.mergeSort fun a b => !Text.lt (Text.lower b) (Text.lower a)

/-- The names of the databases, sorted. -/
def names (catalog : Catalog) : List String := sortNames (catalog.databases.map (·.name))

/-! ## Opening -/

/-- Adds a database that the store lists. One that has no file or cannot be loaded is left out. -/
def loadListed (store : Store) (disk : Disk) (catalog : Catalog) (name : String) : Catalog :=
  if disk.has (store.databasePath name) then
    match store.load disk name with
    | .ok db => catalog.setDatabase db
    | .error _ => catalog
  else catalog

/-- The catalog of a store. -/
def ofStore (store : Store) (disk : Disk) : Except Cause Catalog := do
  let listed ← store.loadNames disk
  return listed.foldl (loadListed store disk) ⟨some store, []⟩

/-- The catalog of a directory, or a new one in memory. -/
def ofDirectory (directory : Option String) (disk : Disk) : Except Cause Catalog :=
  match directory with
  | some text => ofStore (.resolve disk.here text) disk
  | none => .ok inMemory

/-! ## Steps -/

/-- The steps that save a database as it is. -/
def saveSteps (catalog : Catalog) (db : Database) (clock : String) : List Step :=
  match catalog.store with
  | some store => store.saveSteps db clock
  | none => []

def saveNamesSteps (catalog : Catalog) (names : List String) : List Step :=
  match catalog.store with
  | some store => store.saveNamesSteps names
  | none => []

def deleteSteps (catalog : Catalog) (name : String) : List Step :=
  match catalog.store with
  | some store => store.deleteSteps name
  | none => []

end Catalog

/-- A change of a catalog that waits for steps to be carried out. -/
structure Change where
  steps : List Step
  /-- The catalog if all steps are carried out. -/
  done : Catalog
  /-- The catalog if one is refused. -/
  refused : Catalog
  deriving DecidableEq, Repr

namespace Catalog

/-- No change. -/
def unchanged (catalog : Catalog) : Change := ⟨[], catalog, catalog⟩

/-- A new database. Its document comes before its name, and both before it is known. -/
def createDatabase (catalog : Catalog) (name : String) (clock : String) : Except Cause Change := do
  Sql.checkName .database name
  if (catalog.database? name).isSome then throw (.databaseExists name)
  let db := Database.empty name
  let listed := sortNames (catalog.names ++ [name])
  return {
    steps := catalog.saveSteps db clock ++ catalog.saveNamesSteps listed
    done := catalog.setDatabase db
    refused := catalog }

/-- One database less. Its name goes before its document. -/
def dropDatabase (catalog : Catalog) (name : String) : Except Cause Change := do
  let db ← catalog.requireDatabase name
  let listed := catalog.names.filter (· != db.name)
  return {
    steps := catalog.saveNamesSteps listed ++ catalog.deleteSteps db.name
    done := catalog.eraseDatabase name
    refused := catalog }

/-- A database in a new state, which is known whether or not it can be saved. -/
def replaceDatabase (catalog : Catalog) (db : Database) (clock : String) : Change :=
  let changed := catalog.setDatabase db
  { steps := changed.saveSteps db clock, done := changed, refused := changed }

/-- A database saved as it is. -/
def flush (catalog : Catalog) (name : String) (clock : String) : Except Cause Change := do
  let db ← catalog.requireDatabase name
  return { catalog.unchanged with steps := catalog.saveSteps db clock }

end Catalog

/-- Carries out the steps of a change: the disk and the catalog after it. -/
def Change.apply (change : Change) (disk : Disk) : Disk × Catalog × Except Cause Unit :=
  match disk.run change.steps with
  | (disk, .ok ()) => (disk, change.done, .ok ())
  | (disk, .error cause) => (disk, change.refused, .error cause)

end RelStore
