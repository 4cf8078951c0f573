/-
Databases in a directory: a file with their names, and a document for each.

A file is written beside its place and then moved there, so that what is in place is never a part
of a document. Saving and deleting are lists of steps, for a disk to carry out; loading reads the
disk, and a database that is loaded satisfies what it would have to satisfy when built.
-/
import RelStore.Database
import RelStore.Disk
import RelStore.Document
import RelStore.Json.Read

namespace RelStore

/-- Where databases are saved. -/
structure Store where
  directory : Path
  deriving DecidableEq, Repr

namespace Store

/-- The store that a text names from here. -/
def resolve (here : Path) (directory : String) : Store := ⟨here.resolve directory⟩

def databasePath (store : Store) (name : String) : Path :=
  (store.directory.child "databases").descend s!"{name}.json"

def catalogPath (store : Store) : Path := store.directory.child "catalog.json"

/-! ## Writing -/

/-- The steps that put a value into a file. -/
def writeSteps (path : Path) (content : Json) : List Step :=
  let draft := path.withEnding ".tmp"
  let refused := Cause.unwritable path.text
  [⟨.makeDirectories path.parent, refused⟩, ⟨.write draft content.pretty, refused⟩,
   ⟨.rename draft path, refused⟩]

/-- The steps that save a database. -/
def saveSteps (store : Store) (db : Database) (clock : String) : List Step :=
  writeSteps (store.databasePath db.name) (db.toDocument clock).toJson

def namesJson (names : List String) : Json :=
  .object [("databases", .array (names.map .string))]

/-- The steps that save the names of the databases. -/
def saveNamesSteps (store : Store) (names : List String) : List Step :=
  writeSteps store.catalogPath (namesJson names)

/-- The steps that delete a database. -/
def deleteSteps (store : Store) (name : String) : List Step :=
  let path := store.databasePath name
  [⟨.remove path, .undeletable path.text name⟩]

/-! ## Reading -/

/-- The value in a file. -/
def readJson (disk : Disk) (path : Path) : Except Cause Json :=
  match if path.isPossible then disk.read? path else none with
  | none => .error (.unreadable path.text)
  | some text =>
    match Json.parse? text with
    | none => .error (.notJson path.text)
    | some json => .ok json

/-- The names of the databases, none if there is no file of names. -/
def loadNames (store : Store) (disk : Disk) : Except Cause (List String) :=
  if disk.has store.catalogPath then do
    match namesShape.read (← readJson disk store.catalogPath) with
    | .ok names => return names
    | .error issues => throw (.invalidCatalogFile store.catalogPath.text (Issue.textOf issues))
  else .ok []

/-- The database saved under a name. -/
def load (store : Store) (disk : Disk) (name : String) : Except Cause Database := do
  let path := store.databasePath name
  match databaseShape.read (← readJson disk path) with
  | .error issues => throw (.invalidDatabaseFile path.text (Issue.textOf issues) name)
  | .ok doc =>
    match Database.ofDocument doc with
    | .ok db => return db
    | .error cause => throw (.inconsistentDatabaseFile path.text cause.message name)

end Store

end RelStore
