/-
Opening a catalog for a session.

The session begins in the database that is asked for, which is made if it is not there yet.
-/
import RelStore.Engine
import RelStore.Settings

namespace RelStore

namespace Workspace

/-- A session in a database of a catalog: the disk, and the workspace or why there is none. -/
def enter (engine : Engine) (database : String) : Disk × Except Cause Workspace :=
  match engine.catalog.database? database with
  | some db => (engine.disk, .ok ⟨engine, ⟨some db.name⟩⟩)
  | none =>
    match engine.applyPlanned (engine.catalog.createDatabase database engine.disk.clock) with
    | (engine, .ok ()) => (engine.disk, .ok ⟨engine, ⟨some database⟩⟩)
    | (engine, .error cause) => (engine.disk, .error cause)

/-- A session at the catalog that settings name. -/
def ofSettings (disk : Disk) (settings : Settings) : Disk × Except Cause Workspace :=
  match Catalog.ofDirectory settings.directory disk with
  | .error cause => (disk, .error cause)
  | .ok catalog =>
    match settings.database with
    | some database => enter ⟨catalog, disk⟩ database
    | none => (disk, .ok ⟨⟨catalog, disk⟩, {}⟩)

/-- A session at what a connection URL names. -/
def connect (disk : Disk) (url : String) : Disk × Except Cause Workspace :=
  match Target.ofUrl url urlDirectory with
  | .error cause => (disk, .error cause)
  | .ok target => ofSettings disk ⟨some target.directory, some target.database⟩

end Workspace

end RelStore
