/-
Files and directories, and the operations that change them.

An operation is carried out or refused. It is refused when the disk does not admit it, as writing
where there is no directory, and when it meets an outage. What is refused changes nothing, except
that directories are made as far as their names allow, and that an outage may come when a part is
done: when a text is partly written, or some of the directories are made. The outages to come are
part of the disk, so that what is done on a disk is a function of it.
-/
import RelStore.Disk.Path
import RelStore.Error

namespace RelStore

inductive Node where
  | directory
  | file (text : String)
  deriving DecidableEq, Repr

/-- A change of files. -/
inductive FileOp where
  /-- Makes a directory and those on the way to it, where there are none. -/
  | makeDirectories (path : Path)
  | write (path : Path) (text : String)
  /-- Gives a file another path, in place of the file there. -/
  | rename (source target : Path)
  /-- Removes a file, if there is one. -/
  | remove (path : Path)
  deriving DecidableEq, Repr

/-- What an outage does to an operation. -/
inductive Outage where
  /-- Nothing: the operation is spared. -/
  | none
  | refused
  /-- The operation stops when it has written some characters, or made some directories. -/
  | torn (done : Nat)
  deriving DecidableEq, Repr

structure Disk where
  /-- Where paths start from. -/
  here : Path
  entries : List (Path × Node)
  /-- The time that what is saved now is marked with. -/
  clock : String
  /-- What becomes of the coming operations. Those after the last are spared. -/
  outages : List Outage := []
  deriving DecidableEq, Repr

/-- An operation, and what it means if it is refused. -/
structure Step where
  op : FileOp
  ifRefused : Cause
  deriving DecidableEq, Repr

namespace Disk

/-! ## Reading -/

/-- What is at a path. The root and the directories on the way to here are always there. -/
def node? (disk : Disk) (path : Path) : Option Node :=
  if path == .root || path.leadsTo disk.here then some .directory else disk.entries.lookup path

def isDirectory (disk : Disk) (path : Path) : Bool := disk.node? path == some .directory

/-- Whether there is anything at a path. -/
def has (disk : Disk) (path : Path) : Bool := path.isPossible && (disk.node? path).isSome

/-- The text of a file. -/
def read? (disk : Disk) (path : Path) : Option String :=
  match disk.node? path with
  | some (.file text) => some text
  | _ => none

/-- The last path on the way to a path that there is something at. -/
def reached (disk : Disk) (path : Path) : Path × Node :=
  disk.entries.foldl
    (fun best entry =>
      if best.1.names.length < entry.1.names.length && entry.1.leadsTo path then entry else best)
    (path.common disk.here, .directory)

/-- The names on the way to a path that there is nothing at. -/
def missingNames (disk : Disk) (path : Path) : List String :=
  path.names.drop (disk.reached path).1.names.length

/-! ## Changing -/

/-- The disk with a path taken out, and all below it. -/
def erase (disk : Disk) (path : Path) : Disk :=
  { disk with entries := disk.entries.filter fun entry => !path.leadsTo entry.1 }

/-- The disk with a path taken out. -/
def without (disk : Disk) (path : Path) : Disk :=
  { disk with entries := disk.entries.filter (·.1 != path) }

/-- The disk with something else at a path. -/
def put (disk : Disk) (path : Path) (node : Node) : Disk :=
  { disk with entries := disk.entries.filter (·.1 != path) ++ [(path, node)] }

/-- Directories one below the other, from a path down. -/
def directoriesBelow (path : Path) : List String → List (Path × Node)
  | [] => []
  | name :: rest => (path.child name, .directory) :: directoriesBelow (path.child name) rest

/-- The disk with directories of some names below the last that there is on the way to a path. -/
def addBelow (disk : Disk) (path : Path) (names : List String) : Disk :=
  { disk with entries := disk.entries ++ directoriesBelow (disk.reached path).1 names }

/-- The disk with all directories on the way to a path. -/
def addDirectories (disk : Disk) (path : Path) : Disk :=
  disk.addBelow path (disk.missingNames path)

/-- Whether a file can be at a path: in a directory, and in no directory's place. -/
def admitsFile (disk : Disk) (path : Path) : Bool :=
  path.isPossible && disk.isDirectory path.parent && !disk.isDirectory path

/-- The first names on the way to a path that directories can be made for, and whether they are
all that are missing. -/
def makeableNames (disk : Disk) (path : Path) : List String × Bool :=
  let names := disk.missingNames path
  let makeable := names.takeWhile (!Path.isLongName ·)
  (makeable, makeable.length = names.length)

/-- Makes directories, one below the other, up to the first name that is too long. -/
def makeDirectories (disk : Disk) (path : Path) : Disk × Bool :=
  if (disk.reached path).2 = .directory then
    let (names, all) := disk.makeableNames path
    (disk.addBelow path names, all)
  else (disk, false)

/-- Whether the disk finds nothing amiss with removing a file from a path: there is one, or nothing
that hides one. -/
def admitsRemoval (disk : Disk) (path : Path) : Bool :=
  match disk.reached path with
  | (last, .file _) => last == path
  | (_, .directory) =>
    match disk.missingNames path with
    | [] => false
    | name :: _ => !Path.isLongName name

/-- The disk after an operation, and whether that was carried out. -/
def change (disk : Disk) : FileOp → Disk × Bool
  | .makeDirectories path =>
    if Path.canFollow path.text then disk.makeDirectories path else (disk, false)
  | .write path text =>
    if disk.admitsFile path then (disk.put path (.file text), true) else (disk, false)
  | .rename source target =>
    match disk.read? source with
    | some text =>
      if disk.admitsFile target then ((disk.without source).put target (.file text), true)
      else (disk, false)
    | none => (disk, false)
  | .remove path =>
    if Path.canFollow path.text && disk.admitsRemoval path then (disk.without path, true)
    else (disk, false)

section

variable {disk : Disk} {path source target : Path} {text : String}

theorem change_makeDirectories : disk.change (.makeDirectories path) =
    if Path.canFollow path.text then disk.makeDirectories path else (disk, false) := rfl

theorem change_write : disk.change (.write path text) =
    if disk.admitsFile path then (disk.put path (.file text), true) else (disk, false) := rfl

theorem change_rename : disk.change (.rename source target) =
    match disk.read? source with
    | some text =>
      if disk.admitsFile target then ((disk.without source).put target (.file text), true)
      else (disk, false)
    | none => (disk, false) := rfl

theorem change_remove : disk.change (.remove path) =
    if Path.canFollow path.text && disk.admitsRemoval path then (disk.without path, true)
    else (disk, false) := rfl

end

/-- The part of an operation that is done when it stops within. Moving and removing a file have no
parts. -/
def part (disk : Disk) (done : Nat) : FileOp → Disk
  | .makeDirectories path =>
    if Path.canFollow path.text && (disk.reached path).2 = .directory then
      disk.addBelow path ((disk.makeableNames path).1.take done)
    else disk
  | .write path text =>
    if disk.admitsFile path then disk.put path (.file (String.ofList (text.toList.take done)))
    else disk
  | .rename .. => disk
  | .remove _ => disk

/-- The disk with one outage less to come. -/
def later (disk : Disk) : Disk := { disk with outages := disk.outages.tail }

/-- Tries an operation: the disk after it, and whether it was carried out. -/
def attempt (disk : Disk) (op : FileOp) : Disk × Bool :=
  match disk.outages.headD .none with
  | .none => disk.later.change op
  | .refused => (disk.later, false)
  | .torn done => (disk.later.part done op, false)

/-- Carries out steps up to the first that is refused. -/
def run (disk : Disk) : List Step → Disk × Except Cause Unit
  | [] => (disk, .ok ())
  | step :: rest =>
    match disk.attempt step.op with
    | (changed, true) => changed.run rest
    | (changed, false) => (changed, .error step.ifRefused)

@[simp] theorem run_nil (disk : Disk) : disk.run [] = (disk, .ok ()) := rfl

theorem run_cons (disk : Disk) (step : Step) (rest : List Step) :
    disk.run (step :: rest) =
      match disk.attempt step.op with
      | (changed, true) => changed.run rest
      | (changed, false) => (changed, .error step.ifRefused) := rfl

/-! ## Following a text, name by name

Unlike a path, which is where a text leads if everything is there, a walk has to find a directory
under each name before it goes on, also where the next name goes up again. -/

/-- Why a walk ends too early. -/
inductive Obstacle where
  /-- There is nothing under a name. -/
  | missing
  /-- A file stands where the walk should go on. -/
  | file
  | longName
  deriving DecidableEq, Repr

/-- Follows names from what is at a path. -/
def walkFrom (disk : Disk) (path : Path) (node : Node) : List String → Except Obstacle Node
  | [] => .ok node
  | name :: rest =>
    match node with
    | .file _ => .error .file
    | .directory =>
      if name == "" || name == "." then disk.walkFrom path .directory rest
      else if name == ".." then disk.walkFrom path.parent .directory rest
      else if Path.isLongName name then .error .longName
      else
        match disk.node? (path.child name) with
        | some next => disk.walkFrom (path.child name) next rest
        | none => .error .missing

/-- What a text leads to. -/
def walk (disk : Disk) (text : String) : Except Obstacle Node :=
  if Path.canFollow text then
    disk.walkFrom (Path.start disk.here text) .directory (Path.namesOf text)
  else .error .longName

end Disk

end RelStore
