/-
The program: the command line on the files, the input and the terminal there are.

What a command needs of the files is read into a `Disk` first, and what it changes on that disk is
written to the files when a line of input, or the whole script, has been run.
-/
import RelStore.Clock
import RelStore.CommandLine
import Std.Time.DateTime.Timestamp

namespace RelStore.Program

/-! ## Files -/

/-- A path as the file system takes it. -/
def fileName (path : Path) : String := Text.leave path.text

/-- What is at a path of the file system. What cannot be read as a file counts as a directory. -/
def nodeAt? (path : Path) : IO (Option Node) := do
  try
    let bytes ← IO.FS.readBinFile (fileName path)
    return some (.file (Text.ofBytes (bytes.toList.map (·.toNat))))
  catch
    | .noFileOrDirectory .. => return none
    | _ => return some .directory

/-- The disk with what is at a path of the file system. -/
def readInto (disk : Disk) (path : Path) : IO Disk := do
  match ← nodeAt? path with
  | some node => return (disk.addDirectories path.parent).put path node
  | none => return disk

/-- The disk with what a walk along a text meets. -/
def readWalk (disk : Disk) (text : String) : IO Disk := do
  let (_, disk) ← (Path.namesOf text).foldlM
    (fun (path, disk) name => do
      let path := path.step name
      return (path, ← readInto disk path)) (Path.start disk.here text, disk)
  return disk

/-- The disk with the files of a store. -/
def readStore (disk : Disk) (store : Store) : IO Disk := do
  let disk ← readInto disk store.catalogPath
  match store.loadNames disk with
  | .error _ => return disk
  | .ok names => names.foldlM (fun disk name => readInto disk (store.databasePath name)) disk

/-- The disk with the files that a command can ask for. -/
def readNeeded (arguments : List String) (env : Environment) (disk : Disk) : IO Disk := do
  match CommandLine.Request.ofArguments arguments with
  | .run chosen =>
    let disk ← match chosen.file with
      | some file => readWalk disk file
      | none => pure disk
    match (env.config.bind chosen.options.settings).map (·.directory) with
    | .ok (some directory) => readStore disk (.resolve disk.here directory)
    | _ => return disk
  | _ => return disk

/-- Writes a file beside its place and moves it there. -/
def replaceFile (path : Path) (text : String) : IO Unit := do
  let draft := path.withEnding ".tmp"
  IO.FS.writeFile (fileName draft) (Text.leave text)
  IO.FS.rename (fileName draft) (fileName path)

/-- Makes the file system follow a disk at one path. -/
def writeNode (before : Disk) (path : Path) (node : Node) : IO Unit := do
  if before.node? path ≠ some node then
    match node with
    | .directory => IO.FS.createDirAll (fileName path)
    | .file text => replaceFile path text

/-- Makes the file system follow a disk from one state to another. -/
def writeChanges (before after : Disk) : IO Unit := do
  after.entries.forM fun (path, node) => writeNode before path node
  before.entries.forM fun (path, node) => do
    if (after.node? path).isNone && node ≠ .directory then IO.FS.removeFile (fileName path)

/-! ## Time and environment -/

def now : IO String := do
  let stamp ← Std.Time.Timestamp.now
  return Clock.text stamp.toMillisecondsSinceUnixEpoch.val.toNat

/-- The variables that the program looks at. -/
def variableNames : List String :=
  ["KEELDB_DATA_DIR", "KEELDB_DATABASE", "KEELDB_URL", "LOG_LEVEL", "NODE_ENV"]

def environment : IO Environment :=
  variableNames.filterMapM fun name => do
    return (← IO.getEnv name).map fun value => (name, Text.enter value)

/-- The disk as it is seen from the current directory. -/
def emptyDisk : IO Disk := do
  let here ← IO.currentDir
  return { here := Path.root.resolve (Text.enter (toString here)), entries := [], clock := ← now }

/-! ## The shell -/

def print (text : String) : IO Unit := IO.print (Text.leave text)

def setClock (shell : Shell) (clock : String) : Shell :=
  { shell with
    workspace.engine.disk := { shell.workspace.engine.disk with clock } }

/-- Feeds one line to the shell, writes what it changes and shows what it says. -/
def enterLine (shell : Shell) (line : String) : IO Shell := do
  let shell := setClock shell (← now)
  let start ← IO.monoMsNow
  let (after, output) := shell.enter line
  writeChanges shell.workspace.engine.disk after.workspace.engine.disk
  let span := toString ((← IO.monoMsNow) - start)
  print (Shell.render shell.coloured span output)
  return after

/-- Feeds the input to the shell until it ends or the shell stops. -/
partial def converse (input : IO.FS.Stream) (shell : Shell) : IO Unit := do
  let text ← input.getLine
  if text.isEmpty || !shell.isRunning then
    print (Shell.render shell.coloured "0" shell.stop.2)
  else
    converse input (← (Shell.linesOf (Text.enter text)).foldlM enterLine shell)

/-- Runs a command. -/
def run (arguments : List String) : IO UInt32 := do
  let env ← environment
  let disk ← readNeeded arguments env (← emptyDisk)
  match CommandLine.start false arguments env disk with
  | .finished result =>
    writeChanges disk result.disk
    print result.output
    IO.eprint (Text.leave result.errors)
    return result.status.toUInt32
  | .interactive shell =>
    writeChanges disk shell.workspace.engine.disk
    print (Shell.render shell.coloured "0" shell.welcome)
    converse (← IO.getStdin) shell
    return 0

end RelStore.Program

def main (arguments : List String) : IO UInt32 :=
  RelStore.Program.run (arguments.map RelStore.Text.enter)
