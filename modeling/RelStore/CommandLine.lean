/-
The command line.

The arguments and the environment choose a catalog and a database to begin with. Then a script is
run, from an argument or from a file, or else the shell is opened on the input.
-/
import RelStore.CommandLine.Arguments
import RelStore.Connection
import RelStore.Disk
import RelStore.Shell

namespace RelStore.CommandLine

open Display (Colour)

/-- What a finished command leaves behind. -/
structure Result where
  status : Nat
  output : String
  errors : String
  disk : Disk
  deriving DecidableEq, Repr

/-- How a command begins: it is finished at once, or the shell is open. -/
inductive Start where
  | finished (result : Result)
  | interactive (shell : Shell)
  deriving DecidableEq, Repr

/-! ## Texts -/

def versionText : String := "0.1.0"

/-- The option that asks for help, as it is shown. -/
def helpUsage : String := "-h, --help"

/-- The lines about one option, in a column of the given width. -/
def optionLines (width : Nat) (usage : String) (about : List String) : List String :=
  let blank := Text.padEnd width ""
  about.mapIdx fun n line => "  " ++ (if n = 0 then Text.padEnd width usage else blank) ++ "  " ++ line

def helpLines : List String :=
  let entries := flagSpecs.map (fun spec => (spec.usage, spec.about)) ++
    [(helpUsage, ["display help for command"])]
  let width := entries.foldl (fun width (usage, _) => max width (Text.length usage)) 0
  ["Usage: keeldb [options]", "", "A small relational database engine with a SQL REPL", "", "Options:"] ++
    entries.flatMap fun (usage, about) => optionLines width usage about

def linesText (lines : List String) : String := String.join (lines.map (· ++ "\n"))

/-! ## Scripts from files -/

/-- Why a script cannot be read. -/
inductive ScriptProblem where
  | obstacle (obstacle : Disk.Obstacle) (file : String)
  | isDirectory
  deriving DecidableEq, Repr

def ScriptProblem.message : ScriptProblem → String
  | .obstacle .missing file => s!"ENOENT: no such file or directory, open '{file}'"
  | .obstacle .file file => s!"ENOTDIR: not a directory, open '{file}'"
  | .obstacle .longName file => s!"ENAMETOOLONG: name too long, open '{file}'"
  | .isDirectory => "EISDIR: illegal operation on a directory, read"

def readScript (disk : Disk) (file : String) : Except ScriptProblem String :=
  match disk.walk file with
  | .ok (.file text) => .ok text
  | .ok .directory => .error .isDirectory
  | .error obstacle => .error (.obstacle obstacle file)

/-- The script that the arguments give, if they give one. -/
def script? (arguments : Arguments) (disk : Disk) : Except ScriptProblem (Option String) :=
  match arguments.execute, nonemptyText? arguments.file with
  | some sql, _ => .ok (some sql)
  | none, some file => (readScript disk file).map some
  | none, none => .ok none

/-! ## Running -/

/-- A command that fails before it runs anything. -/
def failed (coloured : Bool) (disk : Disk) (message : String) : Start :=
  .finished ⟨1, "", Colour.red.paint coloured s!"\nError: {message}" ++ "\n", disk⟩

/-- Runs a script and shows each outcome. -/
def runScript (coloured : Bool) (workspace : Workspace) (sql : String) : Result :=
  let (after, outcomes) := workspace.executeScript sql
  { status := if outcomes.all (·.succeeded) then 0 else 1
    output := linesText (outcomes.map (·.report coloured))
    errors := ""
    disk := after.engine.disk }

/-- Begins in a workspace. -/
def beginIn (coloured : Bool) (arguments : Arguments) (workspace : Workspace) : Start :=
  match script? arguments workspace.engine.disk with
  | .error problem => failed coloured workspace.engine.disk problem.message
  | .ok (some sql) => .finished (runScript coloured workspace sql)
  | .ok none => .interactive { workspace, coloured }

/-- Begins with what arguments choose. -/
def beginWith (coloured : Bool) (arguments : Arguments) (env : Environment) (disk : Disk) : Start :=
  match env.config.bind arguments.options.settings with
  | .error cause => failed coloured disk cause.message
  | .ok settings =>
    match Workspace.ofSettings disk settings with
    | (disk, .error cause) => failed coloured disk cause.message
    | (_, .ok workspace) => beginIn coloured arguments workspace

/-- Begins as the arguments ask. -/
def start (coloured : Bool) (arguments : List String) (env : Environment) (disk : Disk) : Start :=
  match Request.ofArguments arguments with
  | .version => .finished ⟨0, versionText ++ "\n", "", disk⟩
  | .help => .finished ⟨0, linesText helpLines, "", disk⟩
  | .refused message => .finished ⟨1, "", Colour.red.paint coloured (message ++ "\n"), disk⟩
  | .run arguments => beginWith coloured arguments env disk

/-- Runs a command to its end on a whole input; each run takes some milliseconds. -/
def run (coloured : Bool) (milliseconds : String) (arguments : List String) (env : Environment)
    (input : String) (disk : Disk) : Result :=
  match start coloured arguments env disk with
  | .finished result => result
  | .interactive shell =>
    let (after, output) := shell.converse (Shell.linesOf input)
    ⟨0, Shell.render coloured milliseconds output, "", after.workspace.engine.disk⟩

end RelStore.CommandLine
