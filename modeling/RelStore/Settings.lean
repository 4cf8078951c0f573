/-
Where to connect, and how that is chosen.

A connection URL names a database and may name the directory it is in. The environment and the
options of a command line choose between such URLs, directories, databases and memory.
-/
import RelStore.Issue
import RelStore.Sql.Name
import RelStore.Url

namespace RelStore

/-! ## Connection URLs -/

/-- What a connection URL names. -/
structure Target where
  host : String
  database : String
  directory : String
  deriving DecidableEq, Repr

/-- The scheme of connection URLs. -/
def connectionScheme : String := "keeldb"

/-- A path without the slashes around it. -/
def barePath (path : String) : String :=
  let isSlash (c : Char) : Bool := c == '/'
  String.ofList ((path.toList.dropWhile isSlash).reverse.dropWhile isSlash).reverse

/-- A text unless it is empty. -/
def nonemptyText? (text? : Option String) : Option String := text?.filter (!·.isEmpty)

/-- What a connection URL names. Without a host it is the local one, without a directory the given
one. -/
def Target.ofUrl (url : String) (directory : String) : Except Cause Target := do
  let some parsed := Url.parse? url
    | throw (.malformedUrl url)
  if parsed.scheme ≠ connectionScheme then throw (.wrongScheme url)
  let some database := Url.decodeText? (barePath parsed.path)
    | throw .malformedEscape
  if database.isEmpty then throw (.urlWithoutDatabase url)
  Sql.checkName .database database
  return {
    host := (nonemptyText? (some parsed.host)).getD "localhost"
    database := database
    directory := (nonemptyText? (parsed.field? "data_dir")).getD directory }

/-- The directory of a connection URL that names none. -/
def urlDirectory : String := "data"

/-! ## The environment -/

inductive LogLevel where
  | trace
  | debug
  | info
  | warn
  | error
  | fatal
  | silent
  deriving DecidableEq, Repr

def LogLevel.name : LogLevel → String
  | .trace => "trace"
  | .debug => "debug"
  | .info => "info"
  | .warn => "warn"
  | .error => "error"
  | .fatal => "fatal"
  | .silent => "silent"

def LogLevel.all : List LogLevel := [.trace, .debug, .info, .warn, .error, .fatal, .silent]

def LogLevel.ofName? (name : String) : Option LogLevel := LogLevel.all.find? (·.name == name)

/-- The variables of an environment. -/
abbrev Environment := List (String × String)

/-- The level of logging: as the environment says, or silent under test. -/
def Environment.logLevel (env : Environment) : LogLevel :=
  match (env.lookup "LOG_LEVEL").bind fun name => LogLevel.ofName? (Text.lower name) with
  | some level => level
  | none => if env.lookup "NODE_ENV" == some "test" then .silent else .info

/-- What an environment chooses. -/
structure Config where
  directory : String
  database : Option String := none
  logLevel : Option LogLevel := none
  deriving DecidableEq, Repr

/-- The directory that is used if none is chosen. -/
def usualDirectory : String := "./data"

namespace Environment

/-- A variable that must not be empty if it is given. -/
def nonempty? (env : Environment) (name : String) : Checked (Option String) :=
  match env.lookup name with
  | none => .ok none
  | some "" => .issue [name] Issue.emptyText
  | some text => .ok (some text)

/-- The level of logging, in any letter case. -/
def logLevel? (env : Environment) : Checked (Option LogLevel) :=
  match env.lookup "LOG_LEVEL" with
  | none => .ok none
  | some text =>
    match LogLevel.ofName? (Text.lower text) with
    | some level => .ok (some level)
    | none =>
      .issue ["LOG_LEVEL"] (Issue.notAChoice (LogLevel.all.map (·.name)) (Text.lower text))

/-- What the environment chooses. A URL chooses database and directory, but a database that is
named by itself comes before that of the URL. -/
def config (env : Environment) : Except Cause Config := do
  let directory := env.nonempty? "KEELDB_DATA_DIR"
  let database := env.nonempty? "KEELDB_DATABASE"
  let url := env.nonempty? "KEELDB_URL"
  match Checked.both directory (.both database (.both url env.logLevel?)) with
  | .error issues => throw (.badEnvironment (Issue.textOf issues))
  | .ok (directory?, database?, url?, logLevel) =>
    let directory := directory?.getD usualDirectory
    match url? with
    | none => return { directory, database := database?, logLevel }
    | some url =>
      let target ← Target.ofUrl url directory
      return {
        directory := target.directory
        database := some (database?.getD target.database)
        logLevel }

end Environment

/-! ## Options -/

/-- What the options of a command line choose. -/
structure Options where
  directory : Option String := none
  database : Option String := none
  url : Option String := none
  inMemory : Bool := false
  deriving DecidableEq, Repr

/-- Where the catalog is, memory without a directory, and the database to begin with. -/
structure Settings where
  directory : Option String
  database : Option String
  deriving DecidableEq, Repr

/-- The options come before the environment, and a URL before the other options. -/
def Options.settings (options : Options) (config : Config) : Except Cause Settings :=
  match nonemptyText? options.url with
  | some url =>
    (Target.ofUrl url urlDirectory).map fun target => ⟨some target.directory, some target.database⟩
  | none =>
    .ok {
      directory := if options.inMemory then none else some (options.directory.getD config.directory)
      database := options.database <|> config.database }

end RelStore
