/-
The interactive shell.

The shell is fed lines. Lines of SQL are collected until they end in a semicolon and are then run
as a script; a line that begins with a dot, when nothing is collected, is a command to the shell.
Each line leads to the next state and to output (`enter`). Output is text except for the time
that running took, which only the terminal knows.
-/
import RelStore.Display
import RelStore.Shell.Texts
import RelStore.Text.Blank

namespace RelStore

open Display (Colour)

structure Shell where
  workspace : Workspace
  /-- The lines of SQL that are collected. -/
  pending : String := ""
  isRunning : Bool := true
  coloured : Bool := false
  deriving DecidableEq, Repr

namespace Shell

/-- A piece of output. -/
inductive Piece where
  | text (s : String)
  /-- The time that running took. -/
  | elapsed
  deriving DecidableEq, Repr

/-- A line of output. -/
def say (s : String) : Piece := .text (s ++ "\n")

/-- A line of output in a colour. -/
def sayIn (shell : Shell) (colour : Colour) (s : String) : Piece :=
  say (colour.paint shell.coloured s)

/-- The text of a piece, when running took some milliseconds. -/
def Piece.render (coloured : Bool) (milliseconds : String) : Piece → String
  | .text s => s
  | .elapsed => Colour.dim.paint coloured s!"({milliseconds}ms)\n" ++ "\n"

def render (coloured : Bool) (milliseconds : String) (output : List Piece) : String :=
  String.join (output.map (·.render coloured milliseconds))

/-- The prompt: the database of the session, or dots while lines are collected. -/
def prompt (shell : Shell) : Piece :=
  let database := shell.workspace.session.database.getD "keeldb"
  .text (if shell.pending.isEmpty then database ++ "> " else "...> ")

/-- Output of an outcome: failures are red, changes green. -/
def sayOutcome (shell : Shell) (outcome : Outcome) : Piece :=
  match outcome with
  | .error _ => shell.sayIn .red outcome.text
  | .ok (.mutation ..) => shell.sayIn .green outcome.text
  | .ok _ => say outcome.text

/-- Runs a script, unless it consists of semicolons only. -/
def run (shell : Shell) (sql : String) : Shell × List Piece :=
  if sql.toList.all (· == ';') then (shell, [])
  else
    let (workspace, outcomes) := shell.workspace.executeScript sql
    ({ shell with workspace }, outcomes.map shell.sayOutcome ++ [.elapsed])

/-- Stops and takes leave. -/
def stop (shell : Shell) : Shell × List Piece :=
  if shell.isRunning then ({ shell with isRunning := false }, [shell.sayIn .dim "\nGoodbye!\n"])
  else (shell, [])

/-- Runs a statement that takes an argument, or tells how it is used. -/
def runWith (shell : Shell) (argument usage statement : String) : Shell × List Piece :=
  if argument.isEmpty then (shell, [say usage]) else shell.run s!"{statement} {argument};"

/-- Clears the screen. -/
def clearScreen : Piece := .text "\x1bc"

/-- Follows a command to the shell. -/
def command (shell : Shell) (line : String) : Shell × List Piece :=
  let words := Text.splitBlanks line
  let name := Text.lower (words.headD "")
  let argument := String.intercalate " " words.tail
  match name with
  | ".help" => (shell, [say helpText])
  | ".databases" => shell.run "SHOW DATABASES;"
  | ".tables" => shell.run "SHOW TABLES;"
  | ".describe" => shell.runWith argument "Usage: .describe <table_name>" "DESCRIBE"
  | ".use" => shell.runWith argument "Usage: .use <database>" "USE"
  | ".clear" => (shell, [clearScreen])
  | ".quit" => shell.stop
  | ".exit" => shell.stop
  | _ =>
    (shell, [shell.sayIn .yellow s!"Unknown command: {name}. Type .help for available commands."])

/-- Collects a line of SQL, and runs what is collected if it ends in a semicolon. -/
def collect (shell : Shell) (line : String) : Shell × List Piece :=
  let text := if shell.pending.isEmpty then line else shell.pending ++ "\n" ++ line
  let sql := Text.trim text
  if sql.endsWith ";" then { shell with pending := "" }.run sql
  else ({ shell with pending := text }, [])

/-- Whether a line is a command to the shell. -/
def isCommand (shell : Shell) (line : String) : Bool :=
  shell.pending.isEmpty && (Text.trim line).startsWith "."

/-- Takes a line. -/
def enter (shell : Shell) (line : String) : Shell × List Piece :=
  if shell.isRunning then
    let (shell, output) :=
      if shell.isCommand line then shell.command (Text.trim line) else shell.collect line
    (shell, if shell.isRunning then output ++ [shell.prompt] else output)
  else (shell, [])

/-- What is shown at first. -/
def welcome (shell : Shell) : List Piece := [shell.sayIn .cyan banner, shell.prompt]

def enterAll (shell : Shell) : List String → Shell × List Piece
  | [] => (shell, [])
  | line :: rest =>
    let (shell, output) := shell.enter line
    let (shell, more) := shell.enterAll rest
    (shell, output ++ more)

/-- A whole session: welcome, lines, leave. -/
def converse (shell : Shell) (lines : List String) : Shell × List Piece :=
  let (after, output) := shell.enterAll lines
  let (stopped, leave) := after.stop
  (stopped, shell.welcome ++ output ++ leave)

/-! ## Lines -/

/-- The lines of a text, the characters of the current one in reverse. Lines end at line feeds, at
carriage returns, and at both together. -/
def splitLines : List Char → List Char → List (List Char)
  | current, [] => if current.isEmpty then [] else [current.reverse]
  | current, '\r' :: '\n' :: rest => current.reverse :: splitLines [] rest
  | current, c :: rest =>
    if c == '\n' || c == '\r' then current.reverse :: splitLines [] rest
    else splitLines (c :: current) rest

/-- The lines of a text; one that is not ended is a line unless it is empty. -/
def linesOf (text : String) : List String := (splitLines [] text.toList).map String.ofList

end Shell

end RelStore
