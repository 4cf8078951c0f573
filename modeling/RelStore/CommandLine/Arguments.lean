/-
The arguments of the command line.

Options have a long name, some a short one too, and some take a value. A value is the next
argument, or follows in the same one after the short name or after an equals sign; short names
without values can be put together. After `--` nothing is an option. Arguments that are no
options are let pass; an option that is not known is refused, unless help is asked for.
-/
import RelStore.Settings

namespace RelStore.CommandLine

inductive Flag where
  | version
  | directory
  | database
  | url
  | memory
  | execute
  | file
  deriving DecidableEq, Repr

/-- How an option is written. -/
structure FlagSpec where
  flag : Flag
  short : Option Char
  long : String
  /-- What the value is called, if the option takes one. -/
  value : Option String
  /-- What the option does, in lines. -/
  about : List String
  deriving DecidableEq, Repr

def flagSpecs : List FlagSpec :=
  [⟨.version, some 'V', "version", none, ["output the version number"]⟩,
   ⟨.directory, some 'd', "data-dir", some "path",
    ["Directory holding catalog.json and database files"]⟩,
   ⟨.database, none, "database", some "name", ["Database to use at start (created if missing)"]⟩,
   ⟨.url, none, "url", some "url",
    ["Connection URL:", "keeldb://localhost/<database>?data_dir=<path>"]⟩,
   ⟨.memory, some 'm', "memory", none,
    ["Keep everything in memory; nothing is written to disk"]⟩,
   ⟨.execute, some 'e', "execute", some "sql", ["Execute SQL and exit"]⟩,
   ⟨.file, some 'f', "file", some "path", ["Execute a SQL script file and exit"]⟩]

/-- The option as it is shown: its names and its value. -/
def FlagSpec.usage (spec : FlagSpec) : String :=
  let short := match spec.short with
    | some c => s!"-{c}, "
    | none => ""
  let value := match spec.value with
    | some name => s!" <{name}>"
    | none => ""
  s!"{short}--{spec.long}{value}"

/-- What the arguments choose. -/
structure Arguments where
  options : Options := {}
  /-- A script to run. -/
  execute : Option String := none
  /-- The file of a script to run. -/
  file : Option String := none
  deriving DecidableEq, Repr

/-- What the arguments ask for. -/
inductive Request where
  | run (arguments : Arguments)
  | version
  | help
  | refused (message : String)
  deriving DecidableEq, Repr

/-- Sets an option; of values given more than once the last counts. -/
def Arguments.set (arguments : Arguments) (flag : Flag) (value : String) : Arguments :=
  let options := arguments.options
  match flag with
  | .version => arguments
  | .directory => { arguments with options := { options with directory := some value } }
  | .database => { arguments with options := { options with database := some value } }
  | .url => { arguments with options := { options with url := some value } }
  | .memory => { arguments with options := { options with inMemory := true } }
  | .execute => { arguments with execute := some value }
  | .file => { arguments with file := some value }

/-! ## Finding options -/

/-- The option that an argument is. -/
def findFlag? (argument : List Char) : Option FlagSpec :=
  flagSpecs.find? fun spec =>
    argument == "--".toList ++ spec.long.toList || spec.short.any fun c => argument == ['-', c]

/-- The option that takes what follows an equals sign in the argument. -/
def findAssigned? (argument : List Char) : Option (FlagSpec × List Char) :=
  match argument, argument.dropWhile (· != '=') with
  | '-' :: '-' :: next :: _, '=' :: value =>
    if next == '=' then none
    else
      match findFlag? (argument.takeWhile (· != '=')) with
      | some spec => if spec.value.isSome then some (spec, value) else none
      | none => none
  | _, _ => none

def looksLikeOption (argument : List Char) : Bool :=
  argument.head? == some '-' && 1 < argument.length

def isHelp (argument : List Char) : Bool := argument == "-h".toList || argument == "--help".toList

/-! ## Refusing options -/

/-- A row of the table of distances between the beginnings of two texts. -/
structure DistanceRow where
  /-- The unit of the first text that the row is for. -/
  unit : Option UInt16
  cells : List Nat

/-- The cells of a row from left to right: by deleting, inserting, replacing, or swapping two
units that stand in the other order. `above` is the row before, `older` the one before that. -/
def distanceCells (unit : UInt16) (swaps : Option UInt16) :
    List UInt16 → Option UInt16 → Nat → List Nat → List Nat → List Nat
  | other :: rest, before, left, aboveLeft :: above :: aboves, overs =>
    let replaced := aboveLeft + (if unit == other then 0 else 1)
    let best := min (min (above + 1) (left + 1)) replaced
    let swapped := match overs with
      | older :: _ =>
        if some other == swaps && before == some unit then min best (older + 1) else best
      | [] => best
    swapped :: distanceCells unit swaps rest (some other) swapped (above :: aboves)
      (if before.isSome then overs.tail else overs)
  | _, _, _, _, _ => []

/-- The rows for the units of the first text, from the row before and the one before that. -/
def distanceRows (target : List UInt16) : List UInt16 → DistanceRow → List Nat → Nat → List Nat
  | [], row, _, _ => row.cells
  | unit :: rest, row, older, count =>
    let cells := count :: distanceCells unit row.unit target none count row.cells older
    distanceRows target rest ⟨some unit, cells⟩ row.cells (count + 1)

/-- The least number of deletions, insertions, replacements and swaps of neighbours that lead from
one text to another, none of them within the result of another. -/
def editDistance (a b : List UInt16) : Nat :=
  (distanceRows b a ⟨none, List.range (b.length + 1)⟩ [] 1).getLastD 0

/-- The greatest distance of a name that is suggested. -/
def suggestedDistance : Nat := 3

/-- The distance of a name that is near enough to a mistyped one: by few changes, and less than
three fifths of the longer. -/
def nearness? (word candidate : List UInt16) : Option Nat :=
  let distance := editDistance word candidate
  let longer := max word.length candidate.length
  if distance ≤ suggestedDistance && 4 * longer < 10 * (longer - distance) then some distance
  else none

/-- The names that are nearest to a mistyped one, in alphabetical order. -/
def nearestNames (word : String) : List String :=
  let names := flagSpecs.map (·.long) ++ ["help"]
  let near := names.filterMap fun name => (nearness? (Text.units word) (Text.units name)).map fun n => (n, name)
  let best := near.foldl (fun best (n, _) => min best n) suggestedDistance
  ((near.filter (·.1 == best)).map (·.2)).mergeSort (· ≤ ·)

/-- A suggestion in place of an option that is not known. -/
def suggestion (argument : List Char) : String :=
  match argument with
  | '-' :: '-' :: word =>
    match (nearestNames (String.ofList word)).map fun name => "--" ++ name with
    | [] => ""
    | [name] => s!"\n(Did you mean {name}?)"
    | names =>
      let all := String.intercalate ", " names
      s!"\n(Did you mean one of {all}?)"
  | _ => ""

def unknownOption (argument : List Char) : Request :=
  let shown := String.ofList argument
  .refused s!"error: unknown option '{shown}'{suggestion argument}"

def missingValue (spec : FlagSpec) : Request :=
  .refused s!"error: option '{spec.usage}' argument missing"

/-! ## Reading -/

/-- What the arguments after `--`, or after the last, leave to do. -/
def finish (arguments : Arguments) (unknown : List (List Char)) : Request :=
  if unknown.any isHelp then .help
  else
    match unknown with
    | first :: _ => unknownOption first
    | [] => .run arguments

/-- The number of characters and of arguments. -/
def size : List (List Char) → Nat
  | [] => 0
  | text :: rest => text.length + 1 + size rest

/-- Reads arguments, given those read before: what they choose, and from the first option that is
not known on what is not an option either. -/
def read (arguments : Arguments) (unknown : List (List Char)) (texts : List (List Char)) : Request :=
  match texts with
  | [] => finish arguments unknown
  | text :: rest =>
    if text == "--".toList then
      finish arguments (if unknown.isEmpty then [] else unknown ++ text :: rest)
    else if !looksLikeOption text then
      read arguments (if unknown.isEmpty then [] else unknown ++ [text]) rest
    else
      match findFlag? text with
      | some spec =>
        if spec.flag = .version then .version
        else if spec.value.isSome then
          match rest with
          | [] => missingValue spec
          | value :: rest => read (arguments.set spec.flag (String.ofList value)) unknown rest
        else read (arguments.set spec.flag "") unknown rest
      | none =>
        match text with
        | '-' :: c :: next :: group =>
          match if c == '-' then none else findFlag? ['-', c] with
          | some spec =>
            if spec.flag = .version then .version
            else if spec.value.isSome then
              read (arguments.set spec.flag (String.ofList (next :: group))) unknown rest
            else read (arguments.set spec.flag "") unknown (('-' :: next :: group) :: rest)
          | none =>
            match findAssigned? text with
            | some (spec, value) =>
              read (arguments.set spec.flag (String.ofList value)) unknown rest
            | none => read arguments (unknown ++ [text]) rest
        | _ => read arguments (unknown ++ [text]) rest
termination_by size texts
decreasing_by all_goals simp_all [size]; try omega

/-- What the arguments of the command line ask for. -/
def Request.ofArguments (arguments : List String) : Request :=
  read {} [] (arguments.map String.toList)

end RelStore.CommandLine
