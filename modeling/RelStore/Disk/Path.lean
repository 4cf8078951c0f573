/-
Paths of files.

A path is the list of names from the root of the disk. `descend` follows a text from a path: the
empty name and `.` stay, `..` goes up, and every other name goes down.
-/
import RelStore.Text.Bytes

namespace RelStore

structure Path where
  names : List String
  deriving DecidableEq, Repr

namespace Path

def root : Path := ⟨[""]⟩

/-- The path as text. The root of the disk is the slash. -/
def text (path : Path) : String :=
  if path = root then "/" else String.intercalate "/" path.names

/-- The path one name down. -/
def child (path : Path) (name : String) : Path := ⟨path.names ++ [name]⟩

/-- The path one name up. There is nothing above the root. -/
def parent (path : Path) : Path :=
  if path.names.length ≤ 1 then root else ⟨path.names.dropLast⟩

def step (path : Path) (name : String) : Path :=
  if name == "" || name == "." then path
  else if name == ".." then path.parent
  else path.child name

/-- The characters between slashes. -/
def segments : List Char → List (List Char)
  | [] => [[]]
  | c :: rest =>
    if c == '/' then [] :: segments rest
    else
      match segments rest with
      | [] => [[c]]
      | segment :: others => (c :: segment) :: others

/-- The names that a text consists of. -/
def namesOf (text : String) : List String :=
  (segments (Text.wellFormed text).toList).map String.ofList

/-- The path that a text leads to from here. -/
def descend (path : Path) (text : String) : Path := (namesOf text).foldl step path

/-- Where a text starts from: the root if it begins with a slash, else here. -/
def start (here : Path) (text : String) : Path := if text.startsWith "/" then root else here

/-- The path that a text names from here. -/
def resolve (here : Path) (text : String) : Path := (start here text).descend text

/-- The path with an ending on its last name. -/
def withEnding (path : Path) (ending : String) : Path :=
  ⟨path.names.dropLast ++ [path.names.getLastD "" ++ ending]⟩

/-- Whether one path lies on the way to another, or is it. -/
def leadsTo (path other : Path) : Bool := path.names.isPrefixOf other.names

/-- The names at the front that two lists have in common. -/
def commonNames : List String → List String → List String
  | a :: as, b :: bs => if a == b then a :: commonNames as bs else []
  | _, _ => []

/-- The last path that lies on the way to both. -/
def common (path other : Path) : Path := ⟨commonNames path.names other.names⟩

/-! ## Limits -/

/-- The most bytes that a name has on a disk. -/
def longestName : Nat := 255

def isLongName (name : String) : Bool := longestName < Text.byteLength name

/-- The bytes that a text has to have fewer of to be followed as a path. -/
def textBound : Nat := 4096

/-- Whether a text can be followed as a path: it is not too long and has no NUL in it. -/
def canFollow (text : String) : Bool :=
  Text.byteLength text < textBound && !text.toList.contains '\x00'

/-- Whether a disk can hold the path. -/
def isPossible (path : Path) : Bool := canFollow path.text && !path.names.any isLongName

end Path

end RelStore
