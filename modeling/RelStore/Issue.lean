/-
What is wrong with data from outside.

Reading data against a shape gives what it describes, or an issue for each place where it has
another shape, in the order of the shape.
-/
import RelStore.Json

namespace RelStore

structure Issue where
  /-- The keys and indexes that lead to the place. -/
  place : List String
  message : String
  deriving DecidableEq, Repr

namespace Issue

def text (issue : Issue) : String :=
  let place := if issue.place.isEmpty then "(root)" else String.intercalate "." issue.place
  s!"{place}: {issue.message}"

def textOf (issues : List Issue) : String := String.intercalate "; " (issues.map text)

/-- The least that a name has. -/
def emptyText : String := "String must contain at least 1 character(s)"

/-- The alternatives of a choice, each in quotes. -/
def alternatives (choices : List String) : String :=
  String.intercalate " | " (choices.map fun choice => s!"'{choice}'")

def notAChoice (choices : List String) (found : String) : String :=
  s!"Invalid enum value. Expected {alternatives choices}, received '{found}'"

end Issue

/-- What a text says, or the issues it has. -/
abbrev Checked (α : Type) := Except (List Issue) α

namespace Checked

def issue {α : Type} (place : List String) (message : String) : Checked α :=
  .error [⟨place, message⟩]

/-- Two parts taken together, with the issues of both. -/
def both {α β : Type} : Checked α → Checked β → Checked (α × β)
  | .ok a, .ok b => .ok (a, b)
  | .error issues, .ok _ => .error issues
  | .ok _, .error issues => .error issues
  | .error issues, .error more => .error (issues ++ more)

/-- Parts taken together, with the issues of all. -/
def all {α : Type} : List (Checked α) → Checked (List α)
  | [] => .ok []
  | first :: rest => (both first (all rest)).map fun (a, as) => a :: as

end Checked

/-- How data at a place is read; none is data that is not given. -/
abbrev Shape (α : Type) := List String → Option Json → Checked α

namespace Shape

def kindName : Json → String
  | .null => "null"
  | .bool _ => "boolean"
  | .number _ => "number"
  | .string _ => "string"
  | .array _ => "array"
  | .object _ => "object"

/-- Data of another kind than expected. -/
def mismatch {α : Type} (place : List String) (expected : String) : Option Json → Checked α
  | none => .issue place "Required"
  | some found => .issue place s!"Expected {expected}, received {kindName found}"

def string : Shape String := fun place found =>
  match found with
  | some (.string s) => .ok s
  | _ => mismatch place "string" found

def nonempty : Shape String := fun place found =>
  match found with
  | some (.string s) => if s.isEmpty then .issue place Issue.emptyText else .ok s
  | _ => mismatch place "string" found

def bool : Shape Bool := fun place found =>
  match found with
  | some (.bool b) => .ok b
  | _ => mismatch place "boolean" found

/-- One of the named choices. -/
def choice {α : Type} (choices : List String) (ofName? : String → Option α) : Shape α :=
  fun place found =>
    match found with
    | some (.string s) =>
      match ofName? s with
      | some a => .ok a
      | none => .issue place (Issue.notAChoice choices s)
    | _ => mismatch place (Issue.alternatives choices) found

def arrayOf {α : Type} (item : Shape α) : Shape (List α) := fun place found =>
  match found with
  | some (.array items) =>
    .all (items.mapIdx fun index found => item (place ++ [toString index]) (some found))
  | _ => mismatch place "array" found

/-- Data that may be left out. -/
def optional {α : Type} (shape : Shape α) : Shape (Option α) := fun place found =>
  match found with
  | none => .ok none
  | some _ => (shape place found).map some

/-- An object, whose fields are read by `fields`; other fields are left alone. -/
def object {α : Type} (fields : List String → (String → Option Json) → Checked α) : Shape α :=
  fun place found =>
    match found with
    | some (.object entries) => fields place (Json.object entries).get?
    | _ => mismatch place "object" found

/-- One field of an object. -/
def field {α : Type} (place : List String) (entries : String → Option Json) (key : String)
    (shape : Shape α) : Checked α :=
  shape (place ++ [key]) (entries key)

end Shape

end RelStore
