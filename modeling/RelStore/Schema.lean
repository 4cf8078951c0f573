/-
Table schemas: a name and typed columns, some of them keys or references to columns of other
tables.
-/
namespace RelStore

inductive DataType where
  | int
  | float
  | string
  | bool
  deriving DecidableEq, Repr

def DataType.name : DataType → String
  | .int => "INT"
  | .float => "FLOAT"
  | .string => "STRING"
  | .bool => "BOOL"

def DataType.all : List DataType := [.int, .float, .string, .bool]

def DataType.ofName? (name : String) : Option DataType := DataType.all.find? (·.name == name)

/-- The types whose values compare with each other: whole and other numbers are one family. -/
inductive Family where
  | number
  | string
  | boolean
  deriving DecidableEq, Repr

def Family.name : Family → String
  | .number => "number"
  | .string => "string"
  | .boolean => "boolean"

def DataType.family : DataType → Family
  | .int | .float => .number
  | .string => .string
  | .bool => .boolean

/-- The column that a referencing column points to. -/
structure Reference where
  table : String
  column : String
  deriving DecidableEq, Repr

def Reference.text (r : Reference) : String := s!"{r.table}({r.column})"

structure Column where
  name : String
  type : DataType
  primaryKey : Bool
  unique : Bool
  references : Option Reference
  deriving DecidableEq, Repr

/-- No two rows may hold the same value, NULL apart. -/
def Column.isKey (c : Column) : Bool := c.primaryKey || c.unique

/-- Keys and references have an index. -/
def Column.isIndexed (c : Column) : Bool := c.isKey || c.references.isSome

structure Schema where
  name : String
  columns : List Column
  deriving DecidableEq, Repr

@[simp] theorem DataType.ofName?_name (t : DataType) : DataType.ofName? t.name = some t := by
  cases t <;> decide

end RelStore
