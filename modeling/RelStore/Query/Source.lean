/-
The rows that a query or a write starts from: the rows of one table that satisfy a condition, or
the joined rows of two tables.

An index answers `column = literal` and, in a join, `column = column`. What it finds is checked
by the condition like all other rows, and stands in table order.
-/
import RelStore.Scope

namespace RelStore

open Sql

/-- A column and the literal that a condition asks it to be equal to. -/
def equalityWithLiteral? : Expr → Option (ColumnRef × Value)
  | .comparison .eq (.column ref) (.literal value) => some (ref, value)
  | .comparison .eq (.literal value) (.column ref) => some (ref, value)
  | _ => none

namespace Table

def scope (table : Table) : Scope := .single table.schema

/-- The rows that an index finds for a value. Nothing is equal to NULL. -/
def rowsWith (table : Table) (index : Index) (value : Value) : List StoredRow :=
  if value.isNone then [] else table.rowsOf (index.lookup value)

/-- The rows that can satisfy a condition: those an index finds, or all. -/
def candidates (table : Table) (condition : Expr) : Except Cause (List StoredRow) :=
  match equalityWithLiteral? condition with
  | none => .ok table.rows
  | some (ref, value) => do
    let bound ← table.scope.resolve ref
    match table.index? bound.column.name with
    | some index => return table.rowsWith index value
    | none => return table.rows

/-- The rows that satisfy a condition, in order. -/
def matching (table : Table) : Option Expr → Except Cause (List StoredRow)
  | none => .ok table.rows
  | some condition => do
    table.scope.check condition
    let rows ← table.candidates condition
    keepPassing (fun stored => table.scope.satisfies (some condition) stored.row) rows

end Table

/-! ## Joins -/

/-- Two tables to be joined. -/
structure JoinedTables where
  left : Table
  right : Table

namespace JoinedTables

def scope (tables : JoinedTables) : Scope := .joined tables.left.schema tables.right.schema

/-- The values of a row under their keys in the join. -/
def keyed (tables : JoinedTables) (table : Table) (row : Row) : List (String × Value) :=
  table.columns.map fun column => (tables.scope.key table.schema column, row.get column.name)

def combine (tables : JoinedTables) (left right : StoredRow) : Row :=
  Row.ofList (tables.keyed tables.left left.row ++ tables.keyed tables.right right.row)

/-- The left and the right column that a condition asks to be equal. -/
def equalColumns? (tables : JoinedTables) :
    Expr → Except Cause (Option (BoundColumn × BoundColumn))
  | .comparison .eq (.column ref) (.column other) => do
    let a ← tables.scope.resolve ref
    let b ← tables.scope.resolve other
    if a.table == tables.left.name && b.table == tables.right.name then return some (a, b)
    if b.table == tables.left.name && a.table == tables.right.name then return some (b, a)
    return none
  | _ => .ok none

/-- How the right rows that can join a left row are found: by the value of a left column in an
index of the right table, or not at all. -/
def partnerIndex? (tables : JoinedTables) (on : Expr) :
    Except Cause (Option (BoundColumn × Index)) := do
  let some (left, right) ← tables.equalColumns? on
    | return none
  return (tables.right.index? right.column.name).map fun index => (left, index)

/-- The right rows that can join a left row. -/
def partners (tables : JoinedTables) (index? : Option (BoundColumn × Index)) (left : StoredRow) :
    List StoredRow :=
  match index? with
  | some (column, index) => tables.right.rowsWith index (left.row.get column.column.name)
  | none => tables.right.rows

/-- The pairs of rows that satisfy the condition: by left row and then by right row. -/
def join (tables : JoinedTables) (on : Expr) : Except Cause (List Row) := do
  tables.scope.check on
  let index? ← tables.partnerIndex? on
  let pairs := tables.left.rows.flatMap fun left =>
    (tables.partners index? left).map (tables.combine left)
  keepPassing (tables.scope.satisfies (some on)) pairs

end JoinedTables

end RelStore
