/-
The columns that the references of a query can mean.

A query reads one table or two joined ones. Its rows have their values under the names of the
columns, or under `table.column` when two tables are joined (`Scope.key`). A reference is bound
by `resolve`; `check` binds all references of a condition before any row is read, so that unknown
names fail whatever the rows are.
-/
import RelStore.Condition
import RelStore.Sql.Statement
import RelStore.Table

namespace RelStore

open Sql

inductive Scope where
  | single (table : Schema)
  | joined (left right : Schema)
  deriving Repr

/-- A column that a reference is bound to, its table, and where rows have its value. -/
structure BoundColumn where
  key : String
  table : String
  column : Column
  deriving DecidableEq, Repr

namespace Scope

def tables : Scope → List Schema
  | single table => [table]
  | joined left right => [left, right]

/-- Where the rows of the query have the value of a column. -/
def key : Scope → Schema → Column → String
  | single _, _, column => column.name
  | joined .., table, column => s!"{table.name}.{column.name}"

def bind (scope : Scope) (table : Schema) (column : Column) : BoundColumn :=
  ⟨scope.key table column, table.name, column⟩

/-- All columns, table by table. -/
def columns (scope : Scope) : List BoundColumn :=
  scope.tables.flatMap fun table => table.columns.map (scope.bind table)

/-- The column of a reference that names its table. -/
def resolveIn (scope : Scope) (tableName : String) (ref : ColumnRef) : Except Cause BoundColumn :=
  match scope.tables.find? fun table => Text.sameName table.name tableName with
  | none => .error (.unknownQualifier tableName ref.text)
  | some table =>
    match table.column? ref.column with
    | none => .error (.unknownQualifiedColumn ref.text table.name)
    | some column => .ok (scope.bind table column)

/-- The columns of a name, at most one from each table. -/
def named (scope : Scope) (name : String) : List BoundColumn :=
  scope.tables.filterMap fun table => (table.column? name).map (scope.bind table)

/-- No column has the name. -/
def unknown (scope : Scope) (name : String) : Cause :=
  match scope with
  | single table => .unknownColumnIn name table.name
  | joined .. => .unknownColumnInJoin name

/-- The column of a reference. Without its table it must be a column of one table only. -/
def resolve (scope : Scope) (ref : ColumnRef) : Except Cause BoundColumn :=
  match ref.table with
  | some tableName => scope.resolveIn tableName ref
  | none =>
    match scope.named ref.column with
    | [] => .error (scope.unknown ref.column)
    | [column] => .ok column
    | _ => .error (.ambiguousColumn ref.column)

mutual

/-- Binds the references of a condition, from left to right. -/
def check (scope : Scope) : Expr → Except Cause Unit
  | .literal _ => .ok ()
  | .aggregate _ => .ok ()
  | .column ref => discard (scope.resolve ref)
  | .comparison _ left right => do scope.check left; scope.check right
  | .and left right => do scope.check left; scope.check right
  | .or left right => do scope.check left; scope.check right
  | .not operand => scope.check operand
  | .isNull operand _ => scope.check operand
  | .like operand _ _ => scope.check operand
  | .between operand low high _ => do
    scope.check operand
    scope.check low
    scope.check high
  | .inList operand values _ => do
    scope.check operand
    scope.checkAll values
  | .unknown description => .error (.unknownExpression description)

def checkAll (scope : Scope) : List Expr → Except Cause Unit
  | [] => .ok ()
  | value :: rest => do
    scope.check value
    scope.checkAll rest

end

/-- The value that a row has for a reference. -/
def read (scope : Scope) (row : Row) (ref : ColumnRef) : Except Cause Value :=
  (scope.resolve ref).map fun bound => row.get bound.key

/-- Conditions over one row. -/
def leaves (scope : Scope) (row : Row) : Leaves (Except Cause) where
  column := scope.read row
  aggregate call := .error (.aggregateOutsideGroup call.text)

/-- Whether a row satisfies a condition. -/
def satisfies (scope : Scope) (condition : Option Expr) (row : Row) : Except Cause Bool :=
  isSatisfied (scope.leaves row) condition

/-- The name of an output column without alias: with its table if it was written so. -/
def outputName (scope : Scope) (ref : ColumnRef) : Except Cause String :=
  (scope.resolve ref).map fun bound =>
    if ref.table.isSome then s!"{bound.table}.{bound.column.name}" else bound.column.name

end Scope

/-- The items that pass a test, in order. The first test that fails ends it. -/
def keepPassing {α : Type} (test : α → Except Cause Bool) : List α → Except Cause (List α)
  | [] => .ok []
  | item :: rest => do
    let passes ← test item
    let kept ← keepPassing test rest
    return if passes then item :: kept else kept

theorem keepPassing_eq_filter {α : Type} {test : α → Except Cause Bool} {holds : α → Bool}
    {items : List α} (h : ∀ item ∈ items, test item = .ok (holds item)) :
    keepPassing test items = .ok (items.filter holds) := by
  induction items with
  | nil => rfl
  | cons item rest ih =>
    simp only [keepPassing, h item List.mem_cons_self,
      ih fun other ho => h other (List.mem_cons_of_mem _ ho), List.filter_cons]
    cases holds item <;> rfl

end RelStore
