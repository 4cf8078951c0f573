/-
What INSERT, UPDATE and DELETE mean.

A text that writes puts one table of the chosen database into another state and leaves all else as
it is (`Puts`). Seen as the list of its rows, the table then has a row more, or other values in
the rows of which the condition is true, or these rows less (`Means`): neither the index that finds
rows nor the lists of ids between the steps of a write are seen in it.
-/
import RelStore.Proofs.Reached
import RelStore.Proofs.Table.Meaning

namespace RelStore

open Sql
open Text (sameName)

/-! ## One table -/

namespace Table

variable {table : Table} {filter : Option Expr} {stored : StoredRow} {targets : List StoredRow}

/-- Whether a condition is true of a row: not false, not unknown, and not an error. -/
def isTrue (table : Table) (filter : Option Expr) (stored : StoredRow) : Bool :=
  table.scope.satisfies filter stored.row = .ok true

end Table

/-- The table that a statement writes to. -/
def Sql.Statement.target? : Statement → Option String
  | .insert table _ _ | .update table _ _ | .delete table _ => some table
  | _ => none

namespace Database

variable {db : Database} {table written : Table} {name : String} {filter : Option Expr}
  {targets : List StoredRow} {result : Database × Nat}

end Database

/-! ## One text -/

namespace Workspace

variable {w after : Workspace} {sql : String} {statement : Statement} {answer : Answer}

end Workspace

end RelStore
