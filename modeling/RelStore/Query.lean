/-
Answers to SELECT.

The rows of the source that satisfy WHERE are projected one by one, or grouped and projected
group by group; then come DISTINCT, ORDER BY and paging. What ORDER BY names is an output column
before it is a column of the source or an aggregate.
-/
import RelStore.Database
import RelStore.Query.Grouping
import RelStore.Query.Source

namespace RelStore

open Sql

/-- Output columns with their rows. -/
structure Listing where
  columns : List String
  rows : List Row
  deriving DecidableEq, Repr

/-- What a query is sorted by: an output column, or what its source or groups have. -/
inductive SortKey where
  | output (name : String)
  | column (ref : ColumnRef)
  | aggregate (call : AggregateCall)
  deriving DecidableEq, Repr

/-- The value that an output row, with its source or group behind it, is sorted by. -/
def SortKey.value {m : Type → Type} [Monad m] (leaves : Leaves m) (row : Row) : SortKey → m Value
  | .output name => return row.get name
  | .column ref => leaves.column ref
  | .aggregate call => leaves.aggregate call

namespace Sql.Select

/-- A query is aggregated if it has GROUP BY, HAVING, or an aggregate among its columns or sort
keys. -/
def isAggregated (query : Select) : Bool :=
  !query.groupBy.isEmpty || query.having.isSome ||
    query.projections.any (fun | .aggregate .. => true | _ => false) ||
    query.orderBy.any (fun item => match item.key with | .aggregate _ => true | .column _ => false)

/-! ## Source -/

/-- The joined rows that satisfy WHERE. -/
def joinedRows (query : Select) (db : Database) (table : Table) (join : Join) :
    Except Cause (Scope × List Row) := do
  let other ← db.requireTable join.table
  if Text.sameName other.name table.name then throw (.unsupported (.selfJoin table.name))
  if query.isAggregated then throw (.unsupported .aggregateJoin)
  let tables : JoinedTables := ⟨table, other⟩
  query.filter.forM tables.scope.check
  let rows ← tables.join join.on
  return (tables.scope, ← keepPassing (tables.scope.satisfies query.filter) rows)

/-- The rows that the query is about, and what its references mean. -/
def source (query : Select) (db : Database) : Except Cause (Scope × List Row) := do
  let table ← db.requireTable query.table
  match query.join with
  | some join => query.joinedRows db table join
  | none => return (table.scope, (← table.matching query.filter).map (·.row))

/-! ## Sort keys -/

/-- The first output column of a name. -/
def outputColumn? (columns : List String) (name : String) : Option String :=
  columns.find? (Text.sameName · name)

/-- The name that a sort key can have as an output column. An aggregate goes by the alias of the
first output column with the same call. -/
def keyName (query : Select) : OrderKey → String
  | .column ref => ref.text
  | .aggregate call =>
    let name? := query.projections.findSome? fun
      | .aggregate other name? =>
        if Text.sameName other.text call.text then some (name?.getD other.text) else none
      | _ => none
    name?.getD call.text

/-- A sort key, bound to an output column or else checked by `bind`. -/
def sortKey (query : Select) (columns : List String) (bind : OrderKey → Except Cause SortKey)
    (item : OrderItem) : Except Cause SortKey :=
  match outputColumn? columns (query.keyName item.key) with
  | some name => .ok (.output name)
  | none => bind item.key

/-- A sort key that is a column of the source. -/
def sourceKey (scope : Scope) : OrderKey → Except Cause SortKey
  | .aggregate call => .error (.aggregateOrderOutsideGroups call.text)
  | .column ref => (scope.resolve ref).map fun _ => .column ref

/-- A sort key that groups have. -/
def groupKey (g : Grouping) : OrderKey → Except Cause SortKey
  | .aggregate call => (g.checkCall call).map fun _ => .aggregate call
  | .column ref => (g.position ref).map fun _ => .column ref

/-! ## Output -/

/-- DISTINCT, ORDER BY and paging of entries, each with an output row. -/
def shape {α : Type} (query : Select) (columns : List String) (rowOf : α → Row)
    (sortValues : α → Except Cause (List Value)) (entries : List α) : Except Cause Listing := do
  let kept := if query.distinct then distinctItems rowOf columns entries else entries
  let sorted ←
    if query.orderBy.isEmpty then pure kept
    else
      let valued ← kept.mapM fun entry => return (entry, ← sortValues entry)
      sortItems (query.orderBy.map (·.direction)) valued
  return ⟨columns, (paginate query.offset query.limit sorted).map rowOf⟩

/-- The output columns of one item of the SELECT list: their names, and where source rows have
their values. -/
def plainColumns (scope : Scope) : Projection → Except Cause (List (String × String))
  | .star => .ok (scope.columns.map fun bound => (bound.key, bound.key))
  | .column ref name? => do
    let name ← match name? with
      | some name => pure name
      | none => scope.outputName ref
    return [(name, (← scope.resolve ref).key)]
  | .aggregate call _ => .error (.aggregateInPlainProjection call.text)

/-- The answer to a query without groups. -/
def plainListing (query : Select) (scope : Scope) (rows : List Row) : Except Cause Listing := do
  let plan := (← query.projections.mapM (plainColumns scope)).flatten
  let columns := plan.map (·.1)
  let entries := rows.map fun source =>
    (Row.ofList (plan.map fun (name, key) => (name, source.get key)), source)
  let keys ← query.orderBy.mapM (query.sortKey columns (sourceKey scope))
  query.shape columns (·.1)
    (fun (row, source) => keys.mapM (SortKey.value (scope.leaves source) row)) entries

/-- The answer to a query of groups. -/
def groupedListing (query : Select) (scope : Scope) (rows : List Row) : Except Cause Listing := do
  let g ← Grouping.ofSelect scope query
  let columns ← g.projections.mapM g.outputName
  let entries ← g.entries query.having columns (g.groups rows)
  let keys ← query.orderBy.mapM (query.sortKey columns (groupKey g))
  query.shape columns (·.row)
    (fun entry => (keys.mapM (SortKey.value (g.leaves entry.group) entry.row)).run' entry.known)
    entries

/-- The answer to a query. -/
def run (query : Select) (db : Database) : Except Cause Listing := do
  let (scope, rows) ← query.source db
  if query.isAggregated then query.groupedListing scope rows else query.plainListing scope rows

end Sql.Select

end RelStore
