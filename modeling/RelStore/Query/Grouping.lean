/-
Groups of rows and what can be asked of them.

Rows with equal values in the GROUP BY columns form a group, in the order in which the first of
each group comes; without GROUP BY all rows are one group, even if there are none. A group has a
value for each GROUP BY column, for each aggregate and for each alias of those.

Aggregates of a group are computed once: a group is asked in `InGroup`, whose state holds what is
known so far under the text of the call.
-/
import RelStore.Aggregate
import RelStore.Scope
import RelStore.Sorting

namespace RelStore

open Sql

structure Grouping where
  scope : Scope
  projections : List Projection
  /-- The columns of GROUP BY. -/
  columns : List BoundColumn
  deriving Repr

structure Group where
  /-- The common values in the GROUP BY columns. -/
  keys : List Value
  rows : List Row
  deriving DecidableEq, Repr

/-- The aggregates of one group that are known, by the text of the call in lower case. -/
abbrev KnownAggregates := List (String × Value)

/-- Asking one group, which may fail and remembers aggregates. -/
abbrev InGroup := StateT KnownAggregates (Except Cause)

namespace Grouping

/-- The place of a column among those of GROUP BY. -/
def position (g : Grouping) (ref : ColumnRef) : Except Cause Nat := do
  let bound ← g.scope.resolve ref
  match g.columns.findIdx? (·.key == bound.key) with
  | some place => return place
  | none => throw (.ungroupedColumn ref.text)

/-- SUM and AVG are of numeric columns only. -/
def checkCall (g : Grouping) (call : AggregateCall) : Except Cause Unit := do
  let some ref := call.argument
    | return ()
  let bound ← g.scope.resolve ref
  if (call.fn = .sum || call.fn = .avg) && bound.column.type.family ≠ .number then
    throw (.notANumericColumn call.fn ref.text bound.column.type bound.column.name)

/-- Every output column is a column of GROUP BY or an aggregate. -/
def checkProjection (g : Grouping) : Projection → Except Cause Unit
  | .star => .error (.ungroupedColumn "*")
  | .column ref _ => discard (g.position ref)
  | .aggregate call _ => g.checkCall call

/-- The grouping of a query. -/
def ofSelect (scope : Scope) (query : Select) : Except Cause Grouping := do
  let columns ← query.groupBy.mapM scope.resolve
  let grouping : Grouping := { scope, projections := query.projections, columns }
  query.projections.forM grouping.checkProjection
  return grouping

/-! ## Forming groups -/

/-- The values of a row in the GROUP BY columns. -/
def keysOf (g : Grouping) (row : Row) : List Value := g.columns.map fun column => row.get column.key

/-- Adds a row to the group of its keys, or as a new group at the end. -/
def addRow (keys : List Value) (row : Row) : List Group → List Group
  | [] => [⟨keys, [row]⟩]
  | group :: rest =>
    if joinKeyTexts (group.keys.map Value.keyText) == joinKeyTexts (keys.map Value.keyText) then
      { group with rows := group.rows ++ [row] } :: rest
    else group :: addRow keys row rest

/-- The groups of rows. -/
def groups (g : Grouping) (rows : List Row) : List Group :=
  if g.columns.isEmpty then [⟨[], rows⟩]
  else rows.foldl (fun groups row => addRow (g.keysOf row) row groups) []

/-! ## Asking a group -/

/-- An aggregate over the rows of a group. -/
def compute (g : Grouping) (group : Group) (call : AggregateCall) : Except Cause Value := do
  g.checkCall call
  match call.argument with
  | none => call.compute (group.rows.map fun _ => none)
  | some ref =>
    let bound ← g.scope.resolve ref
    call.compute (group.rows.map fun row => row.get bound.key)

/-- An aggregate, computed unless it is known. -/
def aggregate (g : Grouping) (group : Group) (call : AggregateCall) : InGroup Value := do
  let name := Text.lower call.text
  match (← get).lookup name with
  | some value => return value
  | none =>
    let value ← g.compute group call
    modify ((name, value) :: ·)
    return value

/-- The value of a GROUP BY column. -/
def keyValue (g : Grouping) (group : Group) (ref : ColumnRef) : InGroup Value := do
  return group.keys.getD (← g.position ref) none

/-- The value of an output column. -/
def project (g : Grouping) (group : Group) : Projection → InGroup Value
  | .star => throw (.ungroupedColumn "*")
  | .column ref _ => g.keyValue group ref
  | .aggregate call _ => g.aggregate group call

/-- The first output column with an alias. -/
def aliased? (g : Grouping) (name : String) : Option Projection :=
  g.projections.find? fun projection => projection.alias?.any (Text.sameName · name)

/-- Conditions over one group. A name alone is an alias before it is a column. -/
def leaves (g : Grouping) (group : Group) : Leaves InGroup where
  column ref :=
    match if ref.table.isNone then g.aliased? ref.column else none with
    | some projection => g.project group projection
    | none => g.keyValue group ref
  aggregate := g.aggregate group

/-! ## Output -/

/-- The name of an output column. -/
def outputName (g : Grouping) : Projection → Except Cause String
  | .star => .error (.ungroupedColumn "*")
  | .column ref name? => match name? with
    | some name => .ok name
    | none => g.scope.outputName ref
  | .aggregate call name? => .ok (name?.getD call.text)

/-- An output row, its group, and the aggregates known of it by then. -/
structure Entry where
  row : Row
  group : Group
  known : KnownAggregates
  deriving DecidableEq, Repr

/-- The output row of a group, if the group satisfies HAVING. -/
def outputRow? (g : Grouping) (having : Option Expr) (columns : List String) (group : Group) :
    InGroup (Option Row) := do
  if ← isSatisfied (g.leaves group) having then
    let values ← g.projections.mapM (g.project group)
    return some (Row.ofList (columns.zip values))
  else return none

/-- The output rows of groups, in order. -/
def entries (g : Grouping) (having : Option Expr) (columns : List String) :
    List Group → Except Cause (List Entry)
  | [] => .ok []
  | group :: rest => do
    let (row?, known) ← (g.outputRow? having columns group).run []
    let others ← g.entries having columns rest
    return match row? with
      | some row => ⟨row, group, known⟩ :: others
      | none => others

end Grouping

end RelStore
