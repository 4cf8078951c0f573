/-
Statements under other names.

`renamed rename` puts other names in the place of the names of databases, tables and columns, and
of references to aliases. What aliases are called stays, and so do literals. Names put in their own
place change nothing (`Statement.renamed_id`).
-/
import RelStore.Sql.Statement

namespace RelStore

def Reference.renamed (rename : String → String) (reference : Reference) : Reference :=
  ⟨rename reference.table, rename reference.column⟩

def Column.renamed (rename : String → String) (column : Column) : Column :=
  { column with
    name := rename column.name
    references := column.references.map (Reference.renamed rename) }

def Schema.renamed (rename : String → String) (schema : Schema) : Schema :=
  ⟨rename schema.name, schema.columns.map (Column.renamed rename)⟩

namespace Sql

variable (rename : String → String)

def ColumnRef.renamed (ref : ColumnRef) : ColumnRef := ⟨ref.table.map rename, rename ref.column⟩

def AggregateCall.renamed (call : AggregateCall) : AggregateCall :=
  ⟨call.fn, call.argument.map (ColumnRef.renamed rename)⟩

mutual

def Expr.renamed : Expr → Expr
  | .literal value => .literal value
  | .column ref => .column (ref.renamed rename)
  | .aggregate call => .aggregate (call.renamed rename)
  | .comparison op left right => .comparison op left.renamed right.renamed
  | .and left right => .and left.renamed right.renamed
  | .or left right => .or left.renamed right.renamed
  | .not operand => .not operand.renamed
  | .isNull operand negated => .isNull operand.renamed negated
  | .between operand low high negated => .between operand.renamed low.renamed high.renamed negated
  | .inList operand values negated => .inList operand.renamed (renamedAll values) negated
  | .like operand pattern negated => .like operand.renamed pattern negated
  | .unknown description => .unknown description

def renamedAll : List Expr → List Expr
  | [] => []
  | value :: rest => value.renamed :: renamedAll rest

end

/-- An alias keeps its name. -/
def Projection.renamed : Projection → Projection
  | .star => .star
  | .column ref name? => .column (ref.renamed rename) name?
  | .aggregate call name? => .aggregate (call.renamed rename) name?

def Join.renamed (join : Join) : Join := ⟨rename join.table, join.on.renamed rename⟩

def OrderKey.renamed : OrderKey → OrderKey
  | .column ref => .column (ref.renamed rename)
  | .aggregate call => .aggregate (call.renamed rename)

def OrderItem.renamed (item : OrderItem) : OrderItem := { item with key := item.key.renamed rename }

def Select.renamed (query : Select) : Select :=
  { query with
    projections := query.projections.map (Projection.renamed rename)
    table := rename query.table
    join := query.join.map (Join.renamed rename)
    filter := query.filter.map (Expr.renamed rename)
    groupBy := query.groupBy.map (ColumnRef.renamed rename)
    having := query.having.map (Expr.renamed rename)
    orderBy := query.orderBy.map (OrderItem.renamed rename) }

def Assignment.renamed (item : Assignment) : Assignment := { item with column := rename item.column }

def Statement.renamed : Statement → Statement
  | .createDatabase name => .createDatabase (rename name)
  | .dropDatabase name => .dropDatabase (rename name)
  | .useDatabase name => .useDatabase (rename name)
  | .showDatabases => .showDatabases
  | .showTables => .showTables
  | .describe table => .describe (rename table)
  | .createTable schema => .createTable (schema.renamed rename)
  | .dropTable table => .dropTable (rename table)
  | .insert table columns values => .insert (rename table) (columns.map (List.map rename)) values
  | .update table items filter =>
    .update (rename table) (items.map (Assignment.renamed rename)) (filter.map (Expr.renamed rename))
  | .delete table filter => .delete (rename table) (filter.map (Expr.renamed rename))
  | .select query => .select (query.renamed rename)
  | .unknown description => .unknown description

theorem renamedAll_eq (values : List Expr) : renamedAll rename values = values.map (Expr.renamed rename) := by
  induction values with
  | nil => rw [renamedAll, List.map_nil]
  | cons value rest ih => rw [renamedAll, List.map_cons, ih]

/-! ## Names in their own place -/

theorem ColumnRef.renamed_id : renamed id = id := by
  funext ref
  simp [renamed]

theorem AggregateCall.renamed_id : renamed id = id := by
  funext call
  simp [renamed, ColumnRef.renamed_id]

mutual

theorem Expr.renamed_id_apply : (e : Expr) → e.renamed id = e
  | .literal _ | .unknown _ => by simp only [Expr.renamed]
  | .column ref => by simp only [Expr.renamed, ColumnRef.renamed_id, id]
  | .aggregate call => by simp only [Expr.renamed, AggregateCall.renamed_id, id]
  | .comparison _ left right | .and left right | .or left right => by
    simp only [Expr.renamed, left.renamed_id_apply, right.renamed_id_apply]
  | .not operand | .isNull operand _ | .like operand _ _ => by simp only [Expr.renamed, operand.renamed_id_apply]
  | .between operand low high _ => by
    simp only [Expr.renamed, operand.renamed_id_apply, low.renamed_id_apply, high.renamed_id_apply]
  | .inList operand values _ => by
    simp only [Expr.renamed, operand.renamed_id_apply, renamedAll_id values]

theorem renamedAll_id : (values : List Expr) → renamedAll id values = values
  | [] => by rw [renamedAll]
  | value :: rest => by rw [renamedAll, value.renamed_id_apply, renamedAll_id rest]

end

theorem Expr.renamed_id : renamed id = id := funext Expr.renamed_id_apply

theorem Projection.renamed_id : renamed id = id := by
  funext p
  cases p <;> simp [renamed, ColumnRef.renamed_id, AggregateCall.renamed_id]

theorem Join.renamed_id : renamed id = id := by
  funext join
  simp [renamed, Expr.renamed_id]

theorem OrderItem.renamed_id : renamed id = id := by
  funext item
  obtain ⟨key, direction⟩ := item
  cases key <;> simp [renamed, OrderKey.renamed, ColumnRef.renamed_id, AggregateCall.renamed_id]

theorem Assignment.renamed_id : renamed id = id := rfl

end Sql

theorem Column.renamed_id : renamed id = id := by
  funext column
  have hreference : Reference.renamed id = id := rfl
  simp [renamed, hreference]

namespace Sql

/-- **Names put in their own place change nothing.** -/
theorem Statement.renamed_id : renamed id = id := by
  funext S
  cases S <;> simp [renamed, Select.renamed, Schema.renamed, Column.renamed_id, Projection.renamed_id,
    Join.renamed_id, OrderItem.renamed_id, Assignment.renamed_id, Expr.renamed_id, ColumnRef.renamed_id]

end Sql

end RelStore
