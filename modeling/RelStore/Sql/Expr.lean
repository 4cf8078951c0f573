/-
Conditions and the references in them, as trees.
-/
import RelStore.Value

namespace RelStore.Sql

inductive CompareOp where
  | eq
  | bangEq
  | ltGt
  | lt
  | gt
  | le
  | ge
  deriving DecidableEq, Repr

def CompareOp.symbol : CompareOp → String
  | .eq => "="
  | .bangEq => "!="
  | .ltGt => "<>"
  | .lt => "<"
  | .gt => ">"
  | .le => "<="
  | .ge => ">="

def CompareOp.all : List CompareOp := [.eq, .bangEq, .ltGt, .lt, .gt, .le, .ge]

def CompareOp.ofSymbol? (symbol : String) : Option CompareOp :=
  CompareOp.all.find? (·.symbol == symbol)

inductive AggregateFn where
  | count
  | sum
  | avg
  | min
  | max
  deriving DecidableEq, Repr

def AggregateFn.name : AggregateFn → String
  | .count => "COUNT"
  | .sum => "SUM"
  | .avg => "AVG"
  | .min => "MIN"
  | .max => "MAX"

def AggregateFn.all : List AggregateFn := [.count, .sum, .avg, .min, .max]

def AggregateFn.ofName? (name : String) : Option AggregateFn :=
  AggregateFn.all.find? (·.name == name)

/-- A column, named alone or after its table. -/
structure ColumnRef where
  table : Option String
  column : String
  deriving DecidableEq, Repr

/-- The reference as written. -/
def ColumnRef.text (ref : ColumnRef) : String :=
  match ref.table with
  | some table => s!"{table}.{ref.column}"
  | none => ref.column

/-- An aggregate function of a column, or of whole rows. -/
structure AggregateCall where
  fn : AggregateFn
  argument : Option ColumnRef
  deriving DecidableEq, Repr

/-- The call as it names an output column: `COUNT(*)`, `SUM(t.x)`. -/
def AggregateCall.text (call : AggregateCall) : String :=
  let argument := match call.argument with
    | some ref => ref.text
    | none => "*"
  s!"{call.fn.name}({argument})"

/-- A condition or an operand of one. Operands of SQL texts are literals, columns and aggregates;
a tree made by hand may have any condition as an operand. `unknown` is a node that this engine
has no meaning for, with its description. -/
inductive Expr where
  | literal (value : Value)
  | column (ref : ColumnRef)
  | aggregate (call : AggregateCall)
  | comparison (op : CompareOp) (left right : Expr)
  | and (left right : Expr)
  | or (left right : Expr)
  | not (operand : Expr)
  | isNull (operand : Expr) (negated : Bool)
  | between (operand low high : Expr) (negated : Bool)
  | inList (operand : Expr) (values : List Expr) (negated : Bool)
  | like (operand : Expr) (pattern : String) (negated : Bool)
  | unknown (description : String)
  deriving Repr

instance : Inhabited Expr := ⟨.literal none⟩

/-- The clause that a condition belongs to. Aggregates belong in HAVING only. -/
inductive Clause where
  | filter
  | on
  | having
  deriving DecidableEq, Repr

def Clause.name : Clause → String
  | .filter => "WHERE"
  | .on => "ON"
  | .having => "HAVING"

@[simp] theorem CompareOp.ofSymbol?_symbol (op : CompareOp) :
    CompareOp.ofSymbol? op.symbol = some op := by
  cases op <;> decide

@[simp] theorem AggregateFn.ofName?_name (fn : AggregateFn) :
    AggregateFn.ofName? fn.name = some fn := by
  cases fn <;> decide

end RelStore.Sql
