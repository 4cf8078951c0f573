/-
SQL statements as trees.
-/
import RelStore.Sql.Expr

namespace RelStore.Sql

/-- One item of a SELECT list: all columns, or a column or an aggregate with its alias. -/
inductive Projection where
  | star
  | column (ref : ColumnRef) (name? : Option String)
  | aggregate (call : AggregateCall) (name? : Option String)
  deriving DecidableEq, Repr

def Projection.alias? : Projection → Option String
  | .star => none
  | .column _ name? => name?
  | .aggregate _ name? => name?

/-- An inner join. -/
structure Join where
  table : String
  on : Expr
  deriving Repr

inductive Direction where
  | asc
  | desc
  deriving DecidableEq, Repr

def Direction.name : Direction → String
  | .asc => "ASC"
  | .desc => "DESC"

inductive OrderKey where
  | column (ref : ColumnRef)
  | aggregate (call : AggregateCall)
  deriving DecidableEq, Repr

structure OrderItem where
  key : OrderKey
  direction : Direction
  deriving DecidableEq, Repr

structure Select where
  distinct : Bool
  projections : List Projection
  table : String
  join : Option Join
  filter : Option Expr
  groupBy : List ColumnRef
  having : Option Expr
  orderBy : List OrderItem
  limit : Option Binary64
  offset : Option Binary64
  deriving Repr

structure Assignment where
  column : String
  value : Value
  deriving DecidableEq, Repr

/-- A statement. `unknown` is one that this engine has no meaning for, with its description. -/
inductive Statement where
  | createDatabase (name : String)
  | dropDatabase (name : String)
  | useDatabase (name : String)
  | showDatabases
  | showTables
  | describe (table : String)
  | createTable (schema : Schema)
  | dropTable (table : String)
  | insert (table : String) (columns : Option (List String)) (values : List Value)
  | update (table : String) (assignments : List Assignment) (filter : Option Expr)
  | delete (table : String) (filter : Option Expr)
  | select (query : Select)
  | unknown (description : String)
  deriving Repr

/-- What a statement is for: defining, changing or asking. -/
inductive Category where
  | ddl
  | dml
  | dql
  deriving DecidableEq, Repr

def Category.name : Category → String
  | .ddl => "DDL"
  | .dml => "DML"
  | .dql => "DQL"

def Statement.category : Statement → Category
  | .insert .. | .update .. | .delete .. => .dml
  | .select .. => .dql
  | _ => .ddl

end RelStore.Sql
