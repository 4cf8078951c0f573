/-
The grammar of statements and scripts.

    script    := statement (';' statement)* ';'?
    statement := CREATE DATABASE name | CREATE TABLE name '(' definition (',' definition)* ')'
               | DROP (DATABASE | TABLE) name | USE name | SHOW (DATABASES | TABLES)
               | DESCRIBE name
               | INSERT INTO name ('(' name (',' name)* ')')? VALUES '(' literal (',' literal)* ')'
               | UPDATE name SET name '=' literal (',' name '=' literal)* filter?
               | DELETE FROM name filter?
               | SELECT DISTINCT? projection (',' projection)* FROM name
                 (INNER? JOIN name ON expr)? filter? (GROUP BY column (',' column)*)?
                 (HAVING expr)? (ORDER BY order (',' order)*)?
                 (LIMIT n (OFFSET n)? | OFFSET n (LIMIT n)?)?
    definition := name type (PRIMARY KEY | UNIQUE | REFERENCES name '(' name ')')*
    projection := '*' | (column | aggregate) (AS name)?
    order      := (column | aggregate) (ASC | DESC)?
    filter     := WHERE expr
-/
import RelStore.Sql.Name
import RelStore.Sql.Parse.Expr

namespace RelStore.Sql.Parse

/-- A name for a new object. -/
def newName (kind : NameKind) : Parse String := do
  let chosen ← name s!"{kind.name} name"
  checkName kind chosen
  return chosen

def typeOfWord? : String → Option DataType
  | "INT" | "INTEGER" => some .int
  | "FLOAT" => some .float
  | "STRING" | "TEXT" => some .string
  | "BOOL" | "BOOLEAN" => some .bool
  | _ => none

def dataType : Parse DataType := do
  let token ← peek
  match if token.kind = .keyword then typeOfWord? token.lexeme else none with
  | some type => advance; return type
  | none => failExpecting "data type (INT, FLOAT, STRING, BOOL)"

/-- The properties that follow a column's type, in any order and number. -/
def columnProperties : Nat → Column → Parse Column
  | 0, column => return column
  | bound + 1, column => do
    if ← acceptWord "PRIMARY" then
      expectWord "KEY"
      columnProperties bound { column with primaryKey := true }
    else if ← acceptWord "UNIQUE" then
      columnProperties bound { column with unique := true }
    else if ← acceptWord "REFERENCES" then
      let table ← name "referenced table name"
      let _ ← expect .lparen
      let target ← name "referenced column name"
      let _ ← expect .rparen
      columnProperties bound { column with references := some ⟨table, target⟩ }
    else return column

def columnDefinition : Parse Column := do
  let chosen ← newName .column
  let type ← dataType
  columnProperties (← get).length ⟨chosen, type, false, false, none⟩

def createStatement : Parse Statement := do
  if ← acceptWord "DATABASE" then return .createDatabase (← newName .database)
  expectWordAs "TABLE" "DATABASE or TABLE"
  let table ← newName .table
  let _ ← expect .lparen
  let columns ← commaList columnDefinition
  let _ ← expectAs .rparen "',' or ')'"
  return .createTable ⟨table, columns⟩

def dropStatement : Parse Statement := do
  if ← acceptWord "DATABASE" then return .dropDatabase (← name "database name")
  expectWordAs "TABLE" "DATABASE or TABLE"
  return .dropTable (← name "table name")

def showStatement : Parse Statement := do
  if ← acceptWord "DATABASES" then return .showDatabases
  expectWordAs "TABLES" "DATABASES or TABLES"
  return .showTables

def insertStatement : Parse Statement := do
  expectWord "INTO"
  let table ← name "table name"
  let columns ←
    if ← accept .lparen then
      let names ← commaList (name "column name")
      let _ ← expectAs .rparen "',' or ')'"
      pure (some names)
    else pure none
  expectWord "VALUES"
  let _ ← expect .lparen
  let values ← commaList literal
  let _ ← expectAs .rparen "',' or ')'"
  return .insert table columns values

def filter? : Parse (Option Expr) := do
  if ← acceptWord "WHERE" then return some (← expr .filter) else return none

def assignment : Parse Assignment := do
  let column ← name "column name"
  let _ ← expect .equals
  return ⟨column, ← literal⟩

def updateStatement : Parse Statement := do
  let table ← name "table name"
  expectWord "SET"
  let assignments ← commaList assignment
  return .update table assignments (← filter?)

def deleteStatement : Parse Statement := do
  expectWord "FROM"
  let table ← name "table name"
  return .delete table (← filter?)

def alias? : Parse (Option String) := do
  if ← acceptWord "AS" then return some (← name "alias") else return none

def projection : Parse Projection := do
  if ← accept .star then return .star
  match ← aggregateAhead? with
  | some fn =>
    let call ← aggregateCall fn
    return .aggregate call (← alias?)
  | none =>
    if ← atKind .identifier then
      let ref ← columnRef
      return .column ref (← alias?)
    else failExpecting "'*', a column or an aggregate function"

def join? : Parse (Option Join) := do
  if (← atWord "INNER") || (← atWord "JOIN") then
    let _ ← acceptWord "INNER"
    expectWord "JOIN"
    let table ← name "table name"
    expectWord "ON"
    return some ⟨table, ← expr .on⟩
  else return none

def groupBy : Parse (List ColumnRef) := do
  if ← acceptWord "GROUP" then
    expectWord "BY"
    commaList columnRef
  else return []

def having? : Parse (Option Expr) := do
  if ← acceptWord "HAVING" then return some (← expr .having) else return none

def orderItem : Parse OrderItem := do
  let key ← match ← aggregateAhead? with
    | some fn => OrderKey.aggregate <$> aggregateCall fn
    | none => OrderKey.column <$> columnRef
  if ← acceptWord "DESC" then return ⟨key, .desc⟩
  let _ ← acceptWord "ASC"
  return ⟨key, .asc⟩

def orderBy : Parse (List OrderItem) := do
  if ← acceptWord "ORDER" then
    expectWord "BY"
    commaList orderItem
  else return []

/-- The number of a paging clause, if the clause comes next. -/
def paging? (clause : PagingClause) : Parse (Option Binary64) := do
  if ← acceptWord clause.name then
    let token ← expectAs .number s!"{clause.name} count"
    let value := (Decimal.ofLexeme token.lexeme.toList).toBinary64
    checkPaging clause value
    return some value
  else return none

/-- LIMIT and OFFSET in either order, each at most once. -/
def limitAndOffset : Parse (Option Binary64 × Option Binary64) := do
  match ← paging? .limit with
  | some limit => return (some limit, ← paging? .offset)
  | none =>
    match ← paging? .offset with
    | some offset => return (← paging? .limit, some offset)
    | none => return (none, none)

def selectStatement : Parse Statement := do
  let distinct ← acceptWord "DISTINCT"
  let projections ← commaList projection
  expectWordAs "FROM" "',' or FROM"
  let table ← name "table name"
  let join ← join?
  let filter ← filter?
  let groupBy ← groupBy
  let having ← having?
  let orderBy ← orderBy
  let (limit, offset) ← limitAndOffset
  return .select { distinct, projections, table, join, filter, groupBy, having, orderBy, limit, offset }

def statement : Parse Statement := do
  if ← acceptWord "CREATE" then createStatement
  else if ← acceptWord "DROP" then dropStatement
  else if ← acceptWord "USE" then return .useDatabase (← name "database name")
  else if ← acceptWord "SHOW" then showStatement
  else if ← acceptWord "DESCRIBE" then return .describe (← name "table name")
  else if ← acceptWord "INSERT" then insertStatement
  else if ← acceptWord "SELECT" then selectStatement
  else if ← acceptWord "UPDATE" then updateStatement
  else if ← acceptWord "DELETE" then deleteStatement
  else
    failExpecting
      "a statement (CREATE, DROP, USE, SHOW, DESCRIBE, INSERT, SELECT, UPDATE, DELETE)"

/-- One statement, a semicolon or none, and the end. -/
def oneStatement : Parse Statement := do
  let read ← statement
  let _ ← accept .semicolon
  if ← atKind .eof then return read else failExpecting "end of statement"

/-- Statements to the end of the tokens, with semicolons between them; further semicolons are
skipped. -/
def statements : Nat → Parse (List Statement)
  | 0 => return []
  | bound + 1 => do
    if ← atKind .eof then return []
    else if ← accept .semicolon then statements bound
    else
      let first ← statement
      if !(← atKind .eof) then
        let _ ← expectAs .semicolon "';' or end of input"
      return first :: (← statements bound)

end RelStore.Sql.Parse

namespace RelStore.Sql

/-- Reads a text of one statement. -/
def parse (sql : String) : Except Cause Statement := do
  let tokens ← tokenize sql
  Parse.oneStatement.run' tokens

/-- Reads a text of any number of statements. -/
def parseScript (sql : String) : Except Cause (List Statement) := do
  let tokens ← tokenize sql
  (Parse.statements tokens.length).run' tokens

end RelStore.Sql
