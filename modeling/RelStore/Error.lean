/-
Why a command fails.

A `Cause` says what is wrong in the domain's terms. What callers see of it is read off by four
functions: the stable `kind` and the finer `code`, the `message`, and the `context` that names
the database, table, column or place in the text. A `Failure` is a cause together with the SQL
text of the statement that met it.
-/
import RelStore.Sql.Expr

namespace RelStore

/-- A place in a text: units from its start, line and column, the latter two counted from one. -/
structure Position where
  offset : Nat
  line : Nat
  column : Nat
  deriving DecidableEq, Repr

inductive ErrorKind where
  | syntaxError
  | databaseNotFound
  | tableNotFound
  | columnNotFound
  | typeMismatch
  | constraintViolation
  | ambiguousAggregation
  | unsupportedFeature
  | schema
  | storage
  | internal
  deriving DecidableEq, Repr

def ErrorKind.name : ErrorKind → String
  | .syntaxError => "SyntaxError"
  | .databaseNotFound => "DatabaseNotFoundError"
  | .tableNotFound => "TableNotFoundError"
  | .columnNotFound => "ColumnNotFoundError"
  | .typeMismatch => "TypeMismatchError"
  | .constraintViolation => "ConstraintViolation"
  | .ambiguousAggregation => "AmbiguousAggregationError"
  | .unsupportedFeature => "UnsupportedFeatureError"
  | .schema => "SchemaError"
  | .storage => "StorageError"
  | .internal => "InternalError"

/-- The name of the error's class, which differs from its kind in two cases. -/
def ErrorKind.className : ErrorKind → String
  | .syntaxError => "SQLSyntaxError"
  | .constraintViolation => "ConstraintViolationError"
  | kind => kind.name

/-- What a name names. Databases may also have hyphens and start with a digit. -/
inductive NameKind where
  | database
  | table
  | column
  deriving DecidableEq, Repr

def NameKind.name : NameKind → String
  | .database => "database"
  | .table => "table"
  | .column => "column"

/-- The clause of a paging value. -/
inductive PagingClause where
  | limit
  | offset
  deriving DecidableEq, Repr

def PagingClause.name : PagingClause → String
  | .limit => "LIMIT"
  | .offset => "OFFSET"

/-- What SQL could say and this engine does not do. -/
inductive Feature where
  | distinctArgument (fn : Sql.AggregateFn)
  | expressionArgument (fn : Sql.AggregateFn)
  | selfJoin (table : String)
  | aggregateJoin
  deriving DecidableEq, Repr

def Feature.text : Feature → String
  | .distinctArgument fn => s!"{fn.name}(DISTINCT ...)"
  | .expressionArgument fn => s!"expression arguments to {fn.name}()"
  | .selfJoin table => s!"joining table '{table}' to itself"
  | .aggregateJoin => "aggregate queries with JOIN"

inductive Cause where
  -- reading SQL text
  | unexpectedCharacter (shown : String) (place : Position)
  | unterminatedString (place : Position)
  /-- Something else was expected here; `found` is none at the end of the text. -/
  | expected (what : String) (found : Option String) (place : Position)
  | misplacedAggregate (fn : Sql.AggregateFn) (clause : Sql.Clause) (place : Position)
  | integerOutOfRange (lexeme : String) (place : Position)
  -- names that name nothing
  | noDatabaseSelected
  | unknownDatabase (name : String)
  | unknownTable (name database : String)
  /-- No such column in the table, met while writing to it. -/
  | unknownColumn (name table : String)
  /-- No such column in the one table of a query. -/
  | unknownColumnIn (name table : String)
  /-- No such column in any table of a join. -/
  | unknownColumnInJoin (name : String)
  | unknownQualifier (table reference : String)
  | unknownQualifiedColumn (reference table : String)
  | ambiguousColumn (name : String)
  -- values of the wrong type
  | notACondition (value : Scalar)
  | incomparable (left right : DataType)
  | incomparableExtremes (left right : DataType) (fn : Sql.AggregateFn)
  | unorderable (left right : DataType)
  | notANumber (fn : Sql.AggregateFn) (type : DataType)
  | notANumericColumn (fn : Sql.AggregateFn) (reference : String) (type : DataType) (column : String)
  | wrongType (table column : String) (type : DataType) (value : Value)
  -- constraints
  | nullPrimaryKey (table column : String)
  | duplicateKey (table column : String) (primary : Bool) (value : Value)
  | droppedWhileReferenced (table byTable byColumn : String)
  | deletedWhileReferenced (table column : String) (value : Value) (byTable byColumn : String)
  | updatedWhileReferenced (table column : String) (value : Value) (byTable byColumn : String)
  | danglingReference (table column : String) (value : Value) (target targetColumn : String)
  -- queries
  | ungroupedColumn (reference : String)
  | unsupported (feature : Feature)
  -- names and paging
  | emptyName (kind : NameKind)
  | longName (kind : NameKind) (name : String)
  | malformedName (kind : NameKind) (name : String)
  | reservedName (kind : NameKind) (name : String)
  | badPaging (clause : PagingClause) (value : Binary64)
  | largePaging (clause : PagingClause) (value : Binary64)
  -- schemas
  | noColumns (table : String)
  | duplicateColumn (table column : String)
  | primaryKeyCount (table : String) (count : Nat)
  | tableExists (table : String)
  | databaseExists (name : String)
  | repeatedTable (table database : String)
  | unknownReferencedTable (table column target : String)
  | unknownReferencedColumn (table column target targetColumn : String)
  | referencedColumnNotKey (table column target targetColumn : String)
  | referencedTypeDiffers (table column : String) (type : DataType) (target targetColumn : String)
      (targetType : DataType)
  | listedArity (table : String) (columns values : Nat)
  | tableArity (table : String) (columns values : Nat)
  | columnListedTwice (table column : String)
  | columnAssignedTwice (table column : String)
  -- configuration
  | malformedUrl (url : String)
  | wrongScheme (url : String)
  | urlWithoutDatabase (url : String)
  | badEnvironment (issues : String)
  -- files
  | invalidDatabaseFile (path issues database : String)
  | inconsistentDatabaseFile (path reason database : String)
  | invalidCatalogFile (path issues : String)
  | notJson (path : String)
  | unreadable (path : String)
  | unwritable (path : String)
  | undeletable (path database : String)
  -- what no SQL text leads to
  | unknownExpression (description : String)
  | unknownStatement (description : String)
  | aggregateOutsideGroup (call : String)
  | aggregateInPlainProjection (call : String)
  | aggregateOrderOutsideGroups (call : String)
  | malformedEscape
  deriving DecidableEq, Repr

/-- What a failure is about. -/
structure Context where
  sql : Option String := none
  database : Option String := none
  table : Option String := none
  column : Option String := none
  position : Option Position := none
  /-- What a part outside this library said. -/
  reason : Option String := none
  deriving DecidableEq, Repr

def Context.isEmpty (c : Context) : Bool :=
  c.sql.isNone && c.database.isNone && c.table.isNone && c.column.isNone && c.position.isNone &&
    c.reason.isNone

namespace Cause

def kind : Cause → ErrorKind
  | unexpectedCharacter .. | unterminatedString .. | expected .. | misplacedAggregate .. =>
    .syntaxError
  | noDatabaseSelected | unknownDatabase .. => .databaseNotFound
  | unknownTable .. => .tableNotFound
  | unknownColumn .. | unknownColumnIn .. | unknownColumnInJoin .. | unknownQualifier ..
  | unknownQualifiedColumn .. | ambiguousColumn .. => .columnNotFound
  | integerOutOfRange .. | notACondition .. | incomparable .. | incomparableExtremes ..
  | unorderable .. | notANumber .. | notANumericColumn .. | wrongType .. => .typeMismatch
  | nullPrimaryKey .. | duplicateKey .. | droppedWhileReferenced .. | deletedWhileReferenced ..
  | updatedWhileReferenced .. | danglingReference .. => .constraintViolation
  | ungroupedColumn .. => .ambiguousAggregation
  | unsupported .. => .unsupportedFeature
  | emptyName .. | longName .. | malformedName .. | reservedName .. | badPaging ..
  | largePaging .. | noColumns .. | duplicateColumn .. | primaryKeyCount .. | tableExists ..
  | databaseExists .. | repeatedTable .. | unknownReferencedTable .. | unknownReferencedColumn ..
  | referencedColumnNotKey .. | referencedTypeDiffers .. | listedArity .. | tableArity ..
  | columnListedTwice .. | columnAssignedTwice .. | malformedUrl .. | wrongScheme ..
  | urlWithoutDatabase .. | badEnvironment .. => .schema
  | invalidDatabaseFile .. | inconsistentDatabaseFile .. | invalidCatalogFile .. | notJson ..
  | unreadable .. | unwritable .. | undeletable .. => .storage
  | unknownExpression .. | unknownStatement .. | aggregateOutsideGroup ..
  | aggregateInPlainProjection .. | aggregateOrderOutsideGroups .. | malformedEscape => .internal

def code : Cause → String
  | unexpectedCharacter .. => "SYNTAX_UNEXPECTED_CHARACTER"
  | unterminatedString .. => "SYNTAX_UNTERMINATED_STRING"
  | expected _ found _ => if found.isSome then "SYNTAX_UNEXPECTED_TOKEN" else "SYNTAX_UNEXPECTED_EOF"
  | misplacedAggregate .. => "SYNTAX_UNEXPECTED_TOKEN"
  | noDatabaseSelected => "BIND_NO_DATABASE_SELECTED"
  | unknownDatabase .. => "BIND_DATABASE_NOT_FOUND"
  | unknownTable .. => "BIND_TABLE_NOT_FOUND"
  | unknownColumn .. | unknownColumnIn .. | unknownColumnInJoin .. | unknownQualifier ..
  | unknownQualifiedColumn .. => "BIND_COLUMN_NOT_FOUND"
  | ambiguousColumn .. => "BIND_AMBIGUOUS_COLUMN"
  | integerOutOfRange .. | notACondition .. | incomparable .. | incomparableExtremes ..
  | unorderable .. | notANumber .. | notANumericColumn .. | wrongType .. => "TYPE_MISMATCH"
  | nullPrimaryKey .. => "CONSTRAINT_NOT_NULL"
  | duplicateKey _ _ primary _ => if primary then "CONSTRAINT_PRIMARY_KEY" else "CONSTRAINT_UNIQUE"
  | droppedWhileReferenced .. | deletedWhileReferenced .. | updatedWhileReferenced ..
  | danglingReference .. => "CONSTRAINT_REFERENTIAL"
  | ungroupedColumn .. => "AGGREGATE_AMBIGUOUS"
  | unsupported .. => "UNSUPPORTED_FEATURE"
  | emptyName .. | longName .. | malformedName .. | reservedName .. => "SCHEMA_INVALID_IDENTIFIER"
  | badPaging .. | largePaging .. => "SCHEMA_INVALID_VALUE"
  | noColumns .. | primaryKeyCount .. | unknownReferencedTable .. | unknownReferencedColumn ..
  | referencedColumnNotKey .. | referencedTypeDiffers .. => "SCHEMA_INVALID"
  | duplicateColumn .. | tableExists .. | databaseExists .. | repeatedTable ..
  | columnListedTwice .. | columnAssignedTwice .. => "SCHEMA_DUPLICATE_OBJECT"
  | listedArity .. | tableArity .. => "SCHEMA_ARITY_MISMATCH"
  | malformedUrl .. | wrongScheme .. | urlWithoutDatabase .. | badEnvironment .. =>
    "SCHEMA_INVALID_CONFIG"
  | invalidDatabaseFile .. | inconsistentDatabaseFile .. | invalidCatalogFile .. | notJson .. =>
    "STORAGE_CORRUPT"
  | unreadable .. => "STORAGE_READ_FAILED"
  | unwritable .. | undeletable .. => "STORAGE_WRITE_FAILED"
  | unknownExpression .. | unknownStatement .. | aggregateOutsideGroup ..
  | aggregateInPlainProjection .. | aggregateOrderOutsideGroups .. | malformedEscape => "INTERNAL"

/-- Where a parse error was met, as its message begins. -/
def parseErrorAt (place : Position) : String :=
  s!"Parse error at line {place.line}, column {place.column}: "

def message : Cause → String
  | unexpectedCharacter shown place =>
    s!"Unexpected character '{shown}' at line {place.line}, column {place.column}"
  | unterminatedString place =>
    s!"Unterminated string starting at line {place.line}, column {place.column}"
  | expected what found place =>
    let got := match found with
      | some lexeme => s!"'{lexeme}'"
      | none => "end of input"
    s!"{parseErrorAt place}expected {what}, got {got}"
  | misplacedAggregate fn clause place =>
    s!"{parseErrorAt place}aggregate function {fn.name} is not allowed in {clause.name}; expected a column or a literal"
  | integerOutOfRange lexeme _ => s!"Integer literal {lexeme} is out of range"
  | noDatabaseSelected => "No database selected. Run USE <database> first"
  | unknownDatabase name => s!"Database '{name}' does not exist"
  | unknownTable name _ => s!"Table '{name}' does not exist"
  | unknownColumn name table | unknownColumnIn name table =>
    s!"Column '{name}' does not exist in table '{table}'"
  | unknownColumnInJoin name => s!"Column '{name}' does not exist"
  | unknownQualifier table reference =>
    s!"Unknown table '{table}' in column reference '{reference}'"
  | unknownQualifiedColumn reference _ => s!"Column '{reference}' does not exist"
  | ambiguousColumn name => s!"Column reference '{name}' is ambiguous; qualify it with a table name"
  | notACondition value =>
    s!"Expected a BOOL condition, got {value.dataType.name} value {value.jsonText}"
  | incomparable left right => s!"Cannot compare {left.name} with {right.name}"
  | incomparableExtremes left right fn =>
    s!"Cannot compare {left.name} with {right.name} in {fn.name}"
  | unorderable left right => s!"Cannot order {left.name} and {right.name} values together"
  | notANumber fn type => s!"{fn.name} requires a numeric column, got {type.name}"
  | notANumericColumn fn reference type _ =>
    s!"{fn.name} requires a numeric column, but '{reference}' is {type.name}"
  | wrongType _ column type value =>
    s!"Column '{column}' expects {type.name}, got {value.typeName} value {value.shown}"
  | nullPrimaryKey _ column => s!"PRIMARY KEY column '{column}' cannot be NULL"
  | duplicateKey table column primary value =>
    let key := if primary then "PRIMARY KEY" else "UNIQUE"
    s!"Duplicate value {value.shown} for {key} column '{column}' in table '{table}'"
  | droppedWhileReferenced table byTable byColumn =>
    s!"Cannot drop table '{table}': it is referenced by {byTable}.{byColumn}"
  | deletedWhileReferenced table column value byTable byColumn =>
    s!"Cannot delete from '{table}': {column} = {value.shown} is still referenced by {byTable}.{byColumn}"
  | updatedWhileReferenced table column value byTable byColumn =>
    s!"Cannot update {table}.{column} = {value.shown}: it is still referenced by {byTable}.{byColumn}"
  | danglingReference table column value target targetColumn =>
    s!"Value {value.shown} for {table}.{column} does not exist in {target}({targetColumn})"
  | ungroupedColumn reference =>
    s!"Column '{reference}' must appear in GROUP BY or be used inside an aggregate function"
  | unsupported feature => s!"Unsupported feature: {feature.text}"
  | emptyName kind => s!"The {kind.name} name cannot be empty"
  | longName kind name => s!"The {kind.name} name '{name}' is too long (max 64 characters)"
  | malformedName .database name =>
    s!"Invalid database name '{name}': only letters, digits, underscores and hyphens are allowed"
  | malformedName kind name =>
    s!"Invalid {kind.name} name '{name}': must start with a letter or underscore, followed by letters, digits or underscores"
  | reservedName kind name => s!"Invalid {kind.name} name '{name}': it is a reserved SQL keyword"
  | badPaging clause value => s!"{clause.name} must be a non-negative integer, got {value.text}"
  | largePaging clause value => s!"{clause.name} is too large (max 1,000,000): {value.text}"
  | noColumns table => s!"Table '{table}' must have at least one column"
  | duplicateColumn table column => s!"Duplicate column '{column}' in table '{table}'"
  | primaryKeyCount table count =>
    s!"Table '{table}' must have exactly one PRIMARY KEY column, found {count}"
  | tableExists table => s!"Table '{table}' already exists"
  | databaseExists name => s!"Database '{name}' already exists"
  | repeatedTable table _ => s!"Table '{table}' appears more than once"
  | unknownReferencedTable _ column target =>
    s!"Column '{column}' references unknown table '{target}'"
  | unknownReferencedColumn _ column target targetColumn =>
    s!"Column '{column}' references unknown column '{target}.{targetColumn}'"
  | referencedColumnNotKey _ column target targetColumn =>
    s!"Column '{column}' must reference a PRIMARY KEY or UNIQUE column, but '{target}.{targetColumn}' is neither"
  | referencedTypeDiffers _ column type target targetColumn targetType =>
    s!"Column '{column}' ({type.name}) cannot reference '{target}.{targetColumn}' ({targetType.name})"
  | listedArity _ columns values => s!"INSERT lists {columns} column(s) but {values} value(s)"
  | tableArity table columns values =>
    s!"Table '{table}' has {columns} column(s) but {values} value(s) were supplied"
  | columnListedTwice _ column => s!"Column '{column}' is listed more than once"
  | columnAssignedTwice _ column => s!"Column '{column}' is assigned more than once"
  | malformedUrl url => s!"Invalid connection URL '{url}'"
  | wrongScheme url => s!"Connection URL must start with keeldb://, got '{url}'"
  | urlWithoutDatabase url => s!"Connection URL '{url}' does not name a database"
  | badEnvironment issues => s!"Invalid configuration: {issues}"
  | invalidDatabaseFile path issues _ => s!"Database file {path} is invalid: {issues}"
  | inconsistentDatabaseFile path reason _ => s!"Database file {path} is inconsistent: {reason}"
  | invalidCatalogFile path issues => s!"Catalog file {path} is invalid: {issues}"
  | notJson path => s!"File {path} is not valid JSON"
  | unreadable path => s!"Failed to read {path}"
  | unwritable path => s!"Failed to write {path}"
  | undeletable path _ => s!"Failed to delete {path}"
  | unknownExpression description => s!"Unknown expression kind: {description}"
  | unknownStatement description => s!"Unknown statement: {description}"
  | aggregateOutsideGroup call => s!"Aggregate {call} evaluated outside a group"
  | aggregateInPlainProjection call => s!"Aggregate {call} in a plain projection"
  | aggregateOrderOutsideGroups call => s!"ORDER BY {call} outside an aggregated query"
  | malformedEscape => "URI malformed"

def context : Cause → Context
  | unexpectedCharacter _ place | unterminatedString place | expected _ _ place
  | misplacedAggregate _ _ place | integerOutOfRange _ place => { position := some place }
  | unknownDatabase name | databaseExists name => { database := some name }
  | unknownTable name database | repeatedTable name database =>
    { table := some name, database := some database }
  | unknownColumn name table | unknownQualifiedColumn name table =>
    { column := some name, table := some table }
  | unknownColumnIn name _ | unknownColumnInJoin name | ambiguousColumn name
  | unknownQualifier _ name | ungroupedColumn name => { column := some name }
  | notANumericColumn _ _ _ column => { column := some column }
  | wrongType table column _ _ | nullPrimaryKey table column | duplicateKey table column _ _
  | deletedWhileReferenced table column .. | updatedWhileReferenced table column ..
  | danglingReference table column .. | duplicateColumn table column
  | unknownReferencedTable table column _ | unknownReferencedColumn table column ..
  | referencedColumnNotKey table column .. | referencedTypeDiffers table column ..
  | columnListedTwice table column | columnAssignedTwice table column =>
    { table := some table, column := some column }
  | droppedWhileReferenced table .. | noColumns table | primaryKeyCount table _
  | tableExists table | listedArity table .. | tableArity table .. => { table := some table }
  | malformedUrl _ => { reason := some "Invalid URL" }
  | invalidDatabaseFile _ _ database | inconsistentDatabaseFile _ _ database
  | undeletable _ database => { database := some database }
  | noDatabaseSelected | notACondition .. | incomparable .. | incomparableExtremes ..
  | unorderable .. | notANumber .. | unsupported .. | emptyName .. | longName ..
  | malformedName .. | reservedName .. | badPaging .. | largePaging .. | wrongScheme ..
  | urlWithoutDatabase .. | badEnvironment .. | invalidCatalogFile .. | notJson ..
  | unreadable .. | unwritable .. | unknownExpression .. | unknownStatement ..
  | aggregateOutsideGroup .. | aggregateInPlainProjection .. | aggregateOrderOutsideGroups ..
  | malformedEscape => {}

end Cause

/-- What a failed command reports. -/
structure Failure where
  cause : Cause
  /-- The text of the statement, when it was run by itself and not in a script. -/
  sql : Option String := none
  deriving DecidableEq, Repr

def Failure.context (f : Failure) : Context := { f.cause.context with sql := f.sql }

end RelStore
