/-
Reading a list of tokens by index.

A walk goes through a list of tokens that stays as it is. Its state is a cursor: the index of the
next token, the clause whose condition is being read, and the indices that it has left behind; a walk
that fails keeps its cursor. To ask for a token outside of the list ends a walk (`Stop.outside`).

The productions are those of `RelStore.Sql.Parse`, one for one, but that nothing counts their
repetitions: a loop goes round for as long as the tokens say so, and one that never stops comes to
`none`. So does a condition whose productions call each other deeper than `calls`, the room there is
for calls that wait for another. `Walk.Follows` compares a walk with a reader of tokens.
-/
import Mathlib
import RelStore.Sql.Parse.Statement

namespace RelStore.Sql

/-- Where a walk stands in a list of tokens. -/
structure Cursor where
  index : Nat
  clause : Clause
  passed : List Nat
  deriving DecidableEq, Repr

/-- Before the first token. Conditions are those of WHERE as long as no clause says otherwise. -/
def Cursor.start : Cursor := ⟨0, .filter, []⟩

/-- The cursor one token further on. -/
def Cursor.next (cursor : Cursor) : Cursor :=
  { cursor with index := cursor.index + 1, passed := cursor.index :: cursor.passed }

def Cursor.inClause (cursor : Cursor) (clause : Clause) : Cursor := { cursor with clause }

/-- Why a walk ends before it gives something. -/
inductive Stop where
  | refused (cause : Cause)
  | outside (index : Nat)

/-- A reader that walks through a list of tokens, and may walk forever. -/
abbrev Walk := ReaderT (List Token) (ExceptT Stop (StateT Cursor Option))

namespace Walk

variable {α σ : Type}

/-- What a walk comes to from a cursor and where it stands then; `none` if it goes on forever. -/
def runFrom (walk : Walk α) (tokens : List Token) (start : Cursor) :
    Option (Except Stop α × Cursor) :=
  ((walk.run tokens).run).run start

/-- Goes round from one state to the next, until a round says that its state is the last. -/
def loop (round : σ → Walk (σ ⊕ σ)) (state : σ) : Walk σ := do
  match ← round state with
  -- By `apply`: a call that is written out would keep its place in the text within the fixed point.
  | .inl next => (by apply loop; exacts [round, next])
  | .inr last => return last
partial_fixpoint

/-- What comes after a choice, put behind each of the two. -/
theorem ite_bind {m : Type → Type} [Monad m] {β : Type} {c : Prop} [Decidable c] (a b : m α) (f : α → m β) :
    (if c then a else b) >>= f = if c then a >>= f else b >>= f := by
  split <;> rfl

/-- The walk that has no end. -/
def forever : Walk α := fun _ _ => none

/-! ## Tokens -/

def tokenAt (index : Nat) : Walk Token := do
  match (← read)[index]? with
  | some token => return token
  | none => throw (.outside index)

/-- The next token. -/
def peek : Walk Token := do tokenAt (← get).index

/-- The token after the next. After the last token this is the last one. -/
def peekSecond : Walk Token := do
  tokenAt (min ((← get).index + 1) ((← read).length - 1))

/-- Goes past the next token, unless it is the end. -/
def advance : Walk Unit := do
  if (← peek).kind ≠ .eof then modify Cursor.next

/-- Refuses the text for a cause. -/
def refuse (cause : Cause) : Walk α := throw (.refused cause)

/-- Goes on if a check passes. -/
def check : Except Cause Unit → Walk Unit
  | .ok () => return ()
  | .error cause => refuse cause

/-- Fails at the next token, saying what was expected in its place. -/
def failExpecting (what : String) : Walk α := do
  let token ← peek
  refuse (.expected what (if token.kind = .eof then none else some token.lexeme) token.place)

def atKind (kind : TokenKind) : Walk Bool := do return (← peek).kind == kind

def atWord (word : String) : Walk Bool := do return (← peek).isWord word

/-- Goes past the next token if it is of this kind. -/
def accept (kind : TokenKind) : Walk Bool := do
  if ← atKind kind then advance; return true else return false

/-- Goes past the next token if it is this keyword. -/
def acceptWord (word : String) : Walk Bool := do
  if ← atWord word then advance; return true else return false

def expectAs (kind : TokenKind) (what : String) : Walk Token := do
  let token ← peek
  if token.kind = kind then advance; return token else failExpecting what

def expect (kind : TokenKind) : Walk Token := expectAs kind kind.described

def expectWordAs (word what : String) : Walk Unit := do
  if ← acceptWord word then return () else failExpecting what

def expectWord (word : String) : Walk Unit := expectWordAs word word

/-- A name; `what` says of which object. -/
def name (what : String) : Walk String := do return (← expectAs .identifier what).lexeme

/-- The items so far and those after commas. -/
def afterCommas (item : Walk α) : List α → Walk (List α) :=
  loop fun items => do
    if ← accept .comma then return .inl (items ++ [← item]) else return .inr items

theorem afterCommas_eq (item : Walk α) (items : List α) : afterCommas item items =
    (do if ← accept .comma then afterCommas item (items ++ [← item]) else return items) := by
  rw [afterCommas, loop]
  simp only [bind_assoc, ite_bind, pure_bind]

/-- One item or more, with commas between them. -/
def commaList (item : Walk α) : Walk (List α) := do afterCommas item [← item]

/-! ## Operands -/

/-- A literal, if the next token is one. A number without a point must be a safe integer. -/
def literal? : Walk (Option Value) := do
  let token ← peek
  match token.kind with
  | .number =>
    advance
    let value := (Decimal.ofLexeme token.lexeme.toList).toBinary64
    if token.lexeme.toList.contains '.' || value.isSafeInteger then
      return some (some (.number value))
    else refuse (.integerOutOfRange token.lexeme token.place)
  | .string => advance; return some (Value.ofText token.lexeme)
  | .keyword =>
    match token.lexeme with
    | "TRUE" => advance; return some (Value.ofBool true)
    | "FALSE" => advance; return some (Value.ofBool false)
    | "NULL" => advance; return some none
    | _ => return none
  | _ => return none

def literal : Walk Value := do
  match ← literal? with
  | some value => return value
  | none => failExpecting "a literal value (number, string, TRUE, FALSE, NULL)"

def columnRef : Walk ColumnRef := do
  let first ← name "column name"
  if ← accept .dot then
    let column ← name "column name"
    return ⟨some first, column⟩
  else return ⟨none, first⟩

/-- The aggregate function whose call comes next: its name with a parenthesis after it. -/
def aggregateAhead? : Walk (Option AggregateFn) := do
  let token ← peek
  let second ← peekSecond
  if token.kind = .identifier ∧ second.kind = .lparen then return Parse.aggregateName? token.lexeme
  else return none

/-- The call of an aggregate function whose name comes next. -/
def aggregateCall (fn : AggregateFn) : Walk AggregateCall := do
  advance
  let _ ← expect .lparen
  if ← atKind .star then
    if fn ≠ .count then failExpecting s!"a column inside {fn.name}()"
    advance
    let _ ← expect .rparen
    return ⟨fn, none⟩
  if ← atWord "DISTINCT" then refuse (.unsupported (.distinctArgument fn))
  if !(← atKind .identifier) || (← aggregateAhead?).isSome then
    if (← atKind .rparen) || (← atKind .eof) then failExpecting s!"a column inside {fn.name}()"
    refuse (.unsupported (.expressionArgument fn))
  let argument ← columnRef
  if ← accept .rparen then return ⟨fn, some argument⟩
  else refuse (.unsupported (.expressionArgument fn))

def clauseInForce : Walk Clause := do return (← get).clause

/-- An operand. It may be an aggregate if the clause in force is HAVING. -/
def operand : Walk Expr := do
  match ← literal? with
  | some value => return .literal value
  | none =>
    match ← aggregateAhead? with
    | some fn =>
      let clause ← clauseInForce
      if clause = .having then return .aggregate (← aggregateCall fn)
      else refuse (.misplacedAggregate fn clause (← peek).place)
    | none =>
      if ← atKind .identifier then return .column (← columnRef)
      else failExpecting "a column or a literal value"

/-! ## Conditions -/

/-- The comparison that comes next. -/
def comparison? : Walk (Option CompareOp) := do
  let token ← peek
  if token.kind = .equals ∨ token.kind = .comparison then return CompareOp.ofSymbol? token.lexeme
  else return none

/-- Whether NOT comes next as part of BETWEEN, IN or LIKE. -/
def negationAhead : Walk Bool := do
  let second ← peekSecond
  return (← atWord "NOT") &&
    (second.isWord "BETWEEN" || second.isWord "IN" || second.isWord "LIKE")

/-- What follows an operand in a predicate. -/
def afterOperand (left : Expr) : Walk Expr := do
  match ← comparison? with
  | some op => advance; return .comparison op left (← operand)
  | none =>
    if ← acceptWord "IS" then
      let negated ← acceptWord "NOT"
      expectWordAs "NULL" "NULL or NOT NULL"
      return .isNull left negated
    let negated ← negationAhead
    if negated then advance
    if ← acceptWord "BETWEEN" then
      let low ← operand
      expectWordAs "AND" "AND in BETWEEN"
      let high ← operand
      return .between left low high negated
    if ← acceptWord "IN" then
      let _ ← expect .lparen
      let values ← commaList operand
      let _ ← expectAs .rparen "',' or ')'"
      return .inList left values negated
    if ← acceptWord "LIKE" then
      let pattern ← expectAs .string "a quoted LIKE pattern"
      return .like left pattern.lexeme negated
    return left

/-- What follows the first item of a chain: a keyword and an item, again and again. -/
def chainAfter (word : String) (join : Expr → Expr → Expr) (item : Walk Expr) : Expr → Walk Expr :=
  loop fun left => do
    if ← acceptWord word then return .inl (join left (← item)) else return .inr left

theorem chainAfter_eq (word : String) (join : Expr → Expr → Expr) (item : Walk Expr) (left : Expr) :
    chainAfter word join item left =
      (do if ← acceptWord word then chainAfter word join item (join left (← item)) else return left) := by
  rw [chainAfter, loop]
  simp only [bind_assoc, ite_bind, pure_bind]

/-- Items with a keyword between them. -/
def chain (word : String) (join : Expr → Expr → Expr) (item : Walk Expr) : Walk Expr := do
  chainAfter word join item (← item)

mutual

/-- Conjunctions with OR between them. -/
def disjunction : Nat → Walk Expr
  | 0 => forever
  | calls + 1 => chain "OR" .or (conjunction calls)

/-- Negations with AND between them. -/
def conjunction : Nat → Walk Expr
  | 0 => forever
  | calls + 1 => chain "AND" .and (negation calls)

/-- A predicate with any number of NOT before it. -/
def negation : Nat → Walk Expr
  | 0 => forever
  | calls + 1 => do
    if ← acceptWord "NOT" then return .not (← negation calls) else predicate calls

/-- A condition in parentheses or what starts with an operand. -/
def predicate : Nat → Walk Expr
  | 0 => forever
  | calls + 1 => do
    if ← accept .lparen then
      let expr ← disjunction calls
      let _ ← expect .rparen
      return expr
    else afterOperand (← operand)

end

/-- Reads with a clause in force. However that ends, the clause before is in force again. -/
def forClause (clause : Clause) (walk : Walk α) : Walk α := do
  let previous ← clauseInForce
  modify (·.inClause clause)
  try
    let read ← walk
    modify (·.inClause previous)
    pure read
  catch stop =>
    modify (·.inClause previous)
    throw stop

/-- A condition of a clause. -/
def expr (calls : Nat) (clause : Clause) : Walk Expr := forClause clause (disjunction calls)

/-! ## Definitions -/

/-- A name for a new object. -/
def newName (kind : NameKind) : Walk String := do
  let chosen ← name s!"{kind.name} name"
  check (checkName kind chosen)
  return chosen

def dataType : Walk DataType := do
  let token ← peek
  match if token.kind = .keyword then Parse.typeOfWord? token.lexeme else none with
  | some type => advance; return type
  | none => failExpecting "data type (INT, FLOAT, STRING, BOOL)"

/-- The properties that follow a column's type, in any order and number. -/
def columnProperties : Column → Walk Column :=
  loop fun column => do
    if ← acceptWord "PRIMARY" then
      expectWord "KEY"
      return .inl { column with primaryKey := true }
    else if ← acceptWord "UNIQUE" then
      return .inl { column with unique := true }
    else if ← acceptWord "REFERENCES" then
      let table ← name "referenced table name"
      let _ ← expect .lparen
      let target ← name "referenced column name"
      let _ ← expect .rparen
      return .inl { column with references := some ⟨table, target⟩ }
    else return .inr column

theorem columnProperties_eq (column : Column) : columnProperties column = (do
    if ← acceptWord "PRIMARY" then
      expectWord "KEY"
      columnProperties { column with primaryKey := true }
    else if ← acceptWord "UNIQUE" then
      columnProperties { column with unique := true }
    else if ← acceptWord "REFERENCES" then
      let table ← name "referenced table name"
      let _ ← expect .lparen
      let target ← name "referenced column name"
      let _ ← expect .rparen
      columnProperties { column with references := some ⟨table, target⟩ }
    else return column) := by
  rw [columnProperties, loop]
  simp only [bind_assoc, ite_bind, pure_bind]

def columnDefinition : Walk Column := do
  let chosen ← newName .column
  let type ← dataType
  columnProperties ⟨chosen, type, false, false, none⟩

def createStatement : Walk Statement := do
  expectWord "CREATE"
  if ← acceptWord "DATABASE" then return .createDatabase (← newName .database)
  expectWordAs "TABLE" "DATABASE or TABLE"
  let table ← newName .table
  let _ ← expect .lparen
  let columns ← commaList columnDefinition
  let _ ← expectAs .rparen "',' or ')'"
  return .createTable ⟨table, columns⟩

def dropStatement : Walk Statement := do
  expectWord "DROP"
  if ← acceptWord "DATABASE" then return .dropDatabase (← name "database name")
  expectWordAs "TABLE" "DATABASE or TABLE"
  return .dropTable (← name "table name")

def useStatement : Walk Statement := do
  expectWord "USE"
  return .useDatabase (← name "database name")

def showStatement : Walk Statement := do
  expectWord "SHOW"
  if ← acceptWord "DATABASES" then return .showDatabases
  expectWordAs "TABLES" "DATABASES or TABLES"
  return .showTables

def describeStatement : Walk Statement := do
  expectWord "DESCRIBE"
  return .describe (← name "table name")

/-! ## Writes -/

def insertStatement : Walk Statement := do
  expectWord "INSERT"
  expectWord "INTO"
  let table ← name "table name"
  let columns ←
    if ← accept .lparen then
      let names ← commaList (name "column name")
      let _ ← expectAs .rparen "',' or ')'"
      pure (some names)
    else pure none
  expectWord "VALUES"
  let _ ← expect .lparen
  let values ← commaList literal
  let _ ← expectAs .rparen "',' or ')'"
  return .insert table columns values

def filter? (calls : Nat) : Walk (Option Expr) := do
  if ← acceptWord "WHERE" then return some (← expr calls .filter) else return none

def assignment : Walk Assignment := do
  let column ← name "column name"
  let _ ← expect .equals
  return ⟨column, ← literal⟩

def updateStatement (calls : Nat) : Walk Statement := do
  expectWord "UPDATE"
  let table ← name "table name"
  expectWord "SET"
  let assignments ← commaList assignment
  return .update table assignments (← filter? calls)

def deleteStatement (calls : Nat) : Walk Statement := do
  expectWord "DELETE"
  expectWord "FROM"
  let table ← name "table name"
  return .delete table (← filter? calls)

/-! ## Queries -/

def alias? : Walk (Option String) := do
  if ← acceptWord "AS" then return some (← name "alias") else return none

def projection : Walk Projection := do
  if ← accept .star then return .star
  match ← aggregateAhead? with
  | some fn =>
    let call ← aggregateCall fn
    return .aggregate call (← alias?)
  | none =>
    if ← atKind .identifier then
      let ref ← columnRef
      return .column ref (← alias?)
    else failExpecting "'*', a column or an aggregate function"

def join? (calls : Nat) : Walk (Option Join) := do
  if (← atWord "INNER") || (← atWord "JOIN") then
    let _ ← acceptWord "INNER"
    expectWord "JOIN"
    let table ← name "table name"
    expectWord "ON"
    return some ⟨table, ← expr calls .on⟩
  else return none

def groupBy : Walk (List ColumnRef) := do
  if ← acceptWord "GROUP" then
    expectWord "BY"
    commaList columnRef
  else return []

def having? (calls : Nat) : Walk (Option Expr) := do
  if ← acceptWord "HAVING" then return some (← expr calls .having) else return none

def orderItem : Walk OrderItem := do
  let key ← match ← aggregateAhead? with
    | some fn => OrderKey.aggregate <$> aggregateCall fn
    | none => OrderKey.column <$> columnRef
  if ← acceptWord "DESC" then return ⟨key, .desc⟩
  let _ ← acceptWord "ASC"
  return ⟨key, .asc⟩

def orderBy : Walk (List OrderItem) := do
  if ← acceptWord "ORDER" then
    expectWord "BY"
    commaList orderItem
  else return []

/-- The number after the word of a paging clause. -/
def pagingNumber (clause : PagingClause) : Walk Binary64 := do
  let token ← expectAs .number s!"{clause.name} count"
  let value := (Decimal.ofLexeme token.lexeme.toList).toBinary64
  check (checkPaging clause value)
  return value

/-- LIMIT and OFFSET as long as they come and have not been read. -/
def paging : Option Binary64 × Option Binary64 → Walk (Option Binary64 × Option Binary64) :=
  loop fun (limit, offset) => do
    if ← pure limit.isNone <&&> acceptWord "LIMIT" then
      return .inl (some (← pagingNumber .limit), offset)
    else if ← pure offset.isNone <&&> acceptWord "OFFSET" then
      return .inl (limit, some (← pagingNumber .offset))
    else return .inr (limit, offset)

theorem paging_eq (limit offset : Option Binary64) : paging (limit, offset) = (do
    if ← pure limit.isNone <&&> acceptWord "LIMIT" then
      paging (some (← pagingNumber .limit), offset)
    else if ← pure offset.isNone <&&> acceptWord "OFFSET" then
      paging (limit, some (← pagingNumber .offset))
    else return (limit, offset)) := by
  rw [paging, loop]
  simp only [bind_assoc, ite_bind, pure_bind]

def selectStatement (calls : Nat) : Walk Statement := do
  expectWord "SELECT"
  let distinct ← acceptWord "DISTINCT"
  let projections ← commaList projection
  expectWordAs "FROM" "',' or FROM"
  let table ← name "table name"
  let join ← join? calls
  let filter ← filter? calls
  let groupBy ← groupBy
  let having ← having? calls
  let orderBy ← orderBy
  let (limit, offset) ← paging (none, none)
  return .select { distinct, projections, table, join, filter, groupBy, having, orderBy, limit, offset }

/-! ## Statements -/

def statement (calls : Nat) : Walk Statement := do
  if ← atWord "CREATE" then createStatement
  else if ← atWord "DROP" then dropStatement
  else if ← atWord "USE" then useStatement
  else if ← atWord "SHOW" then showStatement
  else if ← atWord "DESCRIBE" then describeStatement
  else if ← atWord "INSERT" then insertStatement
  else if ← atWord "SELECT" then selectStatement calls
  else if ← atWord "UPDATE" then updateStatement calls
  else if ← atWord "DELETE" then deleteStatement calls
  else
    failExpecting
      "a statement (CREATE, DROP, USE, SHOW, DESCRIBE, INSERT, SELECT, UPDATE, DELETE)"

/-- One statement, a semicolon or none, and the end. -/
def oneStatement (calls : Nat) : Walk Statement := do
  let read ← statement calls
  let _ ← accept .semicolon
  if ← atKind .eof then return read else failExpecting "end of statement"

/-- Statements to the end of the tokens, with semicolons between them; further semicolons are
skipped. -/
def statements (calls : Nat) : List Statement → Walk (List Statement) :=
  loop fun read => do
    if ← atKind .eof then return .inr read
    else if ← accept .semicolon then return .inl read
    else
      let first ← statement calls
      if !(← atKind .eof) then
        let _ ← expectAs .semicolon "';' or end of input"
      return .inl (read ++ [first])

theorem statements_eq (calls : Nat) (read : List Statement) : statements calls read = (do
    if ← atKind .eof then return read
    else if ← accept .semicolon then statements calls read
    else
      let first ← statement calls
      if !(← atKind .eof) then
        let _ ← expectAs .semicolon "';' or end of input"
      statements calls (read ++ [first])) := by
  rw [statements]
  conv_lhs => rw [loop]
  simp only [bind_assoc, ite_bind, pure_bind]

/-- The statements of a script. -/
def script (calls : Nat) : Walk (List Statement) := statements calls []

end Walk

end RelStore.Sql
