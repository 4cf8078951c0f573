/-
The grammar of conditions.

    expr      := conjunct (OR conjunct)*
    conjunct  := negation (AND negation)*
    negation  := NOT negation | predicate
    predicate := '(' expr ')'
               | operand (comparison operand | IS NOT? NULL | NOT? BETWEEN operand AND operand
                          | NOT? IN '(' operand (',' operand)* ')' | NOT? LIKE string)?
    operand   := literal | column | aggregate
    column    := name ('.' name)?
    aggregate := COUNT '(' '*' ')' | (COUNT | SUM | AVG | MIN | MAX) '(' column ')'

Aggregates are operands in HAVING only. Each repetition and each nesting takes a token, so the
number of tokens bounds them all.
-/
import RelStore.Sql.Parse.Tokens

namespace RelStore.Sql.Parse

/-- A literal, if the next token is one. A number without a point must be a safe integer. -/
def literal? : Parse (Option Value) := do
  let token ← peek
  match token.kind with
  | .number =>
    advance
    let value := (Decimal.ofLexeme token.lexeme.toList).toBinary64
    if token.lexeme.toList.contains '.' || value.isSafeInteger then
      return some (some (.number value))
    else throw (.integerOutOfRange token.lexeme token.place)
  | .string => advance; return some (Value.ofText token.lexeme)
  | .keyword =>
    match token.lexeme with
    | "TRUE" => advance; return some (Value.ofBool true)
    | "FALSE" => advance; return some (Value.ofBool false)
    | "NULL" => advance; return some none
    | _ => return none
  | _ => return none

def literal : Parse Value := do
  match ← literal? with
  | some value => return value
  | none => failExpecting "a literal value (number, string, TRUE, FALSE, NULL)"

def columnRef : Parse ColumnRef := do
  let first ← name "column name"
  if ← accept .dot then
    let column ← name "column name"
    return ⟨some first, column⟩
  else return ⟨none, first⟩

/-- The aggregate function that a name is, in any letter case. -/
def aggregateName? (lexeme : String) : Option AggregateFn :=
  AggregateFn.ofName? (String.ofList (lexeme.toList.map Char.toUpper))

/-- The aggregate function whose call comes next: its name with a parenthesis after it. -/
def aggregateAhead? : Parse (Option AggregateFn) := do
  let token ← peek
  let second ← peekSecond
  if token.kind = .identifier ∧ second.kind = .lparen then return aggregateName? token.lexeme
  else return none

/-- The call of an aggregate function whose name comes next. -/
def aggregateCall (fn : AggregateFn) : Parse AggregateCall := do
  advance
  let _ ← expect .lparen
  if ← atKind .star then
    if fn ≠ .count then failExpecting s!"a column inside {fn.name}()"
    advance
    let _ ← expect .rparen
    return ⟨fn, none⟩
  if ← atWord "DISTINCT" then throw (.unsupported (.distinctArgument fn))
  if !(← atKind .identifier) || (← aggregateAhead?).isSome then
    if (← atKind .rparen) || (← atKind .eof) then failExpecting s!"a column inside {fn.name}()"
    throw (.unsupported (.expressionArgument fn))
  let argument ← columnRef
  if ← accept .rparen then return ⟨fn, some argument⟩
  else throw (.unsupported (.expressionArgument fn))

def operand (clause : Clause) : Parse Expr := do
  match ← literal? with
  | some value => return .literal value
  | none =>
    match ← aggregateAhead? with
    | some fn =>
      if clause = .having then return .aggregate (← aggregateCall fn)
      else throw (.misplacedAggregate fn clause (← peek).place)
    | none =>
      if ← atKind .identifier then return .column (← columnRef)
      else failExpecting "a column or a literal value"

/-- The comparison that comes next. -/
def comparison? : Parse (Option CompareOp) := do
  let token ← peek
  if token.kind = .equals ∨ token.kind = .comparison then return CompareOp.ofSymbol? token.lexeme
  else return none

/-- Whether NOT comes next as part of BETWEEN, IN or LIKE. -/
def negationAhead : Parse Bool := do
  let second ← peekSecond
  return (← atWord "NOT") &&
    (second.isWord "BETWEEN" || second.isWord "IN" || second.isWord "LIKE")

/-- What follows an operand in a predicate. -/
def afterOperand (clause : Clause) (left : Expr) : Parse Expr := do
  match ← comparison? with
  | some op => advance; return .comparison op left (← operand clause)
  | none =>
    if ← acceptWord "IS" then
      let negated ← acceptWord "NOT"
      expectWordAs "NULL" "NULL or NOT NULL"
      return .isNull left negated
    let negated ← negationAhead
    if negated then advance
    if ← acceptWord "BETWEEN" then
      let low ← operand clause
      expectWordAs "AND" "AND in BETWEEN"
      let high ← operand clause
      return .between left low high negated
    if ← acceptWord "IN" then
      let _ ← expect .lparen
      let values ← commaList (operand clause)
      let _ ← expectAs .rparen "',' or ')'"
      return .inList left values negated
    if ← acceptWord "LIKE" then
      let pattern ← expectAs .string "a quoted LIKE pattern"
      return .like left pattern.lexeme negated
    return left

/-- A predicate, given the reader of what stands in parentheses. -/
def predicate (clause : Clause) (inner : Parse Expr) : Parse Expr := do
  if ← accept .lparen then
    let expr ← inner
    let _ ← expect .rparen
    return expr
  else afterOperand clause (← operand clause)

/-- A predicate with any number of NOT before it. -/
def negation (item : Parse Expr) : Nat → Parse Expr
  | 0 => item
  | bound + 1 => do
    if ← acceptWord "NOT" then return .not (← negation item bound) else item

/-- What follows the first item of a chain: a keyword and an item, again and again. The chain
associates to the left. -/
def chainAfter (word : String) (join : Expr → Expr → Expr) (item : Parse Expr) :
    Nat → Expr → Parse Expr
  | 0, left => return left
  | bound + 1, left => do
    if ← acceptWord word then
      let right ← item
      chainAfter word join item bound (join left right)
    else return left

/-- Items with a keyword between them. -/
def chain (word : String) (join : Expr → Expr → Expr) (item : Parse Expr) : Parse Expr := do
  let first ← item
  chainAfter word join item (← get).length first

/-- A condition with parentheses nested at most `depth` deep. -/
def exprWithin (clause : Clause) : Nat → Parse Expr
  | 0 => failExpecting "a column or a literal value"
  | depth + 1 =>
    chain "OR" .or <| chain "AND" .and <| do
      negation (predicate clause (exprWithin clause depth)) (← get).length

/-- A condition of a clause. -/
def expr (clause : Clause) : Parse Expr := do exprWithin clause ((← get).length + 1)

end RelStore.Sql.Parse
