/-
The grammar of SQL, as derivations of lists of words.

A word is what a token says, apart from its place in the text. `Derives clause symbol words e` says
that the words follow from a symbol of the grammar of conditions and stand for the tree `e`:

    expr      := expr OR conjunct | conjunct
    conjunct  := conjunct AND negation | negation
    negation  := NOT negation | predicate
    predicate := '(' expr ')' | operand test
    test      := (comparison operand | IS NOT? NULL | NOT? BETWEEN operand AND operand
                   | NOT? IN '(' operand (',' operand)* ')' | NOT? LIKE string)?
    operand   := literal | column | aggregate
    column    := name ('.' name)?
    aggregate := COUNT '(' '*' ')' | (COUNT | SUM | AVG | MIN | MAX) '(' column ')'

Aggregates are operands in HAVING only. Each rule says which tree it makes, so that the grammar
settles what binds tighter: OR and AND associate to the left, and the AND of BETWEEN stands between
operands. `IsStatement words S` says the same of statements, where a list of items has commas
between them.
-/
import RelStore.Decimal
import RelStore.Sql.Name
import RelStore.Sql.Statement

namespace RelStore.Sql

/-! ## Words -/

/-- A word of a SQL text. -/
structure Word where
  kind : TokenKind
  lexeme : String
  deriving DecidableEq, Repr

def Token.word (token : Token) : Word := ⟨token.kind, token.lexeme⟩

/-- What a token of the kind says, if all of the kind say the same. -/
def TokenKind.sign : TokenKind → String
  | .equals => "="
  | .comma => ","
  | .lparen => "("
  | .rparen => ")"
  | .semicolon => ";"
  | .star => "*"
  | .dot => "."
  | _ => ""

/-- One digit or more. -/
def AreDigits (chars : List Char) : Prop := chars ≠ [] ∧ ∀ c ∈ chars, isDigit c = true

/-- `-?digits(.digits)?` -/
inductive IsNumeral : List Char → Prop where
  | whole {digits : List Char} (h : AreDigits digits) : IsNumeral digits
  | fraction {digits more : List Char} (h : AreDigits digits) (hmore : AreDigits more) :
    IsNumeral (digits ++ '.' :: more)
  | negativeWhole {digits : List Char} (h : AreDigits digits) : IsNumeral ('-' :: digits)
  | negativeFraction {digits more : List Char} (h : AreDigits digits) (hmore : AreDigits more) :
    IsNumeral ('-' :: (digits ++ '.' :: more))

/-- A run of word characters that is no keyword in any letter case. -/
structure IsIdentifier (name : String) : Prop where
  start : ∃ first rest, name.toList = first :: rest ∧ isWordStart first = true ∧
    ∀ c ∈ rest, isWordChar c = true
  notKeyword : String.ofList (name.toList.map Char.toUpper) ∉ keywords

namespace Word

def keyword (word : String) : Word := ⟨.keyword, word⟩

def name (lexeme : String) : Word := ⟨.identifier, lexeme⟩

def sign (kind : TokenKind) : Word := ⟨kind, kind.sign⟩

def quoted (content : String) : Word := ⟨.string, content⟩

/-- The words that a text can have. -/
def Lexical (word : Word) : Prop :=
  match word.kind with
  | .number => IsNumeral word.lexeme.toList
  | .string => True
  | .keyword => word.lexeme ∈ keywords
  | .identifier => IsIdentifier word.lexeme
  | .comparison => word.lexeme ∈ ["<", ">", "<=", ">=", "<>", "!="]
  | kind => word.lexeme = kind.sign

/-- A word that a text can have before its end. -/
def Spoken (word : Word) : Prop := word.Lexical ∧ word.kind ≠ .eof

/-- The number that a numeral stands for. -/
def number (word : Word) : Binary64 := (Decimal.ofLexeme word.lexeme.toList).toBinary64

/-- The word is no number without a point, or it is a safe integer. -/
def InRange (word : Word) : Prop :=
  word.kind = .number → '.' ∈ word.lexeme.toList ∨ word.number.isSafeInteger = true

end Word

def AllSpoken (words : List Word) : Prop := ∀ word ∈ words, word.Spoken

/-! ## Parts in general -/

section

variable {α : Type} (item : List Word → α → Prop)

/-- `item (',' item)*` -/
inductive Listed : List Word → List α → Prop where
  | one {words : List Word} {a : α} (h : item words a) : Listed words [a]
  | more {words others : List Word} {a : α} {rest : List α} (h : item words a)
    (hrest : Listed others rest) : Listed (words ++ .sign .comma :: others) (a :: rest)

/-- `item?` -/
inductive Optionally : List Word → Option α → Prop where
  | absent : Optionally [] none
  | present {words : List Word} {a : α} (h : item words a) : Optionally words (some a)

end

/-- A word that may be missing. -/
def wordIf (present : Bool) (word : String) : List Word :=
  if present then [.keyword word] else []

inductive IsColumnName : List Word → String → Prop where
  | mk (name : String) : IsColumnName [.name name] name

/-! ## Operands -/

/-- A number without a point must be a safe integer. -/
inductive IsLiteral : Word → Value → Prop where
  | number (numeral : String) (h : Word.InRange ⟨.number, numeral⟩) :
    IsLiteral ⟨.number, numeral⟩ (some (.number (Word.number ⟨.number, numeral⟩)))
  | text (content : String) : IsLiteral (.quoted content) (Value.ofText content)
  | true : IsLiteral (.keyword "TRUE") (Value.ofBool true)
  | false : IsLiteral (.keyword "FALSE") (Value.ofBool false)
  | null : IsLiteral (.keyword "NULL") none

inductive IsColumn : List Word → ColumnRef → Prop where
  | alone (column : String) : IsColumn [.name column] ⟨none, column⟩
  | qualified (table column : String) :
    IsColumn [.name table, .sign .dot, .name column] ⟨some table, column⟩

/-- The name of an aggregate function, in any letter case. -/
def IsFunction (name : String) (fn : AggregateFn) : Prop :=
  String.ofList (name.toList.map Char.toUpper) = fn.name

inductive IsAggregate : List Word → AggregateCall → Prop where
  | rows {name : String} (hname : IsFunction name .count) :
    IsAggregate [.name name, .sign .lparen, .sign .star, .sign .rparen] ⟨.count, none⟩
  | column {name : String} {fn : AggregateFn} {words : List Word} {ref : ColumnRef}
    (hname : IsFunction name fn) (hwords : IsColumn words ref) :
    IsAggregate (.name name :: .sign .lparen :: (words ++ [.sign .rparen])) ⟨fn, some ref⟩

inductive IsOperand (clause : Clause) : List Word → Expr → Prop where
  | literal {word : Word} {value : Value} (h : IsLiteral word value) :
    IsOperand clause [word] (.literal value)
  | column {words : List Word} {ref : ColumnRef} (h : IsColumn words ref) :
    IsOperand clause words (.column ref)
  | aggregate {words : List Word} {call : AggregateCall} (hclause : clause = .having)
    (h : IsAggregate words call) : IsOperand clause words (.aggregate call)

/-! ## Predicates -/

def CompareOp.word : CompareOp → Word
  | .eq => .sign .equals
  | op => ⟨.comparison, op.symbol⟩

/-- What is asked of an operand, and the tree of the operand and the question. -/
inductive IsTest (clause : Clause) (left : Expr) : List Word → Expr → Prop where
  | none : IsTest clause left [] left
  | comparison {words : List Word} {right : Expr} (op : CompareOp)
    (h : IsOperand clause words right) :
    IsTest clause left (op.word :: words) (.comparison op left right)
  | isNull (negated : Bool) :
    IsTest clause left (.keyword "IS" :: (wordIf negated "NOT" ++ [.keyword "NULL"]))
      (.isNull left negated)
  | between {words others : List Word} {low high : Expr} (negated : Bool)
    (hlow : IsOperand clause words low) (hhigh : IsOperand clause others high) :
    IsTest clause left
      (wordIf negated "NOT" ++ .keyword "BETWEEN" :: (words ++ .keyword "AND" :: others))
      (.between left low high negated)
  | inList {words : List Word} {values : List Expr} (negated : Bool)
    (h : Listed (IsOperand clause) words values) :
    IsTest clause left
      (wordIf negated "NOT" ++ .keyword "IN" :: .sign .lparen :: (words ++ [.sign .rparen]))
      (.inList left values negated)
  | like (negated : Bool) (pattern : String) :
    IsTest clause left (wordIf negated "NOT" ++ [.keyword "LIKE", .quoted pattern])
      (.like left pattern negated)

/-! ## Conditions -/

/-- The symbols that conditions are derived from. -/
inductive Nonterminal where
  | expr
  | conjunct
  | negation
  | predicate
  deriving DecidableEq, Repr

/-- Words that follow from a symbol, and the tree that they stand for. -/
inductive Derives (clause : Clause) : Nonterminal → List Word → Expr → Prop where
  | or {words others : List Word} {left right : Expr} (hleft : Derives clause .expr words left)
    (hright : Derives clause .conjunct others right) :
    Derives clause .expr (words ++ .keyword "OR" :: others) (.or left right)
  | conjunct {words : List Word} {e : Expr} (h : Derives clause .conjunct words e) :
    Derives clause .expr words e
  | and {words others : List Word} {left right : Expr}
    (hleft : Derives clause .conjunct words left)
    (hright : Derives clause .negation others right) :
    Derives clause .conjunct (words ++ .keyword "AND" :: others) (.and left right)
  | negation {words : List Word} {e : Expr} (h : Derives clause .negation words e) :
    Derives clause .conjunct words e
  | not {words : List Word} {e : Expr} (h : Derives clause .negation words e) :
    Derives clause .negation (.keyword "NOT" :: words) (.not e)
  | predicate {words : List Word} {e : Expr} (h : Derives clause .predicate words e) :
    Derives clause .negation words e
  | parentheses {words : List Word} {e : Expr} (h : Derives clause .expr words e) :
    Derives clause .predicate (.sign .lparen :: (words ++ [.sign .rparen])) e
  | test {words others : List Word} {left e : Expr} (hleft : IsOperand clause words left)
    (h : IsTest clause left others e) : Derives clause .predicate (words ++ others) e

/-! ## Clauses -/

inductive IsFilter : List Word → Expr → Prop where
  | mk {words : List Word} {e : Expr} (h : Derives .filter .expr words e) :
    IsFilter (.keyword "WHERE" :: words) e

inductive IsHaving : List Word → Expr → Prop where
  | mk {words : List Word} {e : Expr} (h : Derives .having .expr words e) :
    IsHaving (.keyword "HAVING" :: words) e

inductive IsJoin : List Word → Join → Prop where
  | mk {words : List Word} {e : Expr} (inner : Bool) (table : String)
    (h : Derives .on .expr words e) :
    IsJoin (wordIf inner "INNER" ++
      .keyword "JOIN" :: .name table :: .keyword "ON" :: words) ⟨table, e⟩

inductive IsAlias : List Word → String → Prop where
  | mk (name : String) : IsAlias [.keyword "AS", .name name] name

inductive IsProjection : List Word → Projection → Prop where
  | star : IsProjection [.sign .star] .star
  | column {words others : List Word} {ref : ColumnRef} {name? : Option String}
    (h : IsColumn words ref) (hname : Optionally IsAlias others name?) :
    IsProjection (words ++ others) (.column ref name?)
  | aggregate {words others : List Word} {call : AggregateCall} {name? : Option String}
    (h : IsAggregate words call) (hname : Optionally IsAlias others name?) :
    IsProjection (words ++ others) (.aggregate call name?)

/-- `(GROUP BY column (',' column)*)?` -/
inductive IsGroupBy : List Word → List ColumnRef → Prop where
  | absent : IsGroupBy [] []
  | present {words : List Word} {refs : List ColumnRef} (h : Listed IsColumn words refs) :
    IsGroupBy (.keyword "GROUP" :: .keyword "BY" :: words) refs

inductive IsOrderKey : List Word → OrderKey → Prop where
  | column {words : List Word} {ref : ColumnRef} (h : IsColumn words ref) :
    IsOrderKey words (.column ref)
  | aggregate {words : List Word} {call : AggregateCall} (h : IsAggregate words call) :
    IsOrderKey words (.aggregate call)

inductive IsOrderItem : List Word → OrderItem → Prop where
  | asc {words : List Word} {key : OrderKey} (h : IsOrderKey words key) (named : Bool) :
    IsOrderItem (words ++ wordIf named "ASC") ⟨key, .asc⟩
  | desc {words : List Word} {key : OrderKey} (h : IsOrderKey words key) :
    IsOrderItem (words ++ [.keyword "DESC"]) ⟨key, .desc⟩

/-- `(ORDER BY order (',' order)*)?` -/
inductive IsOrderBy : List Word → List OrderItem → Prop where
  | absent : IsOrderBy [] []
  | present {words : List Word} {items : List OrderItem} (h : Listed IsOrderItem words items) :
    IsOrderBy (.keyword "ORDER" :: .keyword "BY" :: words) items

/-- A paging clause, whose number is one that such a clause takes. -/
inductive IsPaging (clause : PagingClause) : List Word → Binary64 → Prop where
  | mk (numeral : String) (h : checkPaging clause (Word.number ⟨.number, numeral⟩) = .ok ()) :
    IsPaging clause [.keyword clause.name, ⟨.number, numeral⟩] (Word.number ⟨.number, numeral⟩)

/-- LIMIT and OFFSET in either order. -/
inductive ArePaging : List Word → Option Binary64 × Option Binary64 → Prop where
  | absent : ArePaging [] (none, none)
  | limit {words others : List Word} {limit : Binary64} {offset : Option Binary64}
    (hlimit : IsPaging .limit words limit)
    (hoffset : Optionally (IsPaging .offset) others offset) :
    ArePaging (words ++ others) (some limit, offset)
  | offset {words others : List Word} {limit : Option Binary64} {offset : Binary64}
    (hoffset : IsPaging .offset words offset)
    (hlimit : Optionally (IsPaging .limit) others limit) :
    ArePaging (words ++ others) (limit, some offset)

/-! ## Definitions of columns -/

inductive IsType : String → DataType → Prop where
  | int : IsType "INT" .int
  | integer : IsType "INTEGER" .int
  | float : IsType "FLOAT" .float
  | string : IsType "STRING" .string
  | text : IsType "TEXT" .string
  | bool : IsType "BOOL" .bool
  | boolean : IsType "BOOLEAN" .bool

/-- What properties make of a column. -/
inductive AreProperties : Column → List Word → Column → Prop where
  | none (column : Column) : AreProperties column [] column
  | primaryKey {column made : Column} {words : List Word}
    (h : AreProperties { column with primaryKey := true } words made) :
    AreProperties column (.keyword "PRIMARY" :: .keyword "KEY" :: words) made
  | unique {column made : Column} {words : List Word}
    (h : AreProperties { column with unique := true } words made) :
    AreProperties column (.keyword "UNIQUE" :: words) made
  | references {column made : Column} {words : List Word} (table target : String)
    (h : AreProperties { column with references := some ⟨table, target⟩ } words made) :
    AreProperties column (.keyword "REFERENCES" :: .name table :: .sign .lparen :: .name target ::
      .sign .rparen :: words) made

/-- A column, with a name that a new column may have. -/
inductive IsDefinition : List Word → Column → Prop where
  | mk {name typeName : String} {type : DataType} {words : List Word} {column : Column}
    (hname : checkName .column name = .ok ()) (htype : IsType typeName type)
    (h : AreProperties ⟨name, type, false, false, none⟩ words column) :
    IsDefinition (.name name :: .keyword typeName :: words) column

/-! ## Statements -/

inductive IsAssignment : List Word → Assignment → Prop where
  | mk (column : String) {word : Word} {value : Value} (h : IsLiteral word value) :
    IsAssignment [.name column, .sign .equals, word] ⟨column, value⟩

/-- A literal by itself. -/
inductive IsValue : List Word → Value → Prop where
  | mk {word : Word} {value : Value} (h : IsLiteral word value) : IsValue [word] value

/-- Items in parentheses. -/
inductive InParentheses {α : Type} (items : List Word → α → Prop) : List Word → α → Prop where
  | mk {words : List Word} {a : α} (h : items words a) :
    InParentheses items (.sign .lparen :: (words ++ [.sign .rparen])) a

/-- `SELECT ...`, its clauses one after the other. -/
inductive IsSelect : List Word → Select → Prop where
  | mk {projectionWords joinWords filterWords groupWords havingWords orderWords pagingWords : List Word}
    {query : Select}
    (hprojections : Listed IsProjection projectionWords query.projections)
    (hjoin : Optionally IsJoin joinWords query.join)
    (hfilter : Optionally IsFilter filterWords query.filter)
    (hgroupBy : IsGroupBy groupWords query.groupBy)
    (hhaving : Optionally IsHaving havingWords query.having)
    (horderBy : IsOrderBy orderWords query.orderBy)
    (hpaging : ArePaging pagingWords (query.limit, query.offset)) :
    IsSelect (wordIf query.distinct "DISTINCT" ++ (projectionWords ++ .keyword "FROM" ::
      .name query.table :: (joinWords ++ (filterWords ++ (groupWords ++ (havingWords ++
        (orderWords ++ pagingWords))))))) query

/-- Words that stand for a statement. New objects have names that they may have. -/
inductive IsStatement : List Word → Statement → Prop where
  | createDatabase {name : String} (h : checkName .database name = .ok ()) :
    IsStatement [.keyword "CREATE", .keyword "DATABASE", .name name] (.createDatabase name)
  | createTable {name : String} {words : List Word} {columns : List Column}
    (hname : checkName .table name = .ok ())
    (hcolumns : InParentheses (Listed IsDefinition) words columns) :
    IsStatement (.keyword "CREATE" :: .keyword "TABLE" :: .name name :: words)
      (.createTable ⟨name, columns⟩)
  | dropDatabase (name : String) :
    IsStatement [.keyword "DROP", .keyword "DATABASE", .name name] (.dropDatabase name)
  | dropTable (name : String) :
    IsStatement [.keyword "DROP", .keyword "TABLE", .name name] (.dropTable name)
  | useDatabase (name : String) :
    IsStatement [.keyword "USE", .name name] (.useDatabase name)
  | showDatabases : IsStatement [.keyword "SHOW", .keyword "DATABASES"] .showDatabases
  | showTables : IsStatement [.keyword "SHOW", .keyword "TABLES"] .showTables
  | describe (table : String) : IsStatement [.keyword "DESCRIBE", .name table] (.describe table)
  | insert (table : String) {words others : List Word} {columns : Option (List String)}
    {values : List Value}
    (hcolumns : Optionally (InParentheses (Listed IsColumnName)) words columns)
    (hvalues : InParentheses (Listed IsValue) others values) :
    IsStatement (.keyword "INSERT" :: .keyword "INTO" :: .name table ::
      (words ++ .keyword "VALUES" :: others)) (.insert table columns values)
  | update (table : String) {words others : List Word} {assignments : List Assignment}
    {filter : Option Expr} (hassignments : Listed IsAssignment words assignments)
    (hfilter : Optionally IsFilter others filter) :
    IsStatement (.keyword "UPDATE" :: .name table :: .keyword "SET" :: (words ++ others))
      (.update table assignments filter)
  | delete (table : String) {words : List Word} {filter : Option Expr}
    (hfilter : Optionally IsFilter words filter) :
    IsStatement (.keyword "DELETE" :: .keyword "FROM" :: .name table :: words)
      (.delete table filter)
  | select {words : List Word} {query : Select} (h : IsSelect words query) :
    IsStatement (.keyword "SELECT" :: words) (.select query)

end RelStore.Sql
