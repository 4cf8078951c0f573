/-
The words of SQL texts.

A token has its place in the text and a lexeme: keywords in upper case, names as written, quoted
strings without their quotes. The list of tokens of a text ends in one `eof` token.
-/
import RelStore.Error

namespace RelStore.Sql

inductive TokenKind where
  | number
  | string
  | keyword
  | identifier
  | comparison
  | equals
  | comma
  | lparen
  | rparen
  | semicolon
  | star
  | dot
  | eof
  deriving DecidableEq, Repr

def TokenKind.name : TokenKind → String
  | .number => "NUMBER"
  | .string => "STRING"
  | .keyword => "KEYWORD"
  | .identifier => "IDENTIFIER"
  | .comparison => "COMPARISON"
  | .equals => "EQUALS"
  | .comma => "COMMA"
  | .lparen => "LPAREN"
  | .rparen => "RPAREN"
  | .semicolon => "SEMICOLON"
  | .star => "STAR"
  | .dot => "DOT"
  | .eof => "EOF"

/-- The kind as messages name it when it was expected. -/
def TokenKind.described : TokenKind → String
  | .number => "number"
  | .string => "string"
  | .keyword => "keyword"
  | .identifier => "identifier"
  | .comparison => "comparison"
  | .equals => "'='"
  | .comma => "','"
  | .lparen => "'('"
  | .rparen => "')'"
  | .semicolon => "';'"
  | .star => "'*'"
  | .dot => "'.'"
  | .eof => "eof"

structure Token where
  kind : TokenKind
  lexeme : String
  place : Position
  deriving DecidableEq, Repr

def Token.isWord (token : Token) (word : String) : Bool :=
  token.kind == .keyword && token.lexeme == word

def keywords : List String :=
  ["CREATE", "DROP", "DATABASE", "DATABASES", "TABLE", "TABLES", "USE", "SHOW", "DESCRIBE",
   "INSERT", "INTO", "VALUES", "SELECT", "DISTINCT", "FROM", "WHERE", "UPDATE", "SET", "DELETE",
   "INNER", "JOIN", "ON", "AS", "GROUP", "BY", "HAVING", "ORDER", "ASC", "DESC", "LIMIT",
   "OFFSET", "AND", "OR", "NOT", "IS", "NULL", "BETWEEN", "IN", "LIKE", "TRUE", "FALSE",
   "PRIMARY", "KEY", "UNIQUE", "REFERENCES", "INT", "INTEGER", "FLOAT", "STRING", "TEXT", "BOOL",
   "BOOLEAN"]

def isDigit (c : Char) : Bool := '0' ≤ c && c ≤ '9'

def isLetter (c : Char) : Bool := ('a' ≤ c && c ≤ 'z') || ('A' ≤ c && c ≤ 'Z')

/-- Words start with a letter or an underscore. -/
def isWordStart (c : Char) : Bool := isLetter c || c == '_'

def isWordChar (c : Char) : Bool := isLetter c || isDigit c || c == '_'

/-- The characters between tokens. -/
def isGap (c : Char) : Bool := c == ' ' || c == '\t' || c == '\n' || c == '\r'

/-- The tokens of one fixed character. -/
def punctuation? : Char → Option TokenKind
  | '=' => some .equals
  | ',' => some .comma
  | '(' => some .lparen
  | ')' => some .rparen
  | ';' => some .semicolon
  | '*' => some .star
  | '.' => some .dot
  | _ => none

end RelStore.Sql

namespace RelStore

def Position.start : Position := ⟨0, 1, 1⟩

/-- The place after a character. -/
def Position.next (place : Position) (c : Char) : Position :=
  if c == '\n' then ⟨place.offset + 1, place.line + 1, 1⟩
  else
    let width := Text.unitCount c
    ⟨place.offset + width, place.line, place.column + width⟩

/-- The place after a run of characters. -/
def Position.after (place : Position) (text : List Char) : Position := text.foldl Position.next place

@[simp] theorem Position.after_nil (place : Position) : place.after [] = place := rfl

end RelStore
