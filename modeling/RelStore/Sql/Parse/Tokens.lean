/-
Reading a list of tokens from the front.

`Parse` is a reader of tokens that may fail. The end of the text is a token too, which `advance`
never passes, so there is always a next token.
-/
import RelStore.Sql.Scan
import RelStore.Sql.Statement

namespace RelStore.Sql

/-- A reader of tokens: it takes some from the front of the list or fails. -/
abbrev Parse := StateT (List Token) (Except Cause)

namespace Parse

def endToken : Token := ⟨.eof, "", .start⟩

/-- The next token. -/
def peek : Parse Token := do return (← get).head?.getD endToken

/-- The token after the next. -/
def peekSecond : Parse Token := do
  match ← get with
  | _ :: second :: _ => return second
  | [last] => return last
  | [] => return endToken

/-- Takes the next token, unless it is the end. -/
def advance : Parse Unit := modify fun tokens =>
  match tokens with
  | token :: rest => if token.kind = .eof then tokens else rest
  | [] => []

/-- Fails at the next token, saying what was expected in its place. -/
def failExpecting {α : Type} (what : String) : Parse α := do
  let token ← peek
  throw (.expected what (if token.kind = .eof then none else some token.lexeme) token.place)

def atKind (kind : TokenKind) : Parse Bool := do return (← peek).kind == kind

def atWord (word : String) : Parse Bool := do return (← peek).isWord word

/-- Takes the next token if it is of this kind. -/
def accept (kind : TokenKind) : Parse Bool := do
  if ← atKind kind then advance; return true else return false

/-- Takes the next token if it is this keyword. -/
def acceptWord (word : String) : Parse Bool := do
  if ← atWord word then advance; return true else return false

def expectAs (kind : TokenKind) (what : String) : Parse Token := do
  let token ← peek
  if token.kind = kind then advance; return token else failExpecting what

def expect (kind : TokenKind) : Parse Token := expectAs kind kind.described

def expectWordAs (word what : String) : Parse Unit := do
  if ← acceptWord word then return () else failExpecting what

def expectWord (word : String) : Parse Unit := expectWordAs word word

/-- A name; `what` says of which object. -/
def name (what : String) : Parse String := do return (← expectAs .identifier what).lexeme

/-- The items after commas. Each takes a comma, so there are at most as many as tokens. -/
def afterCommas {α : Type} (item : Parse α) : Nat → Parse (List α)
  | 0 => return []
  | bound + 1 => do
    if ← accept .comma then
      let first ← item
      let rest ← afterCommas item bound
      return first :: rest
    else return []

/-- One item or more, with commas between them. -/
def commaList {α : Type} (item : Parse α) : Parse (List α) := do
  let first ← item
  let rest ← afterCommas item (← get).length
  return first :: rest

end Parse

end RelStore.Sql
