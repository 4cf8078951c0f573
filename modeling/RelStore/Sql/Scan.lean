/-
From a SQL text to its tokens.

`pieceAt` reads one piece at a place: a token, a run of blanks or a comment. A comment starts
with two hyphens and runs to the end of the line; a hyphen before a digit belongs to the number;
a number has a fraction only when a digit follows the point; a quoted string holds a quote by
writing it twice. `tokenize` reads piece after piece to the end of the text.
-/
import RelStore.Sql.Token

namespace RelStore.Sql

/-- A piece of text: the token it is, if it is one, and how many characters it has after its
first. -/
structure Piece where
  token : Option (TokenKind × String)
  extra : Nat
  deriving DecidableEq, Repr

/-- The content of a quoted string and the number of characters up to and with its closing quote,
given the text after the opening quote. -/
def readQuoted : List Char → Option (List Char × Nat)
  | [] => none
  | '\'' :: '\'' :: rest => (readQuoted rest).map fun (content, size) => ('\'' :: content, size + 2)
  | c :: rest =>
    if c = '\'' then some ([], 1)
    else (readQuoted rest).map fun (content, size) => (c :: content, size + 1)

/-- The characters after the first of a number, given the text after it. -/
def numberTail (rest : List Char) : List Char :=
  let whole := rest.takeWhile isDigit
  match rest.dropWhile isDigit with
  | '.' :: c :: more => if isDigit c then whole ++ '.' :: (c :: more).takeWhile isDigit else whole
  | _ => whole

/-- A word is a keyword in any letter case, or else a name. -/
def wordToken (word : List Char) : TokenKind × String :=
  let upper := String.ofList (word.map Char.toUpper)
  if upper ∈ keywords then (.keyword, upper) else (.identifier, String.ofList word)

/-- The second character of a comparison sign that starts with `c`. -/
def comparisonSecond? (c : Char) (rest : List Char) : Option Char :=
  match rest with
  | '=' :: _ => some '='
  | '>' :: _ => if c == '<' then some '>' else none
  | _ => none

/-- The piece that starts with `c` at this place. -/
def pieceAt (place : Position) (c : Char) (rest : List Char) : Except Cause Piece :=
  if isGap c then .ok ⟨none, 0⟩
  else if c == '-' && rest.head? == some '-' then
    .ok ⟨none, (rest.takeWhile (· != '\n')).length⟩
  else if c == '\'' then
    match readQuoted rest with
    | some (content, size) => .ok ⟨some (.string, String.ofList content), size⟩
    | none => .error (.unterminatedString place)
  else if isDigit c || (c == '-' && rest.head?.any isDigit) then
    let tail := numberTail rest
    .ok ⟨some (.number, String.ofList (c :: tail)), tail.length⟩
  else if isWordStart c then
    let tail := rest.takeWhile isWordChar
    .ok ⟨some (wordToken (c :: tail)), tail.length⟩
  else if c == '<' || c == '>' || c == '!' then
    match comparisonSecond? c rest with
    | some second => .ok ⟨some (.comparison, String.ofList [c, second]), 1⟩
    | none =>
      if c == '!' then .error (.unexpectedCharacter "!" place)
      else .ok ⟨some (.comparison, c.toString), 0⟩
  else
    match punctuation? c with
    | some kind => .ok ⟨some (kind, c.toString), 0⟩
    | none => .error (.unexpectedCharacter (Text.firstUnit c) place)

/-- The tokens of the text from a place on. -/
def tokensFrom (place : Position) : List Char → Except Cause (List Token)
  | [] => .ok [⟨.eof, "", place⟩]
  | c :: rest =>
    match pieceAt place c rest with
    | .error cause => .error cause
    | .ok piece =>
      match tokensFrom (place.after (c :: rest.take piece.extra)) (rest.drop piece.extra) with
      | .error cause => .error cause
      | .ok tokens =>
        match piece.token with
        | some (kind, lexeme) => .ok (⟨kind, lexeme, place⟩ :: tokens)
        | none => .ok tokens
termination_by text => text.length
decreasing_by simp only [List.length_drop, List.length_cons]; omega

def tokenize (sql : String) : Except Cause (List Token) := tokensFrom .start sql.toList

end RelStore.Sql
