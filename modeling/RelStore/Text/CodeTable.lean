/-
Tables of characters, written as lines of text.

A line has ranges between blanks. A range is `first-last`, or one code, in hexadecimal digits. A
word that is no range is left out.
-/
import RelStore.Hexadecimal

namespace RelStore.Text

/-- The codes from the first to the last. -/
structure CodeRange where
  first : Nat
  last : Nat
  deriving DecidableEq, Repr

def CodeRange.contains (range : CodeRange) (code : Nat) : Bool :=
  range.first ≤ code && code ≤ range.last

/-- The parts of a text before and after the first separator. -/
def cutAt (separator : Char) (text : List Char) : List Char × Option (List Char) :=
  match text.dropWhile (· != separator) with
  | _ :: rest => (text.takeWhile (· != separator), some rest)
  | [] => (text, none)

def CodeRange.ofText? (text : List Char) : Option CodeRange :=
  match cutAt '-' text with
  | (code, none) => (Hexadecimal.number? code).map fun code => ⟨code, code⟩
  | (first, some last) => do some ⟨← Hexadecimal.number? first, ← Hexadecimal.number? last⟩

/-- The words of a text, the characters of the current one in reverse. -/
def wordsFrom : List Char → List Char → List (List Char)
  | current, [] => if current.isEmpty then [] else [current.reverse]
  | current, c :: rest =>
    if c != ' ' then wordsFrom (c :: current) rest
    else if current.isEmpty then wordsFrom [] rest
    else current.reverse :: wordsFrom [] rest

/-- The words of a line, which are divided by blanks. -/
def words (line : String) : List (List Char) := wordsFrom [] line.toList

/-- The ranges of a line. -/
def rangesOfLine (line : String) : List CodeRange := (words line).filterMap CodeRange.ofText?

/-- The ranges of a table. -/
def rangesOfLines (lines : List String) : List CodeRange := lines.flatMap rangesOfLine

def isInRanges (ranges : List CodeRange) (c : Char) : Bool := ranges.any (·.contains c.toNat)

end RelStore.Text
