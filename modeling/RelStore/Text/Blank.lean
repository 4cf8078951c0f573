/-
White space in the lines of the shell: the space characters of Unicode, the control characters
from tab to carriage return, and the byte order mark. (SQL text has blanks of its own, see
`RelStore.Sql.Scan`.)
-/
namespace RelStore.Text

def isBlank (c : Char) : Bool :=
  let code := c.toNat
  (0x09 ≤ code && code ≤ 0x0D) || code == 0x20 || code == 0xA0 || code == 0x1680 ||
    (0x2000 ≤ code && code ≤ 0x200A) || code == 0x2028 || code == 0x2029 || code == 0x202F ||
    code == 0x205F || code == 0x3000 || code == 0xFEFF

def trimChars (text : List Char) : List Char :=
  ((text.dropWhile isBlank).reverse.dropWhile isBlank).reverse

/-- The text without the white space at its ends. -/
def trim (s : String) : String := String.ofList (trimChars s.toList)

/-- The pieces between runs of white space. -/
def splitBlanksFrom : List Char → List Char → Bool → List (List Char)
  | piece, [], _ => [piece.reverse]
  | piece, c :: rest, inBlank =>
    if isBlank c then
      if inBlank then splitBlanksFrom piece rest true
      else piece.reverse :: splitBlanksFrom [] rest true
    else splitBlanksFrom (c :: piece) rest false

def splitBlanks (s : String) : List String := (splitBlanksFrom [] s.toList false).map String.ofList

end RelStore.Text
