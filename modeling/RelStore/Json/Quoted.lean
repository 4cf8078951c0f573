/-
Quoted JSON strings: a quote, a backslash, the control characters and halves of characters that
stand alone are escaped, and all other characters stand for themselves.
-/
import RelStore.Hexadecimal
import RelStore.Text.Units

namespace RelStore.Json

open Hexadecimal (lowerDigit)

/-- The escape of a unit. -/
def unitEscape (unit : Nat) : List Char :=
  ['\\', 'u', lowerDigit (unit / 4096), lowerDigit (unit / 256 % 16), lowerDigit (unit / 16 % 16),
   lowerDigit (unit % 16)]

/-- The characters that stand for one character inside a quoted string. -/
def escaped (c : Char) : List Char :=
  if c == '"' then ['\\', '"']
  else if c == '\\' then ['\\', '\\']
  else if c == '\n' then ['\\', 'n']
  else if c == '\r' then ['\\', 'r']
  else if c == '\t' then ['\\', 't']
  else if c == '\x08' then ['\\', 'b']
  else if c == '\x0c' then ['\\', 'f']
  else if c.toNat < 32 then unitEscape c.toNat
  else if Text.isHalf c then unitEscape (Text.unitOfHalf c)
  else [c]

/-- The characters that stand for a text inside a quoted string. -/
def escapedText : List Char → List Char
  | [] => []
  | [c] => escaped c
  | c :: d :: rest =>
    if Text.isHighHalf c && Text.isLowHalf d then c :: d :: escapedText rest
    else escaped c ++ escapedText (d :: rest)

def quoted (s : String) : String := String.ofList ('"' :: escapedText s.toList ++ ['"'])

end RelStore.Json
