/-
Percent escapes: a percent sign and two hexadecimal digits stand for a byte.
-/
import RelStore.Hexadecimal
import RelStore.Text.Bytes

namespace RelStore.Url

def charBytes (c : Char) : List Nat := (String.utf8EncodeChar c).map (·.toNat)

/-- The byte of the two digits that follow a percent sign. -/
def escapedByte? : List Char → Option Nat
  | a :: b :: _ => Hexadecimal.number? [a, b]
  | _ => none

/-- The bytes that a text stands for, after some characters that are read already. A percent sign
that begins no escape stands for itself. -/
def unescapeAfter : Nat → List Char → List Nat
  | _, [] => []
  | skipped + 1, _ :: rest => unescapeAfter skipped rest
  | 0, c :: rest =>
    match if c == '%' then escapedByte? rest else none with
    | some byte => byte :: unescapeAfter 2 rest
    | none => charBytes c ++ unescapeAfter 0 rest

def unescape (text : List Char) : List Nat := unescapeAfter 0 text

/-- Whether every percent sign begins an escape. -/
def escapesWell : List Char → Bool
  | [] => true
  | c :: rest => (c != '%' || (escapedByte? rest).isSome) && escapesWell rest

/-- The text that an escaped text stands for, if it is well escaped and means a text. -/
def decodeText? (text : String) : Option String :=
  if escapesWell text.toList then Text.ofBytes? (unescape text.toList) else none

/-- The text that a form value stands for: blanks are written as plus signs. -/
def decodeFormText (text : List Char) : String :=
  Text.ofBytes (unescape (text.map fun c => if c == '+' then ' ' else c))

def escapeByte (byte : Nat) : List Char := 
  ['%', Hexadecimal.upperDigit (byte / 16), Hexadecimal.upperDigit (byte % 16)]

/-- Escapes what is not printable in ASCII. -/
def escapeUnprintable (text : List Char) : List Char :=
  text.flatMap fun c =>
    if 32 ≤ c.toNat && c.toNat < 127 then [c] else (charBytes c).flatMap escapeByte

end RelStore.Url
