/-
Reading JSON texts.

The readers take the front of a list of characters and give the rest. Values nest and follow one
another, and each takes a character at least, so the length of the text bounds the recursion. Of
fields with one key the last gives the value, in the place of the first.
-/
import RelStore.Hexadecimal
import RelStore.Json
import RelStore.Record

namespace RelStore.Json

def isSpace (c : Char) : Bool := c == ' ' || c == '\t' || c == '\n' || c == '\r'

def skipSpace (text : List Char) : List Char := text.dropWhile isSpace

/-- The unit written as four hexadecimal digits. -/
def unitOfHex? : List Char → Option (Nat × List Char)
  | a :: b :: c :: d :: rest => (Hexadecimal.number? [a, b, c, d]).map fun unit => (unit, rest)
  | _ => none

/-- The character of a `\u` escape, given the text after the `u`. The escape can name half a
character. -/
def escapedUnit? (text : List Char) : Option (Char × List Char) := do
  let (unit, rest) ← unitOfHex? text
  let isHalf := 0xD800 ≤ unit && unit < 0xE000
  some (if isHalf then Text.halfOfUnit unit else Char.ofNat unit, rest)

/-- The character of an escape, given the text after the backslash. -/
def escape? : List Char → Option (Char × List Char)
  | '"' :: rest => some ('"', rest)
  | '\\' :: rest => some ('\\', rest)
  | '/' :: rest => some ('/', rest)
  | 'b' :: rest => some ('\x08', rest)
  | 'f' :: rest => some ('\x0c', rest)
  | 'n' :: rest => some ('\n', rest)
  | 'r' :: rest => some ('\r', rest)
  | 't' :: rest => some ('\t', rest)
  | 'u' :: rest => escapedUnit? rest
  | _ => none

/-- The characters up to the closing quote. -/
def stringBody : Nat → List Char → Option (List Char × List Char)
  | 0, _ => none
  | _ + 1, [] => none
  | _ + 1, '"' :: rest => some ([], rest)
  | bound + 1, '\\' :: rest => do
    let (c, rest) ← escape? rest
    let (body, rest) ← stringBody bound rest
    some (c :: body, rest)
  | bound + 1, c :: rest => do
    if c.toNat < 32 then none
    let (body, rest) ← stringBody bound rest
    some (c :: body, rest)

def string? (bound : Nat) : List Char → Option (String × List Char)
  | '"' :: rest =>
    (stringBody bound rest).map fun (body, rest) => (String.ofList (Text.joinHalves body), rest)
  | _ => none

/-- A run of digits, at least one. -/
def digits? (text : List Char) : Option (List Char × List Char) :=
  let digits := text.takeWhile Char.isDigit
  if digits.isEmpty then none else some (digits, text.dropWhile Char.isDigit)

/-- The digits of a whole number: a zero alone or a number without leading zeros. -/
def whole? : List Char → Option (List Char × List Char)
  | '0' :: rest => some (['0'], rest)
  | text => digits? text

def fraction? : List Char → Option (List Char × List Char)
  | '.' :: rest => digits? rest
  | text => some ([], text)

def powerDigits? : List Char → Option (Int × List Char)
  | '-' :: rest => (digits? rest).map fun (digits, rest) => (-(digitsValue digits : Int), rest)
  | '+' :: rest => (digits? rest).map fun (digits, rest) => ((digitsValue digits : Int), rest)
  | rest => (digits? rest).map fun (digits, rest) => ((digitsValue digits : Int), rest)

def power? : List Char → Option (Int × List Char)
  | c :: rest => if c == 'e' || c == 'E' then powerDigits? rest else some (0, c :: rest)
  | [] => some (0, [])

def number? (text : List Char) : Option (Binary64 × List Char) := do
  let negative := text.head? == some '-'
  let (whole, rest) ← whole? (if negative then text.tail else text)
  let (fraction, rest) ← fraction? rest
  let (power, rest) ← power? rest
  some ((Decimal.ofParts negative whole fraction power).toBinary64, rest)

def word? (word : String) (value : Json) (text : List Char) : Option (Json × List Char) :=
  if word.toList.isPrefixOf text then some (value, text.drop word.length) else none

/-- Sets a field: in place of an earlier one with its key, or at the end. -/
def setField (key : String) (value : Json) : List (String × Json) → List (String × Json)
  | [] => [(key, value)]
  | (other, old) :: rest =>
    if other == key then (key, value) :: rest else (other, old) :: setField key value rest

mutual

def value? : Nat → List Char → Option (Json × List Char)
  | 0, _ => none
  | bound + 1, text =>
    match skipSpace text with
    | '[' :: rest =>
      match skipSpace rest with
      | ']' :: rest => some (.array [], rest)
      | rest => (items? bound rest).map fun (items, rest) => (.array items, rest)
    | '\x7b' :: rest =>
      match skipSpace rest with
      | '\x7d' :: rest => some (.object [], rest)
      | rest => (fields? bound [] rest).map fun (fields, rest) => (.object (Record.inOrder fields), rest)
    | '"' :: rest => (string? bound ('"' :: rest)).map fun (s, rest) => (.string s, rest)
    | 't' :: rest => word? "true" (.bool true) ('t' :: rest)
    | 'f' :: rest => word? "false" (.bool false) ('f' :: rest)
    | 'n' :: rest => word? "null" .null ('n' :: rest)
    | rest => (number? rest).map fun (n, rest) => (.number n, rest)

/-- The items of an array up to its closing bracket. -/
def items? : Nat → List Char → Option (List Json × List Char)
  | 0, _ => none
  | bound + 1, text =>
    match value? bound text with
    | none => none
    | some (item, rest) =>
      match skipSpace rest with
      | ']' :: rest => some ([item], rest)
      | ',' :: rest => (items? bound rest).map fun (items, rest) => (item :: items, rest)
      | _ => none

/-- The fields of an object up to its closing brace, after those read before. -/
def fields? : Nat → List (String × Json) → List Char → Option (List (String × Json) × List Char)
  | 0, _, _ => none
  | bound + 1, before, text =>
    match string? bound (skipSpace text) with
    | none => none
    | some (key, rest) =>
      match skipSpace rest with
      | ':' :: rest =>
        match value? bound rest with
        | none => none
        | some (value, rest) =>
          let fields := setField key value before
          match skipSpace rest with
          | '\x7d' :: rest => some (fields, rest)
          | ',' :: rest => fields? bound fields rest
          | _ => none
      | _ => none

end

/-- Reads a text that is one JSON value and nothing else. -/
def parse? (text : String) : Option Json :=
  match value? (2 * text.length + 1) text.toList with
  | some (json, rest) => if (skipSpace rest).isEmpty then some json else none
  | none => none

end RelStore.Json
