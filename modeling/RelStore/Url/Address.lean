/-
Internet addresses as hosts.

An address of eight pieces is written with colons between hexadecimal numbers; two colons stand
for a run of zero pieces, and the last two pieces may be four decimal numbers with dots. Its
canonical text leaves out the first longest run of two or more zeros.
-/
import RelStore.Decimal
import RelStore.Hexadecimal

namespace RelStore.Url

/-- The parts of a text between separators. -/
def splitChars (separator : Char) : List Char → List (List Char)
  | [] => [[]]
  | c :: rest =>
    if c == separator then [] :: splitChars separator rest
    else
      match splitChars separator rest with
      | part :: parts => (c :: part) :: parts
      | [] => [[c]]

/-- The parts of a text before and after its first two colons. -/
def splitColons : List Char → List Char × Option (List Char)
  | ':' :: ':' :: rest => ([], some rest)
  | c :: rest =>
    let (before, after) := splitColons rest
    (c :: before, after)
  | [] => ([], none)

/-- A number of one to four hexadecimal digits. -/
def piece? (text : List Char) : Option Nat :=
  if 4 < text.length then none else Hexadecimal.number? text

/-- A decimal number up to 255 without leading zeros. -/
def octet? (text : List Char) : Option Nat :=
  if text.isEmpty || 3 < text.length || !text.all Char.isDigit then none
  else if 1 < text.length && text.head? == some '0' then none
  else if 255 < digitsValue text then none
  else some (digitsValue text)

/-- Four decimal numbers as two pieces. -/
def dotted? (text : List Char) : Option (List Nat) :=
  match (splitChars '.' text).mapM octet? with
  | some [a, b, c, d] => some [a * 256 + b, c * 256 + d]
  | _ => none

/-- The pieces of parts, of which the last may have dots if it ends the address. -/
def pieces? (ends : Bool) : List (List Char) → Option (List Nat)
  | [] => some []
  | [part] => if ends && part.contains '.' then dotted? part else (piece? part).map ([·])
  | part :: rest => do some ((← piece? part) :: (← pieces? ends rest))

/-- The pieces of a text, none of an empty one. -/
def piecesOf? (ends : Bool) (text : List Char) : Option (List Nat) :=
  if text.isEmpty then some [] else pieces? ends (splitChars ':' text)

/-- The eight pieces of an address. Two colons stand for one zero at least. -/
def address? (text : List Char) : Option (List Nat) := do
  match splitColons text with
  | (whole, none) =>
    let pieces ← piecesOf? true whole
    if pieces.length = 8 then some pieces else none
  | (before, some after) =>
    let first ← piecesOf? false before
    let last ← piecesOf? true after
    if first.length + last.length ≤ 7 then
      some (first ++ List.replicate (8 - first.length - last.length) 0 ++ last)
    else none

/-- The length of the run of zeros at the front. -/
def zeroRun (pieces : List Nat) : Nat := (pieces.takeWhile (· == 0)).length

/-- The first longest run of zeros in pieces: its place and length. -/
def longestZeroRun (pieces : List Nat) : Nat × Nat :=
  (List.range pieces.length).foldl
    (fun best place =>
      let run := zeroRun (pieces.drop place)
      if best.2 < run then (place, run) else best) (0, 0)

def hexText (n : Nat) : String := String.ofList (Nat.toDigits 16 n)

def joinPieces (pieces : List Nat) : String := String.intercalate ":" (pieces.map hexText)

/-- The canonical text of an address. -/
def addressText (pieces : List Nat) : String :=
  let (place, run) := longestZeroRun pieces
  if run < 2 then joinPieces pieces
  else joinPieces (pieces.take place) ++ "::" ++ joinPieces (pieces.drop (place + run))

/-! ## Addresses of one number -/

/-- A number in decimal, octal after a zero, or hexadecimal after `0x`. -/
def looseNumber? (text : List Char) : Option Nat :=
  let (base, digits) := match text with
    | '0' :: 'x' :: rest => (16, rest)
    | '0' :: 'X' :: rest => (16, rest)
    | '0' :: c :: rest => (8, c :: rest)
    | _ => (10, text)
  if text.isEmpty then none
  else
    digits.foldlM (fun sum c => do
      let value ← Hexadecimal.value? c
      if value < base then some (sum * base + value) else none) 0

/-- The labels of a name, without the empty one after a dot at the end. -/
def labels (text : List Char) : List (List Char) :=
  let parts := splitChars '.' text
  if 1 < parts.length && parts.getLast? == some [] then parts.dropLast else parts

/-- Whether the last label of a name is a number, so that the name must be an address. -/
def endsInNumber (text : List Char) : Bool :=
  match (labels text).getLast? with
  | none => false
  | some last => (!last.isEmpty && last.all Char.isDigit) || (looseNumber? last).isSome

/-- Whether a name is an address of up to four numbers, of which the last fills what the others
leave. -/
def isLooseAddress (text : List Char) : Bool :=
  match (labels text).mapM looseNumber? with
  | none => false
  | some numbers =>
    numbers.length ≤ 4 && numbers.dropLast.all (· ≤ 255) &&
      (numbers.getLastD 0) < Nat.pow 256 (5 - numbers.length)

end RelStore.Url
