/-
Domain names in the characters of Unicode, as hosts.

A name is mapped, which makes its letters small and takes its ornaments off, and composed. Its
labels are then written in ASCII: those with other characters in Punycode, behind a mark of their
own. A label that is marked already has to be what would be written.
-/
import RelStore.Text.Joining
import RelStore.Text.Normal
import RelStore.Url.Address
import RelStore.Url.DomainTables
import RelStore.Url.Punycode

namespace RelStore.Url

open Text (CodeRange Direction directionOf)

/-! ## Mapping -/

/-- What characters are mapped to. -/
structure Mapping where
  range : CodeRange
  /-- Every how manieth character of the range is meant. -/
  step : Nat
  /-- What the first character is mapped to. -/
  target : List Nat
  deriving DecidableEq, Repr

/-- What a character of the range is mapped to: a single one moves with the character. -/
def Mapping.targetOf (mapping : Mapping) (code : Nat) : List Nat :=
  match mapping.target with
  | [first] => [first + (code - mapping.range.first)]
  | target => target

def Mapping.appliesTo (mapping : Mapping) (code : Nat) : Bool :=
  mapping.range.contains code && (code - mapping.range.first) % mapping.step == 0

/-- The codes of a text, joined by dots. -/
def codesOf (text : List Char) : List Nat := (splitChars '.' text).filterMap Hexadecimal.number?

/-- Reads the words of a line of the table. `code` is the next in a list of successive codes. -/
def mappingsFrom (code : Nat) : List (List Char) → List Mapping
  | [] => []
  | word :: rest =>
    match Text.cutAt ':' word, Text.cutAt '>' word with
    | (start, some _), _ => mappingsFrom ((Hexadecimal.number? start).getD code) rest
    | _, (source, some target) =>
      let (range, step) := Text.cutAt '/' source
      match CodeRange.ofText? range with
      | some range => ⟨range, if step.isSome then 2 else 1, codesOf target⟩ :: mappingsFrom code rest
      | none => mappingsFrom code rest
    | _, _ => ⟨⟨code, code⟩, 1, codesOf word⟩ :: mappingsFrom (code + 1) rest

def mappings : List Mapping := mappingLines.flatMap fun line => mappingsFrom 0 (Text.words line)

def refused : List CodeRange := Text.rangesOfLines refusedLines

def isAscii (c : Char) : Bool := c.toNat < 128

/-- What a character is mapped to, unless it is refused. -/
def mapChar? (c : Char) : Option (List Char) :=
  if isAscii c then some [c.toLower]
  else
    match mappings.find? (·.appliesTo c.toNat) with
    | some mapping => some ((mapping.targetOf c.toNat).map Char.ofNat)
    | none => if Text.isInRanges refused c then none else some [c]

/-- What a name is mapped to, unless it has a character that is refused. -/
def mapName? (name : List Char) : Option (List Char) := (name.mapM mapChar?).map List.flatten

/-! ## Labels -/

/-- The sign that keeps letters from joining. -/
def nonJoiner : Char := '\u200c'

/-- The sign that makes letters join. -/
def joiner : Char := '\u200d'

/-- Whether the first joining sign of a label stands where it may, if there is one: after a virama
or, if it keeps letters from joining, between letters that would. What comes before is given in
reverse. -/
def joinerFits? (before : List Char) : List Char → Option Bool
  | [] => none
  | c :: after =>
    if c == joiner || c == nonJoiner then
      some (before.head?.any Text.isVirama ||
        (c == nonJoiner && before.any Text.joinsAfter && after.any Text.joinsBefore))
    else joinerFits? (c :: before) after

/-- The directions that make a label one that is written from right to left. -/
def isRightToLeft : Direction → Bool
  | .right | .arabicLetter | .arabicNumber => true
  | _ => false

/-- The directions that may be beside letters of both directions. -/
def isBeside : Direction → Bool
  | .number | .separator | .commonSeparator | .terminator | .neutral | .boundary | .mark => true
  | _ => false

/-- Whether a label may end in a direction, if it is written from right to left. -/
def mayEnd (direction : Direction) : Bool := isRightToLeft direction || direction == .number

/-- Whether the directions of a label, without the marks at its end, go together. The end of a label
that begins from left to right is not looked at. -/
def directionsFit (directions : List Direction) : Bool :=
  if !directions.any isRightToLeft then true
  else if directions.head? == some .left then
    directions.dropLast.all fun direction => direction == .left || isBeside direction
  else
    directions.all (fun direction => isRightToLeft direction || isBeside direction) &&
      directions.getLast?.any mayEnd &&
      !(directions.contains .number && directions.contains .arabicNumber)

/-- Whether a label with other characters than those of ASCII may be in a name. -/
def isLabel (label : List Char) : Bool :=
  let directions := label.map directionOf
  let inner := (directions.reverse.dropWhile (· == .mark)).reverse
  !label.isEmpty && !label.head?.any Text.isMark && (joinerFits? [] label).getD (directionsFit inner)

/-- What a label in Punycode begins with. -/
def punycodeMark : List Char := "xn--".toList

/-- Whether what follows the mark is what is written for a label. -/
def isWritten (written : List Char) : Bool :=
  match Punycode.decode? written with
  | some label => mapName? label == some label && Text.composed label == label && isLabel label
  | none => false

/-- A label in ASCII. -/
def asciiLabel? (label : List Char) : Option (List Char) :=
  if punycodeMark.isPrefixOf label then
    if label.all isAscii && isWritten (label.drop punycodeMark.length) then some label else none
  else if label.all isAscii then some label
  else if isLabel label then (Punycode.encode? label).map (punycodeMark ++ ·)
  else none

/-- A name in ASCII. -/
def asciiName? (name : List Char) : Option (List Char) := do
  let labels ← (splitChars '.' (Text.composed (← mapName? name))).mapM asciiLabel?
  some (List.intercalate ['.'] labels)

end RelStore.Url
