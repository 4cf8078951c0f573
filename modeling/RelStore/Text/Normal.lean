/-
The composed form of texts (NFC).

A character with marks can be written in many ways: as one composed character, or as its parts,
with the marks in several orders. `composed` gives the form in which as much as possible is
composed: the parts of all characters, with marks of different combining classes in the order of
their classes, and then composed from the left.
-/
import RelStore.Text.CodeTable
import RelStore.Text.NormalTables

namespace RelStore.Text

/-- A character that is composed of two. -/
structure Composite where
  whole : Nat
  first : Nat
  second : Nat
  deriving DecidableEq, Repr

/-- A composite as it stands in the table, `whole=first+second`. -/
def Composite.ofText? (text : List Char) : Option Composite :=
  match cutAt '=' text with
  | (whole, some parts) =>
    match cutAt '+' parts with
    | (first, some second) => do
      some ⟨← Hexadecimal.number? whole, ← Hexadecimal.number? first, ← Hexadecimal.number? second⟩
    | _ => none
  | _ => none

def composites : List Composite :=
  compositeLines.flatMap fun line => (words line).filterMap Composite.ofText?

def combiningClasses : List (Nat × List CodeRange) :=
  combiningClassLines.map fun (combiningClass, line) => (combiningClass, rangesOfLine line)

/-- The first code that is composed or a mark. -/
def firstCombined : Nat := 0xC0

/-- The combining class of a character, zero for a character that is no mark. -/
def combiningClass (code : Nat) : Nat :=
  if code < firstCombined then 0
  else
    match combiningClasses.find? fun entry => entry.2.any (·.contains code) with
    | some entry => entry.1
    | none => 0

/-! ## Hangul -/

/-- The first of the leading consonants, and how many there are. -/
def leads : Nat × Nat := (0x1100, 19)

/-- The first of the vowels, and how many there are. -/
def vowels : Nat × Nat := (0x1161, 21)

/-- The code before the first of the trailing consonants, and how many there are with none. -/
def trails : Nat × Nat := (0x11A7, 28)

/-- The first of the syllables, and how many there are. -/
def syllables : Nat × Nat := (0xAC00, 11172)

/-- The place of a code in a block. -/
def placeInBlock? (block : Nat × Nat) (code : Nat) : Option Nat :=
  if block.1 ≤ code && code < block.1 + block.2 then some (code - block.1) else none

/-- The parts of a syllable. -/
def syllableParts? (code : Nat) : Option (List Nat) :=
  (placeInBlock? syllables code).map fun place =>
    let lead := leads.1 + place / (vowels.2 * trails.2)
    let vowel := vowels.1 + place / trails.2 % vowels.2
    let trail := place % trails.2
    if trail = 0 then [lead, vowel] else [lead, vowel, trails.1 + trail]

/-- The syllable of two characters: of a leading consonant and a vowel, or of a syllable without a
trailing consonant and such a consonant. -/
def syllable? (first second : Nat) : Option Nat :=
  match placeInBlock? leads first, placeInBlock? vowels second, placeInBlock? syllables first,
      placeInBlock? trails second with
  | some lead, some vowel, _, _ => some (syllables.1 + (lead * vowels.2 + vowel) * trails.2)
  | _, _, some syllable, some trail =>
    if syllable % trails.2 = 0 && 0 < trail then some (first + trail) else none
  | _, _, _, _ => none

/-! ## Composing -/

/-- How often the first part of a character can be composed again. -/
def deepestComposite : Nat := 4

/-- The parts of a character. -/
def parts : Nat → Nat → List Nat
  | 0, code => [code]
  | bound + 1, code =>
    if code < firstCombined then [code]
    else
      match syllableParts? code with
      | some codes => codes
      | none =>
        match composites.find? (·.whole == code) with
        | some composite => parts bound composite.first ++ parts bound composite.second
        | none => [code]

/-- Puts a mark among the characters before it, which are given in reverse: before marks of higher
classes. -/
def placeMark (rank mark : Nat) : List Nat → List Nat
  | [] => [mark]
  | code :: before =>
    if rank < combiningClass code then code :: placeMark rank mark before
    else mark :: code :: before

/-- Characters with marks in the order of their classes. -/
def inMarkOrder (codes : List Nat) : List Nat :=
  (codes.foldl
    (fun before code =>
      let rank := combiningClass code
      if rank = 0 then code :: before else placeMark rank code before) []).reverse

/-- The character composed of two. -/
def compose? (first second : Nat) : Option Nat :=
  match syllable? first second with
  | some code => some code
  | none =>
    (composites.find? fun composite => composite.first == first && composite.second == second).map
      (·.whole)

/-- Composes characters with the base before them. The marks between, in reverse, are those that
the base could not be composed with; a mark that is not of a higher class than the last of them
cannot be composed either. -/
def composeAfter (base : Nat) (marks : List Nat) : List Nat → List Nat
  | [] => base :: marks.reverse
  | code :: rest =>
    let rank := combiningClass code
    let isBlocked := marks.head?.any (rank ≤ combiningClass ·)
    match if isBlocked then none else compose? base code with
    | some whole => composeAfter whole marks rest
    | none =>
      if rank = 0 then base :: marks.reverse ++ composeAfter code [] rest
      else composeAfter base (code :: marks) rest

def composeAll : List Nat → List Nat
  | [] => []
  | base :: rest => composeAfter base [] rest

/-- The composed form of a text. -/
def composed (text : List Char) : List Char :=
  let codes := text.flatMap fun c => parts deepestComposite c.toNat
  (composeAll (inMarkOrder codes)).map Char.ofNat

end RelStore.Text
