/-
Letter case of texts, by the full Unicode mappings.

The case of a character is its case wherever it stands, with one exception: a capital sigma
becomes the final form in lower case when it ends a word, that is, when a cased letter comes
before it and none after it, characters that case ignores apart.
-/
import RelStore.Text.CaseTables

namespace RelStore.Text

def inRanges (ranges : List (Nat × Nat)) (code : Nat) : Bool :=
  ranges.any fun range => range.1 ≤ code && code ≤ range.2

/-- The property Cased. -/
def isCased (c : Char) : Bool :=
  if c.toNat < 128 then c.isAlpha else inRanges casedRanges c.toNat

/-- The property Case_Ignorable. -/
def isCaseIgnorable (c : Char) : Bool :=
  if c.toNat < 128 then c == '\'' || c == '.' || c == ':' || c == '^' || c == '\x60'
  else inRanges ignorableRanges c.toNat

/-- The other case of a character beyond ASCII by its tables. -/
def mapCase (ranges : List CaseRange) (expansions : List (Nat × List Nat)) (c : Char) : List Char :=
  match expansions.lookup c.toNat with
  | some codes => codes.map Char.ofNat
  | none =>
    match ranges.find? (·.contains c.toNat) with
    | some range => [Char.ofNat (c.toNat + range.shift).toNat]
    | none => [c]

/-- The lower case of a character that is not a final sigma. -/
def lowerChar (c : Char) : List Char :=
  if c.toNat < 128 then [c.toLower] else mapCase lowerRanges lowerExpansions c

def upperChar (c : Char) : List Char :=
  if c.toNat < 128 then [c.toUpper] else mapCase upperRanges upperExpansions c

/-- Whether the next character that case does not ignore is cased. -/
def meetsCased (text : List Char) : Bool :=
  match text.find? (!isCaseIgnorable ·) with
  | some c => isCased c
  | none => false

def capitalSigma : Char := 'Σ'

def finalSigma : Char := 'ς'

/-- Lower case, given whether the last character that case does not ignore was cased. -/
def lowerAfter : Bool → List Char → List Char
  | _, [] => []
  | cased, c :: rest =>
    let here := if c == capitalSigma && cased && !meetsCased rest then [finalSigma] else lowerChar c
    here ++ lowerAfter (if isCaseIgnorable c then cased else isCased c) rest

def lower (s : String) : String := String.ofList (lowerAfter false s.toList)

def upper (s : String) : String := String.ofList (s.toList.flatMap upperChar)

/-- Names are equal when their lower cases are. -/
def sameName (a b : String) : Bool := lower a == lower b

@[simp] theorem sameName_refl (a : String) : sameName a a = true := by simp [sameName]

theorem sameName_comm (a b : String) : sameName a b = sameName b a := by
  simp only [sameName]
  exact Bool.beq_comm

theorem sameName_trans {a b c : String} (hab : sameName a b = true) (hbc : sameName b c = true) :
    sameName a c = true := by
  simp only [sameName, beq_iff_eq] at *
  exact hab.trans hbc

end RelStore.Text
