/-
Texts as sequences of 16-bit units (UTF-16).

Lengths, columns of positions, widths of table cells, the wildcard for one character and the
order of texts all count units: a character beyond the basic plane is two of them, its halves.

An escape in a JSON text can name half a character, and such a half is a unit of a text like any
other: it has its place in the order of texts and matches the wildcard for one unit. Characters
from U+10F800 on stand for halves. So that no text is held in two ways, a high half before a low
one is held as the character of which they are the halves, unless that character stands for a
half itself.

Outside the program there are no halves. `enter` makes a text from outside one to be held, and
`leave` makes a text that is held one for outside, with a replacement character for each half
that stands alone.
-/
namespace RelStore.Text

/-- The code of the first of the 2048 characters that stand for halves. They are the last that
there are, and none of them is assigned. -/
def halvesStart : Nat := 0x10F800

/-- The unit of the first half. -/
def firstHalfUnit : Nat := 0xD800

/-- Whether a character stands for half a character. -/
def isHalf (c : Char) : Bool := halvesStart ≤ c.toNat

/-- The character that stands for the half of a unit. -/
def halfOfUnit (unit : Nat) : Char := Char.ofNat (halvesStart + (unit - firstHalfUnit))

/-- The unit of a character that stands for a half. -/
def unitOfHalf (c : Char) : Nat := firstHalfUnit + (c.toNat - halvesStart)

/-- The high and the low half of a character beyond the basic plane, as units. -/
def pairOf (c : Char) : Nat × Nat :=
  let offset := c.toNat - 0x10000
  (0xD800 + offset / 0x400, 0xDC00 + offset % 0x400)

/-- The units of a character: one, or a high and a low half. -/
def unitsOf (c : Char) : List UInt16 :=
  if isHalf c then [(unitOfHalf c).toUInt16]
  else if c.toNat < 0x10000 then [c.toNat.toUInt16]
  else [(pairOf c).1.toUInt16, (pairOf c).2.toUInt16]

def unitCount (c : Char) : Nat := if isHalf c || c.toNat < 0x10000 then 1 else 2

def units (s : String) : List UInt16 := s.toList.flatMap unitsOf

/-- The number of units of a text. -/
def length (s : String) : Nat := (units s).length

/-- The text of the first unit of a character. -/
def firstUnit (c : Char) : String :=
  if unitCount c = 1 then c.toString else (halfOfUnit (pairOf c).1).toString

def compareUnits : List UInt16 → List UInt16 → Ordering
  | [], [] => .eq
  | [], _ :: _ => .lt
  | _ :: _, [] => .gt
  | a :: as, b :: bs => if a < b then .lt else if b < a then .gt else compareUnits as bs

/-- The order of texts, by their units. Of texts that differ without differing in units, the order
is that of the characters. -/
def order (a b : String) : Ordering := (compareUnits (units a) (units b)).then (compare a b)

/-- Strict order of texts. -/
def lt (a b : String) : Bool := order a b == .lt

/-- Text filled up with spaces to a width in units. -/
def padEnd (width : Nat) (s : String) : String :=
  s ++ String.ofList (List.replicate (width - length s) ' ')

theorem toNat_lt (c : Char) : c.toNat < 0x110000 := by
  rcases c.valid with hlow | ⟨-, hhigh⟩
  · exact Nat.lt_trans hlow (by decide)
  · exact hhigh

/-- What holds of the 128 characters of ASCII. -/
theorem of_ascii {P : Char → Prop} (h : ∀ n < 128, P (Char.ofNat n)) {c : Char} (hc : c.toNat < 128) : P c := by
  have hofNat := h c.toNat hc
  rwa [Char.ofNat_toNat] at hofNat

@[simp] theorem length_unitsOf (c : Char) : (unitsOf c).length = unitCount c := by
  unfold unitsOf unitCount
  split
  · simp_all
  · split <;> simp_all

@[simp] theorem length_append (s t : String) : length (s ++ t) = length s + length t := by
  simp [length, units, List.flatMap_append]

/-! ## Halves -/

def isHighHalf (c : Char) : Bool := isHalf c && unitOfHalf c < 0xDC00

def isLowHalf (c : Char) : Bool := isHalf c && 0xDC00 ≤ unitOfHalf c

/-- The character of two halves. -/
def ofHalves (high low : Char) : Char :=
  Char.ofNat (0x10000 + (unitOfHalf high - 0xD800) * 0x400 + (unitOfHalf low - 0xDC00))

/-- What is shown for half a character. -/
def replacement : Char := '\ufffd'

/-- Characters with halves that belong together made one. -/
def joinHalves : List Char → List Char
  | [] => []
  | [c] => [c]
  | c :: d :: rest =>
    if isHighHalf c && isLowHalf d && !isHalf (ofHalves c d) then ofHalves c d :: joinHalves rest
    else c :: joinHalves (d :: rest)

/-- The characters that hold a character from outside. -/
def holdChar (c : Char) : List Char :=
  if isHalf c then [halfOfUnit (pairOf c).1, halfOfUnit (pairOf c).2] else [c]

/-- What is shown for a character that is not one half of two. -/
def showChar (c : Char) : Char := if isHalf c then replacement else c

/-- The characters that are shown for characters held. -/
def showChars : List Char → List Char
  | [] => []
  | [c] => [showChar c]
  | c :: d :: rest =>
    if isHighHalf c && isLowHalf d then ofHalves c d :: showChars rest
    else showChar c :: showChars (d :: rest)

/-- A text from outside, to be held. -/
def enter (s : String) : String := String.ofList (s.toList.flatMap holdChar)

/-- A text that is held, for outside. -/
def leave (s : String) : String := String.ofList (showChars s.toList)

/-- A text as it is after having been outside: halves that stand alone are replaced. -/
def wellFormed (s : String) : String := enter (leave s)

end RelStore.Text
