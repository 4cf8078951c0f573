/-
Punycode: texts in the letters, digits and hyphens of ASCII.

The characters of ASCII come first, as they are, and a hyphen after them if there are any. Then the
other characters are inserted from the least code to the greatest. What is written for each is a
number: how many steps it is from the insertion before, where a step goes to the next place in the
text and, behind its end, to the first place for the next code. The digits of a number are least
first. From which digit on a number ends is adapted to the numbers before.
-/
namespace RelStore.Url.Punycode

/-- How many digits there are. -/
def base : Nat := 36

/-- The greatest number that is written. -/
def greatest : Nat := 0x7FFFFFFF

/-- The first code that is inserted. -/
def firstCode : Nat := 0x80

def firstBias : Nat := 72

/-- The digits below this end a number, at a place and with a bias. -/
def threshold (place bias : Nat) : Nat := max 1 (min 26 (place - bias))

/-- How much is taken off a number for the next bias, by dividing while it is large. -/
def flatten (delta k : Nat) : Nat :=
  if 455 < delta then flatten (delta / 35) (k + base) else k + base * delta / (delta + 38)
termination_by delta
decreasing_by exact Nat.div_lt_self (by omega) (by omega)

/-- The bias after a number, when the text has some characters. -/
def adapt (delta count : Nat) (isFirst : Bool) : Nat :=
  let delta := if isFirst then delta / 700 else delta / 2
  flatten (delta + delta / count) 0

/-! ## Reading -/

def digitValue? (c : Char) : Option Nat :=
  if 'a' ≤ c ∧ c ≤ 'z' then some (c.toNat - 97)
  else if '0' ≤ c ∧ c ≤ '9' then some (c.toNat - 22)
  else none

/-- Reads a number at the front, from a place on: what it adds to a sum, and the rest. -/
def number? (bias : Nat) : Nat → Nat → Nat → List Char → Option (Nat × List Char)
  | _, _, _, [] => none
  | place, weight, sum, c :: rest => do
    let digit ← digitValue? c
    let sum := sum + digit * weight
    let limit := threshold place bias
    let nextWeight := weight * (base - limit)
    if greatest < sum then none
    else if digit < limit then some (sum, rest)
    else if greatest < nextWeight then none
    else number? bias (place + base) nextWeight sum rest

/-- Inserts characters into a text, from a code and a place on. Each takes a digit at least, so
the number of digits bounds the insertions. -/
def insertAll : Nat → Nat → Nat → Nat → List Char → List Char → Option (List Char)
  | _, _, _, _, text, [] => some text
  | 0, _, _, _, _, _ :: _ => none
  | bound + 1, bias, code, start, text, digits => do
    let (sum, rest) ← number? bias base 1 start digits
    let count := text.length + 1
    let code := code + sum / count
    let place := sum % count
    if code.isValidChar then
      insertAll bound (adapt (sum - start) count (start == 0)) code (place + 1)
        (text.take place ++ Char.ofNat code :: text.drop place) rest
    else none

/-- The text that is written. -/
def decode? (written : List Char) : Option (List Char) :=
  let digits := (written.reverse.takeWhile (· != '-')).reverse
  let front := written.take (written.length - digits.length - 1)
  insertAll digits.length firstBias firstCode 0 front digits

/-! ## Writing -/

def digit (value : Nat) : Char := Char.ofNat (if value < 26 then 97 + value else 22 + value)

/-- The digits of a number, from a place on. -/
def digits (bias place number : Nat) : List Char :=
  let limit := threshold place bias
  if _h : number < limit then [digit number]
  else
    digit (limit + (number - limit) % (base - limit)) ::
      digits bias (place + base) ((number - limit) / (base - limit))
termination_by number
decreasing_by
  have hpos : 1 ≤ threshold place bias := by unfold threshold; omega
  calc (number - threshold place bias) / (base - threshold place bias)
      ≤ number - threshold place bias := Nat.div_le_self _ _
    _ < number := by omega

/-- Where writing stands. -/
structure Writing where
  /-- The digits written, in reverse. -/
  written : List Char
  /-- The number of steps since the last insertion. -/
  delta : Nat
  bias : Nat
  /-- The number of characters that are in the text already. -/
  count : Nat
  /-- Whether nothing has been inserted yet. -/
  isFirst : Bool

/-- Passes a character of the text, while the characters of one code are inserted. -/
def Writing.pass (code : Nat) (w : Writing) (c : Char) : Option Writing :=
  if c.toNat < code then
    if w.delta < greatest then some { w with delta := w.delta + 1 } else none
  else if c.toNat = code then
    some
      { written := (digits w.bias base w.delta).reverse ++ w.written
        delta := 0
        bias := adapt w.delta (w.count + 1) w.isFirst
        count := w.count + 1
        isFirst := false }
  else some w

/-- Inserts the characters of codes, which are given in order, from a code on. -/
def insertCodes (text : List Char) : Nat → List Nat → Writing → Option Writing
  | _, [], w => some w
  | next, code :: codes, w => do
    let delta := w.delta + (code - next) * (w.count + 1)
    if greatest < delta then none
    let w ← text.foldlM (Writing.pass code) { w with delta }
    insertCodes text (code + 1) codes { w with delta := w.delta + 1 }

/-- What is written for a text, unless a number is too great. -/
def encode? (text : List Char) : Option (List Char) := do
  let front := text.filter (·.toNat < firstCode)
  let others := (text.filter (firstCode ≤ ·.toNat)).map (·.toNat)
  let codes := (others.mergeSort (· ≤ ·)).eraseDups
  let start : Writing :=
    { written := [], delta := 0, bias := firstBias, count := front.length, isFirst := true }
  let w ← insertCodes text firstCode codes start
  some (front ++ (if front.isEmpty then [] else ['-']) ++ w.written.reverse)

end RelStore.Url.Punycode
