/-
The text of a number: the fewest digits that read back.

For one, two, … seventeen significant digits, `gridDigits` looks at the two neighbours of the
value on that decimal grid and keeps those that read back as the number; of two it takes the
nearer, and of two equally near the even one. `shortestDigits` takes the first grid that has
one. `Binary64.text` lays the digits out: positionally when the point falls at most 21 places
to the right or 6 to the left of the first digit, and with a power of ten otherwise.
-/
import RelStore.Decimal

namespace RelStore.Binary64

/-- Whether `digits × 10 ^ exponent` reads back as the number of this rank. -/
def readsBack (rank : Nat) (digits : Nat) (exponent : Int) : Bool :=
  Decimal.toBinary64 ⟨false, digits, exponent⟩ == ofRank false rank

/-- The place of the decimal point of a positive magnitude relative to its first digit: the
value lies from `10 ^ (point - 1)` up to, but not including, `10 ^ point`. -/
def decimalPoint (rank : Nat) : Int :=
  ((digitsOf (units rank * Nat.pow 10 330 / unitsPerOne)).length : Int) - 330

/-- The neighbour of the value with `count` significant digits that reads back, if one does;
`point` is the value's decimal point. -/
def gridDigits (rank : Nat) (point : Int) (count : Nat) : Option (Nat × Int) :=
  let exponent := point - count
  let (n, d) :=
    if 0 ≤ exponent then (units rank, unitsPerOne * Nat.pow 10 exponent.toNat)
    else (units rank * Nat.pow 10 (-exponent).toNat, unitsPerOne)
  let below := n / d
  let above := below + 1
  let chosen :=
    match readsBack rank below exponent, readsBack rank above exponent with
    | true, true => some (roundDiv n d)
    | true, false => some below
    | false, true => some above
    | false, false => none
  chosen.map fun digits => if digits = Nat.pow 10 count then (1, point) else (digits, exponent)

/-- The digits and power of ten of the shortest decimal that reads back as a finite positive
magnitude. Seventeen digits always suffice. -/
def shortestDigits (rank : Nat) : Nat × Int :=
  let point := decimalPoint rank
  ((List.range 17).findSome? fun i => gridDigits rank point (i + 1)).getD (units rank, -1074)

/-- The layout of significant digits with the point `point` places after the first digit's
left edge. -/
def layout (digits : List Char) (point : Int) : List Char :=
  let count : Int := digits.length
  if count ≤ point ∧ point ≤ 21 then
    digits ++ List.replicate (point - count).toNat '0'
  else if 0 < point ∧ point ≤ 21 then
    digits.take point.toNat ++ '.' :: digits.drop point.toNat
  else if -6 < point ∧ point ≤ 0 then
    '0' :: '.' :: List.replicate (-point).toNat '0' ++ digits
  else
    let power := point - 1
    let mantissa :=
      match digits with
      | first :: second :: rest => first :: '.' :: second :: rest
      | _ => digits
    mantissa ++ 'e' :: (if power < 0 then '-' else '+') :: digitsOf power.natAbs

/-- The text of a positive magnitude. A whole number of at most `maxSafe` is its own shortest
decimal. -/
def magnitudeText (rank : Nat) : List Char :=
  let whole := units rank / unitsPerOne
  if units rank % unitsPerOne = 0 ∧ whole ≤ maxSafe then digitsOf whole
  else
    let (digits, exponent) := shortestDigits rank
    let shown := digitsOf digits
    layout shown (shown.length + exponent)

/-- The text of a number. Negative zero is written `0`. -/
def text : Binary64 → String
  | .nan => "NaN"
  | .signed negative rank =>
    let body := if rank.val = infinityRank then "Infinity" else String.ofList (magnitudeText rank)
    if negative && rank.val != 0 then "-" ++ body else body

end RelStore.Binary64
