/-
Decimal numerals: a sign, a whole number of digits and a power of ten.

`toBinary64` reads a numeral as the nearest number. Numerals are gathered from the texts of SQL
number tokens (`ofLexeme`) and of JSON numbers (`ofParts`).
-/
import RelStore.Binary64.Rounding

namespace RelStore

/-- The value of a run of decimal digits. -/
def digitsValue (digits : List Char) : Nat :=
  digits.foldl (fun n c => 10 * n + (c.toNat - 48)) 0

/-- The decimal digits of a whole number. -/
def digitsOf (n : Nat) : List Char := Nat.toDigits 10 n

/-- The numeral `± digits × 10 ^ exponent`. -/
structure Decimal where
  negative : Bool
  digits : Nat
  exponent : Int
  deriving DecidableEq, Repr

namespace Decimal

/-- The numeral with the given digits before and after the point and power of ten. -/
def ofParts (negative : Bool) (whole fraction : List Char) (exponent : Int) : Decimal :=
  ⟨negative, digitsValue (whole ++ fraction), exponent - fraction.length⟩

/-- The numeral of a text `-?digits(.digits)?`. -/
def ofLexeme (text : List Char) : Decimal :=
  let negative := text.head? == some '-'
  let body := if negative then text.tail else text
  let whole := body.takeWhile (· != '.')
  ofParts negative whole ((body.drop whole.length).drop 1) 0

/-- The number nearest to a numeral. A numeral of `10 ^ 310` or more is past all finite numbers
and one below `10 ^ -330` is nearest to zero, so neither needs its powers written out. -/
def toBinary64 (x : Decimal) : Binary64 :=
  let size : Int := (digitsOf x.digits).length + x.exponent
  if x.digits = 0 then .ofRank x.negative 0
  else if 310 < size then .infinity x.negative
  else if size < -330 then .ofRank x.negative 0
  else if 0 ≤ x.exponent then .ofRatio x.negative (x.digits * Nat.pow 10 x.exponent.toNat) 1
  else .ofRatio x.negative x.digits (Nat.pow 10 (-x.exponent).toNat)

end Decimal

end RelStore
