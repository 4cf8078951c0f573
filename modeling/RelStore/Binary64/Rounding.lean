/-
Rounding to binary64 and the operations that round.

`nearestRank n d` is the rank of the number nearest to `n / d` units, a tie going to the even
rank. A sum, a quotient or a decimal text is worked out exactly as a fraction of whole numbers
and passes through this function once.
-/
import RelStore.Binary64

namespace RelStore

/-- The whole number nearest to `n / d`, of two equally near ones the even one. -/
def roundDiv (n d : Nat) : Nat :=
  let q := n / d
  let twice := 2 * (n % d)
  if twice < d then q
  else if d < twice then q + 1
  else if q % 2 = 0 then q else q + 1

namespace Binary64

/-- The rank of the number nearest to `n / d` units. With `shift` the number of binary digits of
`n / d` beyond 53, the numbers there lie `2 ^ shift` units apart; rounding up past the last
fraction of a binade gives the first rank of the next. -/
def nearestRank (n d : Nat) : Nat :=
  let shift := Nat.log2 (n / d) - 52
  shift * binade + roundDiv n (d * Nat.pow 2 shift)

/-- The number nearest to `n / d` units. -/
def ofUnits (negative : Bool) (n d : Nat) : Binary64 := ofRank negative (nearestRank n d)

/-- The number nearest to `n / d`. -/
def ofRatio (negative : Bool) (n d : Nat) : Binary64 := ofUnits negative (n * unitsPerOne) d

def ofNat (n : Nat) : Binary64 := ofRatio false n 1

/-- The number nearest to a whole number; zero has the positive sign. -/
def ofInt (n : Int) : Binary64 := ofRatio (n < 0) n.natAbs 1

instance (n : Nat) : OfNat Binary64 n := ⟨ofNat n⟩

/-- The number nearest to the exact sum. Zero as a sum of opposite numbers is positive, and
opposite infinities have no sum. -/
def add : Binary64 → Binary64 → Binary64
  | .signed s a, .signed t b =>
    if a.val = infinityRank then
      if b.val = infinityRank && s != t then .nan else .signed s a
    else if b.val = infinityRank then .signed t b
    else
      let sum := toUnits (.signed s a) + toUnits (.signed t b)
      let negative := if sum = 0 then s && t else decide (sum < 0)
      ofUnits negative sum.natAbs 1
  | _, _ => .nan

/-- The number nearest to the exact quotient by a positive whole number. -/
def divNat (x : Binary64) (n : Nat) : Binary64 :=
  match x with
  | .nan => .nan
  | .signed s a => if a.val = infinityRank then x else ofUnits s (units a) n

end Binary64

end RelStore
