/-
The numbers of the store: binary64 numbers, worked out exactly.

A number is `nan` or a sign with a rank. The rank of a magnitude is its place among the
magnitudes in increasing order: zero has rank 0, the least positive number rank 1, and infinity
is the last. So the order of numbers is the order of ranks, and no number has two forms except
that zero has two signs.

`units` gives the magnitude of a finite rank as a whole multiple of the least positive number,
which is 2⁻¹⁰⁷⁴: every finite number is such a multiple, and so sums and quotients can be worked
out in whole numbers and rounded once (`RelStore.Binary64.Rounding`).
-/
namespace RelStore

/-- The number of ranks in one binade: the fraction of a number has 52 bits. -/
def binade : Nat := 4503599627370496

/-- The rank of infinity, above the ranks of all finite magnitudes. -/
def infinityRank : Nat := 9218868437227405312

/-- How many times the least positive number goes into one: 2¹⁰⁷⁴. -/
def unitsPerOne : Nat := Nat.pow 2 1074

/-- A binary64 number: not a number, or a sign and the rank of a magnitude. -/
inductive Binary64 where
  | nan
  | signed (negative : Bool) (rank : Fin (infinityRank + 1))
  deriving DecidableEq, Repr

namespace Binary64

/-- The number of a sign and a rank; a rank past infinity is infinity. -/
def ofRank (negative : Bool) (rank : Nat) : Binary64 :=
  .signed negative ⟨min rank infinityRank, by omega⟩

def zero : Binary64 := ofRank false 0

def infinity (negative : Bool) : Binary64 := ofRank negative infinityRank

instance : Inhabited Binary64 := ⟨zero⟩

/-- The magnitude of a finite rank, counted in least positive numbers. In the first two binades
neighbours lie one unit apart, and from binade to binade the distance doubles. -/
def units (rank : Nat) : Nat :=
  let exponent := rank / binade
  if exponent = 0 then rank else (binade + rank % binade) * Nat.pow 2 (exponent - 1)

/-- The place of a number in the order: the rank, below zero when negative. Both zeros have
place 0. -/
def place (negative : Bool) (rank : Nat) : Int :=
  if negative then -(rank : Int) else rank

/-- Equality of numbers: the zeros are equal and `nan` equals nothing. -/
def eq : Binary64 → Binary64 → Bool
  | .signed s a, .signed t b => place s a == place t b
  | _, _ => false

/-- Strict order of numbers; `nan` is neither below nor above anything. -/
def lt : Binary64 → Binary64 → Bool
  | .signed s a, .signed t b => place s a < place t b
  | _, _ => false

def isNaN : Binary64 → Bool
  | .nan => true
  | .signed .. => false

def isFinite : Binary64 → Bool
  | .nan => false
  | .signed _ rank => rank.val < infinityRank

/-- The exact value of a finite number, counted in least positive numbers. -/
def toUnits : Binary64 → Int
  | .nan => 0
  | .signed negative rank => if negative then -(units rank : Int) else units rank

/-- The whole number next to a finite number towards zero. -/
def truncate (x : Binary64) : Int := x.toUnits.tdiv unitsPerOne

/-- The value of a finite number that is whole. -/
def toInt? (x : Binary64) : Option Int :=
  if x.isFinite && x.toUnits % (unitsPerOne : Int) == 0 then some (x.toUnits / unitsPerOne) else none

def isInteger (x : Binary64) : Bool := x.toInt?.isSome

/-- The greatest whole number below which every whole number is a number: 2⁵³ - 1. -/
def maxSafe : Nat := 9007199254740991

/-- Whole and at most `maxSafe` away from zero. -/
def isSafeInteger (x : Binary64) : Bool := x.toInt?.any (·.natAbs ≤ maxSafe)

def isNegative : Binary64 → Bool
  | .nan => false
  | .signed negative _ => negative

def neg : Binary64 → Binary64
  | .nan => .nan
  | .signed negative rank => .signed (!negative) rank

@[simp] theorem isFinite_nan : isFinite .nan = false := rfl

@[simp] theorem place_false (r : Nat) : place false r = r := rfl

@[simp] theorem place_true (r : Nat) : place true r = -(r : Int) := rfl

theorem eq_comm (x y : Binary64) : x.eq y = y.eq x := by
  cases x <;> cases y <;> simp only [eq]
  exact Bool.beq_comm

theorem lt_irrefl (x : Binary64) : x.lt x = false := by
  cases x <;> simp [lt]

end Binary64

end RelStore
