/-
Numbers in hexadecimal digits.
-/
namespace RelStore.Hexadecimal

/-- The value of a digit in either case. -/
def value? (c : Char) : Option Nat :=
  if '0' ≤ c ∧ c ≤ '9' then some (c.toNat - 48)
  else if 'a' ≤ c ∧ c ≤ 'f' then some (c.toNat - 87)
  else if 'A' ≤ c ∧ c ≤ 'F' then some (c.toNat - 55)
  else none

/-- The number that digits stand for, none if there are no digits or other characters. -/
def number? (digits : List Char) : Option Nat :=
  if digits.isEmpty then none
  else digits.foldlM (fun sum c => (value? c).map (sum * 16 + ·)) 0

/-- The digit of a value below 16, in lower case. -/
def lowerDigit (value : Nat) : Char := Char.ofNat (if value < 10 then 48 + value else 87 + value)

/-- The digit of a value below 16, in upper case. -/
def upperDigit (value : Nat) : Char := Char.ofNat (if value < 10 then 48 + value else 55 + value)

end RelStore.Hexadecimal
