/-
Records: named fields in an order of their own.

Fields whose names are whole numbers come first, in the order of the numbers, and all others after
them, in the order in which they were set. Besides its fields a record has members, which are
seen where a field of their name is missing.
-/
import RelStore.Decimal

namespace RelStore.Record

/-- The names of the members that every record has. -/
def memberNames : List String :=
  ["constructor", "hasOwnProperty", "isPrototypeOf", "propertyIsEnumerable", "toLocaleString",
   "toString", "valueOf", "__defineGetter__", "__defineSetter__", "__lookupGetter__",
   "__lookupSetter__", "__proto__"]

/-- The text of a member that is a function. -/
def functionText (name : String) : String := "function " ++ name ++ "() \x7b [native code] \x7d"

/-- The text shown for a member. -/
def memberText? (name : String) : Option String :=
  if !memberNames.contains name then none
  else if name == "__proto__" then some "[object Object]"
  else if name == "constructor" then some (functionText "Object")
  else some (functionText name)

/-- The numbers below this count as names of their own order. -/
def indexBound : Nat := 4294967295

/-- The number that a name is, written without leading zeros. -/
def indexOf? (name : String) : Option Nat :=
  let digits := name.toList
  if digits.isEmpty || !digits.all Char.isDigit || 10 < digits.length then none
  else
    let number := digitsValue digits
    if toString number == name && number < indexBound then some number else none

variable {α : Type}

/-- Inserts a numbered field before the first with a greater number. -/
def insertIndexed (number : Nat) (field : String × α) :
    List (Nat × String × α) → List (Nat × String × α)
  | [] => [(number, field)]
  | (other, next) :: rest =>
    if number < other then (number, field) :: (other, next) :: rest
    else (other, next) :: insertIndexed number field rest

/-- The fields whose names are numbers, in the order of the numbers. -/
def indexed : List (String × α) → List (Nat × String × α)
  | [] => []
  | field :: rest =>
    match indexOf? field.1 with
    | some number => insertIndexed number field (indexed rest)
    | none => indexed rest

/-- Fields, given in the order in which they were set, in the order of their record. -/
def inOrder (fields : List (String × α)) : List (String × α) :=
  (indexed fields).map (·.2) ++ fields.filter fun field => (indexOf? field.1).isNone

end RelStore.Record
