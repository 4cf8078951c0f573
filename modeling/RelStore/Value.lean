/-
Values: NULL, or a scalar that is a number, a text or a truth value.

Scalars of one family are equal or in order; scalars of two families are neither (`compare?`).
`key` is what makes two values the same for indexes, and `keyText` spells the key out with the
family in front, which is what rows are told apart by in DISTINCT and GROUP BY.
-/
import RelStore.Decimal.Shortest
import RelStore.Json.Quoted
import RelStore.Schema
import RelStore.Text.Units

namespace RelStore

inductive Scalar where
  | number (n : Binary64)
  | text (s : String)
  | bool (b : Bool)
  deriving DecidableEq, Repr

/-- A scalar, or `none` for NULL. -/
abbrev Value := Option Scalar

namespace Scalar

def family : Scalar → Family
  | .number _ => .number
  | .text _ => .string
  | .bool _ => .boolean

/-- The column type that a scalar would have as a literal. -/
def dataType : Scalar → DataType
  | .number n => if n.isInteger then .int else .float
  | .text _ => .string
  | .bool _ => .bool

/-- Equality of scalars: of one family, and equal in it. -/
def same : Scalar → Scalar → Bool
  | .number a, .number b => a.eq b
  | .text a, .text b => a == b
  | .bool a, .bool b => a == b
  | _, _ => false

/-- The order of two scalars of one family. False comes before true, texts are in the order of
their units, and a number that is not above or equal to another is below it only if it is less:
`nan` comes out above everything. -/
def compare? : Scalar → Scalar → Option Ordering
  | .number a, .number b => some (if a.eq b then .eq else if a.lt b then .lt else .gt)
  | .text a, .text b => some (Text.order a b)
  | .bool a, .bool b => some (if a == b then .eq else if a then .gt else .lt)
  | _, _ => none

/-- The bare text: digits, the text itself, `true` or `false`. -/
def plain : Scalar → String
  | .number n => n.text
  | .text s => s
  | .bool b => if b then "true" else "false"

/-- The JSON text; numbers that are not finite have none of their own and are `null`. -/
def jsonText : Scalar → String
  | .number n => if n.isFinite then n.text else "null"
  | .text s => Json.quoted s
  | .bool b => if b then "true" else "false"

end Scalar

/-- What two values have in common exactly if an index holds them under one entry. -/
inductive Key where
  | null
  | nan
  | number (place : Int)
  | text (s : String)
  | bool (b : Bool)
  deriving DecidableEq, Repr

namespace Value

def key : Value → Key
  | none => .null
  | some (.number .nan) => .nan
  | some (.number (.signed negative rank)) => .number (Binary64.place negative rank)
  | some (.text s) => .text s
  | some (.bool b) => .bool b

/-- The key spelled out, with the family in front so that `1` and `'1'` differ. -/
def keyText : Value → String
  | none => "__NULL__"
  | some v => s!"{v.family.name}:{v.plain}"

/-- Whether a column of the type takes the value; every column takes NULL here. -/
def conforms : Value → DataType → Bool
  | none, _ => true
  | some (.number n), .int => n.isSafeInteger
  | some (.number n), .float => n.isFinite
  | some (.text _), .string => true
  | some (.bool _), .bool => true
  | _, _ => false

def typeName : Value → String
  | none => "NULL"
  | some v => v.dataType.name

/-- The text shown in results: as a literal reads, without quotes. -/
def display : Value → String
  | none => "NULL"
  | some (.bool b) => if b then "TRUE" else "FALSE"
  | some v => v.plain

/-- The text shown in messages: texts stand in quotes. -/
def shown : Value → String
  | some (.text s) => s!"'{s}'"
  | v => display v

def ofNat (n : Nat) : Value := some (.number (.ofNat n))

def ofText (s : String) : Value := some (.text s)

def ofBool (b : Bool) : Value := some (.bool b)

@[simp] theorem conforms_none (t : DataType) : conforms none t = true := rfl

@[simp] theorem key_none : key none = .null := rfl

theorem key_eq_null_iff (v : Value) : v.key = .null ↔ v = none := by
  rcases v with _ | ⟨_ | _⟩ | _ | _ <;> simp [key]

end Value

end RelStore
