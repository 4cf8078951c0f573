/-
Rows: values under names, in the order in which the names were first set.
-/
import RelStore.Value

namespace RelStore

structure Row where
  fields : List (String × Value)
  deriving DecidableEq, Repr

namespace Row

def empty : Row := ⟨[]⟩

def get? (row : Row) (name : String) : Option Value := row.fields.lookup name

/-- The value under a name, NULL if there is none. -/
def get (row : Row) (name : String) : Value := (row.get? name).getD none

def setField (name : String) (value : Value) : List (String × Value) → List (String × Value)
  | [] => [(name, value)]
  | (key, old) :: rest =>
    if key == name then (name, value) :: rest else (key, old) :: setField name value rest

/-- The row with one value changed in place, or added at the end under a new name. -/
def set (row : Row) (name : String) (value : Value) : Row := ⟨setField name value row.fields⟩

def names (row : Row) : List String := row.fields.map (·.1)

/-- The row that sets the given values one after the other. -/
def ofList (fields : List (String × Value)) : Row :=
  fields.foldl (fun row field => row.set field.1 field.2) empty

theorem lookup_setField_self (name : String) (value : Value) (fields : List (String × Value)) :
    (setField name value fields).lookup name = some value := by
  induction fields with
  | nil => simp [setField]
  | cons field rest ih =>
    obtain ⟨key, old⟩ := field
    by_cases h : key = name
    · simp [setField, h]
    · have h' : (name == key) = false := by simpa using fun e => h e.symm
      simp [setField, h, List.lookup_cons, h', ih]

theorem lookup_setField_other {name other : String} (value : Value) (hne : other ≠ name)
    (fields : List (String × Value)) :
    (setField name value fields).lookup other = fields.lookup other := by
  induction fields with
  | nil =>
    have h' : (other == name) = false := by simpa using hne
    simp [setField, List.lookup_cons, h']
  | cons field rest ih =>
    obtain ⟨key, old⟩ := field
    by_cases h : key = name
    · have h' : (other == name) = false := by simpa using hne
      simp [setField, h, List.lookup_cons, h']
    · simp only [setField, beq_iff_eq, h, if_false, List.lookup_cons, ih]

@[simp] theorem get?_set_self (row : Row) (name : String) (value : Value) :
    (row.set name value).get? name = some value :=
  lookup_setField_self name value row.fields

theorem get?_set_other (row : Row) {name other : String} (value : Value) (hne : other ≠ name) :
    (row.set name value).get? other = row.get? other :=
  lookup_setField_other value hne row.fields

end Row

end RelStore
