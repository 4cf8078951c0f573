/-
Indexes: the rows that hold each value of a column.

An entry holds a value and the ascending ids of the rows that have it; values are the same entry
exactly if they have the same `Value.key`, so that NULL has an entry and the zeros share one.
Entries stand in the order in which their values came to have rows, and none is empty.
-/
import RelStore.Value

namespace RelStore

structure IndexEntry where
  value : Value
  ids : List Nat
  deriving DecidableEq, Repr

structure Index where
  column : String
  entries : List IndexEntry
  deriving DecidableEq, Repr

namespace Index

def empty (column : String) : Index := ⟨column, []⟩

/-- Puts an id into ascending ids. -/
def insertId (id : Nat) : List Nat → List Nat
  | [] => [id]
  | other :: rest =>
    if id < other then id :: other :: rest
    else if id = other then other :: rest
    else other :: insertId id rest

def addEntry (value : Value) (id : Nat) : List IndexEntry → List IndexEntry
  | [] => [⟨value, [id]⟩]
  | entry :: rest =>
    if entry.value.key = value.key then { entry with ids := insertId id entry.ids } :: rest
    else entry :: addEntry value id rest

def removeEntry (value : Value) (id : Nat) : List IndexEntry → List IndexEntry
  | [] => []
  | entry :: rest =>
    if entry.value.key = value.key then
      let ids := entry.ids.filter (· != id)
      if ids.isEmpty then rest else { entry with ids } :: rest
    else entry :: removeEntry value id rest

/-- Records that a row holds a value. -/
def add (index : Index) (value : Value) (id : Nat) : Index :=
  { index with entries := addEntry value id index.entries }

/-- Records that a row no longer holds a value. -/
def remove (index : Index) (value : Value) (id : Nat) : Index :=
  { index with entries := removeEntry value id index.entries }

def entry? (index : Index) (value : Value) : Option IndexEntry :=
  index.entries.find? fun entry => entry.value.key = value.key

/-- The ids of the rows that hold a value, ascending. -/
def lookup (index : Index) (value : Value) : List Nat := ((index.entry? value).map (·.ids)).getD []

def has (index : Index) (value : Value) : Bool := (index.entry? value).isSome

/-- The values that rows hold. -/
def values (index : Index) : List Value := index.entries.map (·.value)

@[simp] theorem lookup_empty (column : String) (value : Value) :
    (empty column).lookup value = [] := rfl

theorem mem_insertId {id other : Nat} {ids : List Nat} :
    other ∈ insertId id ids ↔ other = id ∨ other ∈ ids := by
  induction ids with
  | nil => simp [insertId]
  | cons first rest ih =>
    by_cases hlt : id < first
    · simp [insertId, hlt]
    · by_cases heq : id = first
      · subst heq; simp [insertId]
      · simp only [insertId, hlt, heq, if_false, List.mem_cons, ih]
        constructor
        · rintro (h | h | h)
          · exact .inr (.inl h)
          · exact .inl h
          · exact .inr (.inr h)
        · rintro (h | h | h)
          · exact .inr (.inl h)
          · exact .inl h
          · exact .inr (.inr h)

end Index

end RelStore
