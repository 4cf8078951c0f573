/-
Sorting rows by keys, and keeping the first of equal rows and a page of them.

The sort keeps the order of rows that are equal on all keys. A comparison of scalars of different
families fails.
-/
import RelStore.Condition
import RelStore.Record
import RelStore.Row
import RelStore.Sorting.Runs
import RelStore.Sql.Statement

namespace RelStore

open Sql (Direction)

/-- The order of two sort values. NULL comes after all scalars in both directions. -/
def compareSort (direction : Direction) : Value → Value → Except Cause Ordering
  | none, none => .ok .eq
  | none, some _ => .ok .gt
  | some _, none => .ok .lt
  | some a, some b =>
    match a.compare? b with
    | none => .error (.unorderable a.dataType b.dataType)
    | some order => .ok (if direction = .desc then order.swap else order)

/-- An item to be sorted: its sort values and its place among the items. -/
structure Sortable (α : Type) where
  item : α
  values : List Value
  position : Nat

/-- The order of two lists of sort values, by the first that differ. -/
def compareKeys : List Direction → List Value → List Value → Except Cause Ordering
  | direction :: directions, a :: as, b :: bs => do
    match ← compareSort direction a b with
    | .eq => compareKeys directions as bs
    | order => return order
  | _, _, _ => .ok .eq

namespace Sortable

variable {α : Type}

/-- The order of two items, by their sort values and then by place. -/
def compare (directions : List Direction) (a b : Sortable α) : Except Cause Ordering := do
  match ← compareKeys directions a.values b.values with
  | .eq => return Ord.compare a.position b.position
  | order => return order

/-- Whether an item comes before another. -/
def precedes (directions : List Direction) (a b : Sortable α) : Except Cause Bool :=
  (compare directions a b).map (· == .lt)

end Sortable

/-- Sorts items, each given with its sort values, by the directions of the values. -/
def sortItems {α : Type} (directions : List Direction) (items : List (α × List Value)) :
    Except Cause (List α) := do
  let sortable := items.mapIdx fun position (item, values) => Sortable.mk item values position
  return (← Sorting.sort (Sortable.precedes directions) sortable).map (·.item)

/-- The key text of what a row has under a name. What is missing counts as a value apart from all
others, or as the member of the name. -/
def fieldKeyText (row : Row) (name : String) : String :=
  match row.get? name with
  | some value => value.keyText
  | none => Family.boolean.name ++ ":" ++ (Record.memberText? name).getD "undefined"

/-- Key texts one after the other. -/
def joinKeyTexts (texts : List String) : String := String.intercalate "\x00" texts

/-- The text that rows are told apart by in some columns. -/
def rowKeyText (columns : List String) (row : Row) : String :=
  joinKeyTexts (columns.map (fieldKeyText row))

/-- Keeps the first of the items with each key that is not among those seen before. -/
def keepFirst {α : Type} (keyOf : α → String) : List String → List α → List α
  | _, [] => []
  | seen, item :: rest =>
    if seen.contains (keyOf item) then keepFirst keyOf seen rest
    else item :: keepFirst keyOf (keyOf item :: seen) rest

/-- Keeps the first of the items whose rows are equal in the given columns. -/
def distinctItems {α : Type} (rowOf : α → Row) (columns : List String) (items : List α) : List α :=
  keepFirst (fun item => rowKeyText columns (rowOf item)) [] items

/-- The place in a list of `length` items that a number stands for: cut to a whole number, from
the end if negative, and within the list. -/
def placeIn (length : Nat) : Binary64 → Nat
  | .nan => 0
  | .signed negative rank =>
    if rank.val = infinityRank then (if negative then 0 else length)
    else
      let place := Binary64.truncate (.signed negative rank)
      if place < 0 then (length + place).toNat else min place.toNat length

/-- Skips `offset` items and keeps at most `limit` of the others. -/
def paginate {α : Type} (offset limit : Option Binary64) (items : List α) : List α :=
  let start := offset.getD .zero
  let first := placeIn items.length start
  let last := match limit with
    | some count => placeIn items.length (start.add count)
    | none => items.length
  (items.take last).drop first

end RelStore
