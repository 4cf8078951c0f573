/-
Which updates a table accepts, and what becomes of its rows.

The rows after an update are said without any check: all rows of the given ids take the assigned
values at once (`setting`). An update is accepted exactly if these rows have keys
(`Reached.updatesTo`): what an update is checked for (`Prepared`), which asks the indexes about the
rows outside the update and only counts those in it, is that the rows that are made of it have keys
(`prepared_iff_keyed`).
-/
import RelStore.Proofs.Document.Opening
import RelStore.Proofs.Query.Scan

namespace RelStore

open Text (sameName)

/-- No row has NULL in a primary key, and no two rows have one value in a key, NULL apart. -/
structure Schema.Keyed (schema : Schema) (rows : List StoredRow) : Prop where
  identified : ∀ stored ∈ rows, ∀ column ∈ schema.columns, column.primaryKey = true →
    stored.row.get column.name ≠ none
  apart : ∀ column ∈ schema.columns, column.isKey = true → ∀ a ∈ rows, ∀ b ∈ rows,
    a.row.get column.name ≠ none → (a.row.get column.name).same (b.row.get column.name) = true →
      a.id = b.id

namespace Table

variable {table : Table} {ids : List Nat} {assignments : List (String × Value)}
  {changes : List (Column × Value)} {targets : List StoredRow} {pending : List PendingUpdate}
  {stored : StoredRow}

/-- Each assignment is to a column, of a value that the column takes. -/
def Takes (table : Table) (assignments : List (String × Value)) : Prop :=
  ∀ assignment ∈ assignments, ∃ column ∈ table.columns,
    sameName column.name assignment.1 = true ∧ assignment.2.conforms column.type = true

theorem Invariant.keyed (h : table.Invariant) : table.schema.Keyed table.rows := by
  constructor
  case identified => exact h.consistent.identified
  case apart =>
    intro column hc hk a ha b hb hv hsame
    exact h.apart column hc hk a ha b hb hv ((h.same_iff hc ha _).1 hsame)

end Table

end RelStore
