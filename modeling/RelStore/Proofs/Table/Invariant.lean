/-
What the writes to a table rely on and keep.

The rows have ascending ids, each row is one that the schema admits, no two rows share a key, and
each index represents which row holds which value (`Invariant`). Checks that ask an index are then
questions about the rows: `isTaken_eq_false_iff` and `checkKeys_eq_ok`.
-/
import RelStore.Proofs.Index
import RelStore.Proofs.Row
import RelStore.Proofs.Success
import RelStore.Proofs.Table.Shape
import RelStore.Proofs.Value

namespace RelStore.Table

/-- A row has the columns of the table with values of their types, and a primary key. -/
structure Admits (table : Table) (row : Row) : Prop where
  names : row.names = table.columns.map (·.name)
  typed : ∀ column ∈ table.columns, (row.get column.name).conforms column.type = true
  identified : row.get table.primaryKey.name ≠ none

/-- The row of an id holds a value of some key in a column. -/
def Holds (table : Table) (column : String) (id : Nat) (key : Key) : Prop :=
  ∃ stored ∈ table.rows, stored.id = id ∧ (stored.row.get column).key = key

/-- Each index represents its column. -/
def Represented (table : Table) : Prop :=
  ∀ index ∈ table.indexes, index.Represents (table.Holds index.column)

structure Invariant (table : Table) : Prop where
  shaped : table.Shaped
  ascending : (table.rows.map (·.id)).Pairwise (· < ·)
  fresh : ∀ stored ∈ table.rows, stored.id < table.nextId
  admitted : ∀ stored ∈ table.rows, table.Admits stored.row
  apart : ∀ column ∈ table.columns, column.isKey = true →
    ∀ a ∈ table.rows, ∀ b ∈ table.rows, a.row.get column.name ≠ none →
      (a.row.get column.name).key = (b.row.get column.name).key → a.id = b.id
  represented : table.Represented

variable {table : Table} {column : Column} {a b : StoredRow} {id : Nat}

/-- A new table has no rows to be out of order. -/
theorem invariant_create {schema : Schema} (h : create schema = .ok table) : table.Invariant := by
  have hshaped := shaped_create h
  obtain ⟨key, hk, rfl⟩ := create_eq_ok.1 h
  constructor
  case shaped => exact hshaped
  case ascending => exact .nil
  case fresh => exact nofun
  case admitted => exact nofun
  case apart => exact fun _ _ _ _ ha => nomatch ha
  case represented =>
    intro index hi
    obtain ⟨column, -, rfl⟩ := List.mem_map.1 hi
    refine (Index.Represents.empty column.name).congr fun id v => ?_
    simp [Holds]

/-! ## Frames -/

/-- What changing and deleting rows leaves alone. -/
structure SameFrame (table other : Table) : Prop where
  schema : other.schema = table.schema
  primaryKey : other.primaryKey = table.primaryKey
  nextId : other.nextId = table.nextId
  indexes : other.indexes.map (·.column) = table.indexes.map (·.column)

theorem SameFrame.columns {other : Table} (h : table.SameFrame other) :
    other.columns = table.columns :=
  congrArg Schema.columns h.schema

theorem SameFrame.shaped {other : Table} (h : table.SameFrame other) (hs : table.Shaped) :
    other.Shaped :=
  hs.congr h.schema h.primaryKey h.indexes

theorem SameFrame.admits {other : Table} (h : table.SameFrame other) {row : Row}
    (ha : table.Admits row) : other.Admits row where
  names := h.columns ▸ ha.names
  typed := h.columns ▸ ha.typed
  identified := h.primaryKey ▸ ha.identified

/-! ## Rows by their ids -/

theorem eq_of_id_eq (h : (table.rows.map (·.id)).Pairwise (· < ·)) (ha : a ∈ table.rows)
    (hb : b ∈ table.rows) (hid : a.id = b.id) : a = b :=
  List.inj_on_of_nodup_map (h.imp Nat.ne_of_lt) ha hb hid

theorem row?_eq_some_iff (h : (table.rows.map (·.id)).Pairwise (· < ·)) :
    table.row? id = some a ↔ a ∈ table.rows ∧ a.id = id := by
  constructor
  · intro hr
    exact ⟨List.mem_of_find?_eq_some hr, by simpa using List.find?_some hr⟩
  · rintro ⟨ha, rfl⟩
    obtain ⟨b, hb⟩ : ∃ b, table.row? a.id = some b :=
      Option.isSome_iff_exists.1 (List.find?_isSome.2 ⟨a, ha, by simp⟩)
    have hid : b.id = a.id := by simpa using List.find?_some hb
    rw [hb, eq_of_id_eq h (List.mem_of_find?_eq_some hb) ha hid]

theorem row?_eq_none_iff : table.row? id = none ↔ ∀ stored ∈ table.rows, stored.id ≠ id := by
  simp [row?]

theorem mem_rowsOf (h : (table.rows.map (·.id)).Pairwise (· < ·)) {ids : List Nat} :
    a ∈ table.rowsOf ids ↔ a ∈ table.rows ∧ a.id ∈ ids := by
  simp only [rowsOf, List.mem_filterMap, List.mem_mergeSort, row?_eq_some_iff h]
  constructor
  · rintro ⟨i, hi, ha, rfl⟩
    exact ⟨ha, hi⟩
  · intro ⟨ha, hi⟩
    exact ⟨a.id, hi, ha, rfl⟩

/-! ## Checking keys -/

/-- The index of a key column has the rows that hold a value. -/
theorem Invariant.index?_of_isKey (h : table.Invariant) (hc : column ∈ table.columns)
    (hk : column.isKey = true) : ∃ index, table.index? column.name = some index ∧
      index.Represents (table.Holds column.name) := by
  have hx : column.isIndexed = true := by simp [Column.isIndexed, hk]
  obtain ⟨index, hm, he, hi⟩ := h.shaped.exists_index hc hx (Text.sameName_refl _)
  exact ⟨index, hi, he ▸ h.represented index hm⟩

theorem Invariant.isTaken_eq_false_iff (h : table.Invariant) (hc : column ∈ table.columns)
    (hk : column.isKey = true) {excluded : List Nat} {v : Value} :
    table.isTaken excluded column v = false ↔
      ∀ stored ∈ table.rows, (stored.row.get column.name).key = v.key → stored.id ∈ excluded := by
  obtain ⟨index, hi, hr⟩ := h.index?_of_isKey hc hk
  simp only [isTaken, hi, List.any_eq_false, hr.mem_lookup, Bool.not_eq_true, Bool.not_eq_false',
    List.contains_iff_mem]
  constructor
  · intro hall stored hs hv
    exact hall stored.id ⟨stored, hs, rfl, hv⟩
  · rintro hall _ ⟨stored, hs, rfl, hv⟩
    exact hall stored hs hv

/-- A row passes the check of its keys if it has a primary key, and only excluded rows share a key
with it. -/
theorem Invariant.checkKeys_eq_ok (h : table.Invariant) {excluded : List Nat} {row : Row} :
    table.checkKeys excluded row = .ok () ↔ row.get table.primaryKey.name ≠ none ∧
      ∀ column ∈ table.columns, column.isKey = true → row.get column.name ≠ none →
        ∀ stored ∈ table.rows, (stored.row.get column.name).key = (row.get column.name).key →
          stored.id ∈ excluded := by
  have hfind : (table.columns.find? fun column =>
      column.isKey && (row.get column.name).isSome &&
        table.isTaken excluded column (row.get column.name)) = none ↔
      ∀ column ∈ table.columns, column.isKey = true → row.get column.name ≠ none →
        ∀ stored ∈ table.rows, (stored.row.get column.name).key = (row.get column.name).key →
          stored.id ∈ excluded := by
    simp only [List.find?_eq_none, Bool.and_eq_true, not_and, Bool.not_eq_true,
      Option.isSome_iff_ne_none, and_imp]
    refine forall_congr' fun column => forall_congr' fun hc => forall_congr' fun hk => ?_
    rw [h.isTaken_eq_false_iff hc hk]
  rw [← hfind]
  simp only [checkKeys]
  cases hpk : row.get table.primaryKey.name with
  | none => simp
  | some v =>
    simp only [Option.isNone_some, Bool.false_eq_true, if_false, ne_eq, reduceCtorEq,
      not_false_eq_true, true_and]
    split
    next hs => simp [hs]
    next hn => simp [hn]

end RelStore.Table
