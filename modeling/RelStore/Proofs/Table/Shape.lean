/-
The shape of a table: its columns have different names, one of them is the primary key, and the
keys and references have an index each. Columns and indexes are then found by name, and no write
changes the shape.
-/
import RelStore.Proofs.Name
import RelStore.Table

namespace RelStore

open Text (sameName)

theorem repeatedColumn?_eq_none {seen : List String} {columns : List Column} :
    repeatedColumn? seen columns = none ↔
      (∀ column ∈ columns, Text.lower column.name ∉ seen) ∧ DistinctNames Column.name columns := by
  induction columns generalizing seen with
  | nil => simp [repeatedColumn?, DistinctNames]
  | cons column rest ih =>
    simp only [repeatedColumn?, List.contains_iff_mem]
    by_cases hseen : Text.lower column.name ∈ seen
    · simp [hseen]
    · rw [if_neg hseen, ih, List.forall_mem_cons, DistinctNames.cons_iff]
      constructor
      · rintro ⟨hs, hd⟩
        refine ⟨⟨hseen, fun c hc => List.not_mem_of_not_mem_cons (hs c hc)⟩, fun c hc => ?_, hd⟩
        rw [Bool.eq_false_iff, ne_eq, sameName_iff]
        exact List.ne_of_not_mem_cons (hs c hc)
      · rintro ⟨⟨_, hs⟩, hne, hd⟩
        refine ⟨fun c hc => ?_, hd⟩
        have := hne c hc
        rw [Bool.eq_false_iff, ne_eq, sameName_iff] at this
        exact List.not_mem_cons_of_ne_of_not_mem this (hs c hc)

/-- A schema is accepted if it has columns, all of different names, and one primary key. -/
theorem Schema.check_eq_ok {schema : Schema} {column : Column} :
    schema.check = .ok column ↔ schema.columns ≠ [] ∧ DistinctNames Column.name schema.columns ∧
      schema.columns.filter (·.primaryKey) = [column] := by
  have hrep : repeatedColumn? [] schema.columns = none ↔
      DistinctNames Column.name schema.columns := by
    rw [repeatedColumn?_eq_none]
    exact and_iff_right fun _ _ => List.not_mem_nil
  simp only [check, List.isEmpty_iff]
  by_cases hnil : schema.columns = []
  · simp [hnil]
  rw [if_neg hnil]
  cases hr : repeatedColumn? [] schema.columns with
  | some other =>
    have : ¬ DistinctNames Column.name schema.columns := by
      rw [← hrep, hr]
      simp
    simp [this]
  | none =>
    simp only [hrep.1 hr, ne_eq, hnil, not_false_eq_true, true_and]
    split
    next only h => simp [h]
    next h => exact ⟨nofun, fun hf => absurd hf (h column)⟩

namespace Table

/-- What a table has for life. -/
structure Shaped (table : Table) : Prop where
  columns : DistinctNames Column.name table.columns
  primaryKey : table.columns.filter (·.primaryKey) = [table.primaryKey]
  indexes : table.indexes.map (·.column) =
    (table.columns.filter (·.isIndexed)).map (·.name)

variable {table : Table} {column : Column} {index : Index} {name : String}

theorem Shaped.nodup_names (h : table.Shaped) : (table.columns.map (·.name)).Nodup :=
  h.columns.nodup_names

theorem Shaped.eq_primaryKey (h : table.Shaped) (hc : column ∈ table.columns)
    (hp : column.primaryKey = true) : column = table.primaryKey := by
  have : column ∈ table.columns.filter (·.primaryKey) := List.mem_filter.2 ⟨hc, hp⟩
  rw [h.primaryKey] at this
  exact List.mem_singleton.1 this

theorem Shaped.column?_eq_some_iff (h : table.Shaped) :
    table.column? name = some column ↔
      column ∈ table.columns ∧ sameName column.name name = true :=
  h.columns.find?_eq_some_iff

theorem requireColumn_eq_ok : table.requireColumn name = .ok column ↔
    table.column? name = some column := by
  simp only [requireColumn]
  cases table.column? name <;> simp

theorem Shaped.mem_of_requireColumn (h : table.Shaped) (hr : table.requireColumn name = .ok column) :
    column ∈ table.columns :=
  (h.column?_eq_some_iff.1 (requireColumn_eq_ok.1 hr)).1

theorem Shaped.distinct_indexes (h : table.Shaped) : DistinctNames Index.column table.indexes := by
  have hc : DistinctNames Column.name (table.columns.filter (·.isIndexed)) :=
    h.columns.sublist List.filter_sublist
  have heq := congrArg (List.map Text.lower) h.indexes
  simp only [List.map_map, Function.comp_def] at heq
  simpa only [DistinctNames, heq] using hc

/-- The index that is found for a name is of an indexed column of this name. -/
theorem Shaped.index?_eq_some (h : table.Shaped) (hi : table.index? name = some index) :
    index ∈ table.indexes ∧ ∃ column ∈ table.columns, column.isIndexed = true ∧
      index.column = column.name ∧ sameName column.name name = true := by
  obtain ⟨hm, hn⟩ := h.distinct_indexes.find?_eq_some_iff.1 hi
  have hmem : index.column ∈ (table.columns.filter (·.isIndexed)).map (·.name) := by
    rw [← h.indexes]
    exact List.mem_map_of_mem hm
  obtain ⟨column, hc, he⟩ := List.mem_map.1 hmem
  obtain ⟨hc, hx⟩ := List.mem_filter.1 hc
  exact ⟨hm, column, hc, hx, he.symm, he ▸ hn⟩

theorem Shaped.exists_index (h : table.Shaped) (hc : column ∈ table.columns)
    (hx : column.isIndexed = true) (hn : sameName column.name name = true) :
    ∃ index ∈ table.indexes, index.column = column.name ∧ table.index? name = some index := by
  have hmem : column.name ∈ table.indexes.map (·.column) := by
    rw [h.indexes]
    exact List.mem_map_of_mem (List.mem_filter.2 ⟨hc, hx⟩)
  obtain ⟨index, hm, he⟩ := List.mem_map.1 hmem
  exact ⟨index, hm, he, h.distinct_indexes.find?_eq_some_iff.2 ⟨hm, he ▸ hn⟩⟩

/-- The tables that are made of a schema. -/
theorem create_eq_ok {schema : Schema} : create schema = .ok table ↔
    ∃ key, schema.check = .ok key ∧
      table = ⟨schema, key, [], 1, (schema.columns.filter (·.isIndexed)).map fun column =>
        .empty column.name⟩ := by
  simp only [create]
  cases schema.check with
  | error cause => simp [bind, Except.bind]
  | ok key => simp [bind, Except.bind, pure, Except.pure, eq_comm]

theorem shaped_create {schema : Schema} (h : create schema = .ok table) : table.Shaped := by
  obtain ⟨key, hk, rfl⟩ := create_eq_ok.1 h
  obtain ⟨-, hd, hp⟩ := Schema.check_eq_ok.1 hk
  exact ⟨hd, hp, by simp [columns, Index.empty, Function.comp_def]⟩

/-- The shape rests on the schema and on which columns have an index. -/
theorem Shaped.congr {other : Table} (h : table.Shaped) (hs : other.schema = table.schema)
    (hk : other.primaryKey = table.primaryKey)
    (hi : other.indexes.map (·.column) = table.indexes.map (·.column)) : other.Shaped := by
  have hc : other.columns = table.columns := congrArg Schema.columns hs
  exact ⟨hc ▸ h.columns, by rw [hc, hk, h.primaryKey], by rw [hi, hc, h.indexes]⟩

end Table

end RelStore
