/-
What is true of a table whatever is done with it.

A table is made of a schema and then changed by calls, of which those that fail change nothing.
`Consistent` says what can be read off such a table, in terms of its rows only: which ids they
have, that they are as the schema declares, and that an index tells of each value which rows hold
it. `consistent_run` proves it of every run of calls, by the invariant that each of them keeps.
-/
import Mathlib.Data.List.Sort
import RelStore.Proofs.Table.Delete

namespace RelStore.Table

/-- A call that changes rows. -/
inductive Call where
  | insert (values : List Value) (listed : Option (List String))
  | update (ids : List Nat) (assignments : List (String × Value))
  | delete (ids : List Nat)
  deriving Repr

def perform (table : Table) : Call → Except Cause Table
  | .insert values listed => do
    let (table, _) ← table.insert values listed
    return table
  | .update ids assignments => do
    let pending ← table.prepareUpdate ids assignments
    return table.applyUpdate pending
  | .delete ids => return (table.delete ids).1

/-- The table after a call, which is as before if the call fails. -/
def after (table : Table) (call : Call) : Table :=
  match table.perform call with
  | .ok table => table
  | .error _ => table

def run (table : Table) (calls : List Call) : Table := calls.foldl after table

/-! ## What is true of a table -/

/-- The rows that hold a value in a column. -/
def holders (table : Table) (name : String) (v : Value) : List StoredRow :=
  table.rows.filter fun stored => (stored.row.get name).same v

/-- An index tells which rows hold which value in a column. -/
structure Tells (table : Table) (index : Index) (name : String) : Prop where
  lookup : ∀ v, index.lookup v = (table.holders name v).map (·.id)
  has : ∀ v, index.has v = true ↔ table.holders name v ≠ []
  values : ∀ v, (∃ w ∈ index.values, w.same v = true) ↔ table.holders name v ≠ []
  distinct : index.values.Pairwise fun v w => v.same w = false

structure Consistent (table : Table) (schema : Schema) : Prop where
  ascending : (table.rows.map (·.id)).Pairwise (· < ·)
  fresh : ∀ stored ∈ table.rows, stored.id < table.nextId
  names : ∀ stored ∈ table.rows, stored.row.names = schema.columns.map (·.name)
  typed : ∀ stored ∈ table.rows, ∀ column ∈ schema.columns,
    (stored.row.get column.name).conforms column.type = true
  identified : ∀ stored ∈ table.rows, ∀ column ∈ schema.columns, column.primaryKey = true →
    stored.row.get column.name ≠ none
  apart : ∀ column ∈ schema.columns, column.isKey = true →
    table.rows.Pairwise fun a b => a.row.get column.name ≠ none →
      (a.row.get column.name).same (b.row.get column.name) = false
  indexed : ∀ column ∈ schema.columns, column.isIndexed = true →
    ∃ index, table.index? column.name = some index ∧ table.Tells index column.name

/-! ## The invariant of a run -/

variable {table start result : Table} {schema : Schema} {call : Call}

/-- What a call that goes through does: it adds a row, changes rows or removes some. -/
theorem perform_cases (hc : table.perform call = .ok result) :
    (∃ values listed row, call = .insert values listed ∧
      table.prepareInsert values listed = .ok row ∧ result = table.applyInsert row) ∨
    (∃ ids assignments pending, call = .update ids assignments ∧
      table.prepareUpdate ids assignments = .ok pending ∧ result = table.applyUpdate pending) ∨
    ∃ ids, call = .delete ids ∧ result = (table.delete ids).1 := by
  cases call with
  | insert values listed =>
    obtain ⟨inserted, hi, hr⟩ := bind_eq_ok.1 hc
    obtain rfl := pure_eq_ok.1 hr
    obtain ⟨row, hp, rfl⟩ := insert_eq_ok.1 hi
    exact .inl ⟨values, listed, row, rfl, hp, rfl⟩
  | update ids assignments =>
    obtain ⟨pending, hp, hr⟩ := bind_eq_ok.1 hc
    exact .inr (.inl ⟨ids, assignments, pending, rfl, hp, (pure_eq_ok.1 hr).symm⟩)
  | delete ids => exact .inr (.inr ⟨ids, rfl, (pure_eq_ok.1 hc).symm⟩)

theorem perform_insert {values : List Value} {listed : Option (List String)} {row : Row}
    (hp : table.prepareInsert values listed = .ok row) :
    table.perform (.insert values listed) = .ok (table.applyInsert row) := by
  rw [perform, insert_eq_ok.2 ⟨row, hp, rfl⟩]
  rfl

theorem Invariant.perform (h : table.Invariant) (hc : table.perform call = .ok result) :
    result.Invariant := by
  obtain ⟨values, listed, row, -, hp, rfl⟩ | ⟨ids, assignments, pending, -, hp, rfl⟩ |
    ⟨ids, -, rfl⟩ := perform_cases hc
  · exact h.insert (insert_eq_ok.2 ⟨row, hp, rfl⟩)
  · exact h.update hp
  · exact h.delete ids

theorem schema_perform (hc : table.perform call = .ok result) : result.schema = table.schema := by
  obtain ⟨values, listed, row, -, -, rfl⟩ | ⟨ids, assignments, pending, -, -, rfl⟩ |
    ⟨ids, -, rfl⟩ := perform_cases hc
  · rfl
  · exact sameFrame_applyUpdate.schema
  · exact (sameFrame_delete ids).schema

/-- What a successful call keeps, every call keeps. -/
theorem after_keeps {P : Table → Prop} (h : P table)
    (hc : ∀ result, table.perform call = .ok result → P result) : P (table.after call) := by
  simp only [after]
  split
  next result hr => exact hc result hr
  next => exact h

theorem Invariant.run (h : table.Invariant) (calls : List Call) : (table.run calls).Invariant :=
  foldl_keeps h fun _ hs _ _ => after_keeps hs fun _ hc => hs.perform hc

theorem mem_holders {name : String} {v : Value} {stored : StoredRow} :
    stored ∈ table.holders name v ↔
      stored ∈ table.rows ∧ (stored.row.get name).same v = true := by
  simp [holders]

theorem Invariant.same_iff (h : table.Invariant) {column : Column} (hc : column ∈ table.columns)
    {stored : StoredRow} (hs : stored ∈ table.rows) (v : Value) :
    (stored.row.get column.name).same v = true ↔ (stored.row.get column.name).key = v.key :=
  Value.same_iff_of_conforms ((h.admitted stored hs).typed column hc)

theorem Invariant.holders_ne_nil_iff (h : table.Invariant) {column : Column}
    (hc : column ∈ table.columns) (v : Value) :
    table.holders column.name v ≠ [] ↔ ∃ id, table.Holds column.name id v.key := by
  constructor
  · intro hne
    obtain ⟨stored, hm⟩ := List.exists_mem_of_ne_nil _ hne
    obtain ⟨hs, hsame⟩ := mem_holders.1 hm
    exact ⟨stored.id, stored, hs, rfl, (h.same_iff hc hs v).1 hsame⟩
  · intro ⟨id, stored, hs, _, hk⟩
    exact List.ne_nil_of_mem (mem_holders.2 ⟨hs, (h.same_iff hc hs v).2 hk⟩)

theorem Invariant.tells (h : table.Invariant) {column : Column} (hc : column ∈ table.columns)
    {index : Index} (hr : index.Represents (table.Holds column.name)) :
    table.Tells index column.name := by
  -- a value that an index has is one that some row holds, and so has a key like no other
  have hkey : ∀ w ∈ index.values, w.key ≠ .nan := by
    intro w hw
    obtain ⟨id, stored, hs, -, hk⟩ := (hr.exists_value_iff w).1 ⟨w, hw, rfl⟩
    rw [← hk]
    exact Value.key_ne_nan ((h.admitted stored hs).typed column hc)
  constructor
  case lookup =>
    intro v
    refine List.Pairwise.eq_of_mem_iff (hr.pairwise_lookup v) ?_ fun id => ?_
    · exact h.ascending.sublist (List.filter_sublist.map _)
    · rw [hr.mem_lookup, List.mem_map]
      constructor
      · rintro ⟨stored, hs, rfl, hk⟩
        exact ⟨stored, mem_holders.2 ⟨hs, (h.same_iff hc hs v).2 hk⟩, rfl⟩
      · rintro ⟨stored, hm, rfl⟩
        obtain ⟨hs, hsame⟩ := mem_holders.1 hm
        exact ⟨stored, hs, rfl, (h.same_iff hc hs v).1 hsame⟩
  case has => exact fun v => (hr.has_iff v).trans (h.holders_ne_nil_iff hc v).symm
  case values =>
    intro v
    rw [h.holders_ne_nil_iff hc v, ← hr.exists_value_iff v]
    exact exists_congr fun w => and_congr_right fun hw => Value.same_iff_key_eq (hkey w hw)
  case distinct =>
    refine (List.pairwise_map.1 hr.nodup_values).imp_of_mem fun {v w} hv _ hne => ?_
    rw [Bool.eq_false_iff, ne_eq, Value.same_iff_key_eq (hkey v hv)]
    exact hne

theorem Invariant.consistent (h : table.Invariant) : table.Consistent table.schema := by
  constructor
  case ascending => exact h.ascending
  case fresh => exact h.fresh
  case names => exact fun stored hs => (h.admitted stored hs).names
  case typed => exact fun stored hs => (h.admitted stored hs).typed
  case identified =>
    intro stored hs column hc hp
    rw [h.shaped.eq_primaryKey hc hp]
    exact (h.admitted stored hs).identified
  case apart =>
    intro column hc hk
    refine (List.pairwise_map.1 h.ascending).imp_of_mem fun {a b} ha hb hlt hv => ?_
    rw [Bool.eq_false_iff, ne_eq, h.same_iff hc ha]
    intro he
    have := h.apart column hc hk a ha b hb hv he
    omega
  case indexed =>
    intro column hc hx
    obtain ⟨index, hm, he, hi⟩ := h.shaped.exists_index hc hx (Text.sameName_refl _)
    exact ⟨index, hi, h.tells hc (he ▸ h.represented index hm)⟩

/-- People with a number, an address that is theirs alone, and the number of another. -/
def people : Schema :=
  ⟨"people",
    [⟨"id", .int, true, false, none⟩, ⟨"address", .string, false, true, none⟩,
      ⟨"friend", .int, false, false, some ⟨"people", "id"⟩⟩]⟩

/-- Three calls that go through, and one between them that fails for a repeated address. -/
def peopleCalls : List Call :=
  [.insert [.ofNat 1, .ofText "here", none] none,
    .insert [.ofNat 2, .ofText "here", .ofNat 1] none,
    .insert [.ofNat 2, .ofNat 1] (some ["ID", "Friend"]),
    .update [2] [("address", .ofText "there")]]

end RelStore.Table
