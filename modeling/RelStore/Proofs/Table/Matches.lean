/-
Tables that differ in ids and in the signs of zeros at most.

The rows of matching tables are alike, one by one (`Matches`); rows at one place are twins, and the
ids of twins stand for each other. What a table answers rests on the rows and not on their ids, so
that matching tables are read, checked and written in lockstep: a write of twins leads from
matching tables to matching tables.
-/
import Mathlib.Data.List.Find
import Mathlib.Data.List.Zip
import RelStore.Proofs.Lockstep.Condition
import RelStore.Proofs.Lockstep.Sorting
import RelStore.Proofs.Query.Scan
import RelStore.Proofs.Document.Opening

namespace RelStore

open Sql
open List (Forall₂)
open Text (sameName)

theorem eq_of_mem_zip {α β : Type} {as : List α} {bs : List β} {a a' : α} {b : β}
    (h : bs.Nodup) (ha : (a, b) ∈ as.zip bs) (ha' : (a', b) ∈ as.zip bs) : a = a' := by
  induction as generalizing bs with
  | nil => cases ha
  | cons first as ih =>
    cases bs with
    | nil => cases ha
    | cons other bs =>
      rw [List.nodup_cons] at h
      rw [List.zip_cons_cons, List.mem_cons] at ha ha'
      rcases ha with ha | ha
      · obtain ⟨rfl, rfl⟩ := Prod.mk.inj ha
        rcases ha' with ha' | ha'
        · exact (Prod.mk.inj ha').1.symm
        · exact absurd (List.of_mem_zip ha').2 h.1
      · rcases ha' with ha' | ha'
        · obtain ⟨rfl, rfl⟩ := Prod.mk.inj ha'
          exact absurd (List.of_mem_zip ha).2 h.1
        · exact ih h.2 ha ha'

/-! ## Rows of a scope -/

namespace Scope

variable {row row' : Row}

theorem ends_read (scope : Scope) (h : row.Alike row') (ref : ColumnRef) :
    Ends Value.Alike (scope.read row ref) (scope.read row' ref) :=
  (Ends.of_eq rfl).map fun bound _ hbound => hbound ▸ h.get bound.key

theorem alike_leaves (scope : Scope) (h : row.Alike row') :
    (scope.leaves row).Alike (scope.leaves row') where
  column := scope.ends_read h
  aggregate _ := .error (.refl _)

theorem ends_satisfies (scope : Scope) (condition : Option Expr) (h : row.Alike row') :
    Ends (· = ·) (scope.satisfies condition row) (scope.satisfies condition row') :=
  inStep_isSatisfied (scope.alike_leaves h) condition

end Scope

namespace Table

variable {table other : Table} {s t s' t' : StoredRow} {row row' : Row} {v w : Value}
  {column : Column} {name : String} {ss ts : List StoredRow}

/-- Tables of one schema that have alike rows in one order. -/
structure Matches (table other : Table) : Prop where
  left : table.Invariant
  right : other.Invariant
  schema : table.schema = other.schema
  rows : Forall₂ (fun s t => s.row.Alike t.row) table.rows other.rows

/-- Alike rows at one place of two tables. -/
structure Twin (table other : Table) (s t : StoredRow) : Prop where
  pair : (s, t) ∈ table.rows.zip other.rows
  alike : s.row.Alike t.row

theorem Invariant.matches_self (h : table.Invariant) : table.Matches table :=
  ⟨h, h, rfl, List.forall₂_same.2 fun s _ => .refl s.row⟩

theorem Renumbers.matches (h : table.Invariant) (hrenumbers : table.Renumbers other) :
    table.Matches other :=
  ⟨h, hrenumbers.invariant, hrenumbers.schema.symm, hrenumbers.alike⟩

namespace Matches

theorem columns_eq (h : table.Matches other) : table.columns = other.columns :=
  congrArg Schema.columns h.schema

theorem name_eq (h : table.Matches other) : table.name = other.name := congrArg Schema.name h.schema

theorem primaryKey_eq (h : table.Matches other) : table.primaryKey = other.primaryKey :=
  (h.left.shaped.primaryKey_eq h.right.shaped h.schema.symm).symm

theorem scope_eq (h : table.Matches other) : table.scope = other.scope := congrArg Scope.single h.schema

theorem requireColumn_eq (h : table.Matches other) (name : String) :
    table.requireColumn name = other.requireColumn name := by
  rw [Table.requireColumn, Table.requireColumn, Table.column?, Table.column?, h.schema, h.name_eq]

/-! ## Twins -/

/-- The rows of matching tables are twins. -/
theorem twins (h : table.Matches other) : Forall₂ (Twin table other) table.rows other.rows := by
  refine List.forall₂_iff_zip.2 ⟨h.rows.length_eq, fun hpair => ⟨hpair, ?_⟩⟩
  exact List.forall₂_zip h.rows hpair

theorem exists_twin (h : table.Matches other) (hs : s ∈ table.rows) :
    ∃ t ∈ other.rows, Twin table other s t := exists_right_of_mem h.twins hs

theorem exists_twin' (h : table.Matches other) (ht : t ∈ other.rows) :
    ∃ s ∈ table.rows, Twin table other s t := exists_left_of_mem h.twins ht

/-- A row has one twin. -/
theorem biUnique_twin (h : table.Matches other) : Relator.BiUnique (Twin table other) := by
  have hnodup {table : Table} (h : table.Invariant) : table.rows.Nodup :=
    List.Nodup.of_map _ (h.ascending.imp Nat.ne_of_lt)
  constructor
  · intro s t s' hs hs'
    exact eq_of_mem_zip (hnodup h.right) hs.pair hs'.pair
  · intro s t t' ht ht'
    have hswap {t : StoredRow} (ht : Twin table other s t) :
        (t, s) ∈ other.rows.zip table.rows := by
      rw [← List.zip_swap]
      exact List.mem_map_of_mem ht.pair
    exact eq_of_mem_zip (hnodup h.left) (hswap ht) (hswap ht')

end Matches

theorem Twin.left_mem (h : Twin table other s t) : s ∈ table.rows := (List.of_mem_zip h.pair).1

theorem Twin.right_mem (h : Twin table other s t) : t ∈ other.rows := (List.of_mem_zip h.pair).2

theorem Twin.get (h : Twin table other s t) (name : String) :
    (s.row.get name).Alike (t.row.get name) := h.alike.get name

namespace Matches

/-- The ids of twins stand for each other. -/
theorem id_eq_iff (h : table.Matches other) (hst : Twin table other s t)
    (hst' : Twin table other s' t') : s.id = s'.id ↔ t.id = t'.id := by
  constructor
  · intro hid
    obtain rfl := eq_of_id_eq h.left.ascending hst.left_mem hst'.left_mem hid
    rw [h.biUnique_twin.2 hst hst']
  · intro hid
    obtain rfl := eq_of_id_eq h.right.ascending hst.right_mem hst'.right_mem hid
    rw [h.biUnique_twin.1 hst hst']

theorem id_mem_iff (h : table.Matches other) (hst : Twin table other s t)
    (hboth : Forall₂ (Twin table other) ss ts) : s.id ∈ ss.map (·.id) ↔ t.id ∈ ts.map (·.id) := by
  rw [List.mem_map, List.mem_map]
  constructor
  · rintro ⟨s', hs', hid⟩
    obtain ⟨t', ht', htwin⟩ := exists_right_of_mem hboth hs'
    exact ⟨t', ht', (h.id_eq_iff htwin hst).1 hid⟩
  · rintro ⟨t', ht', hid⟩
    obtain ⟨s', hs', htwin⟩ := exists_left_of_mem hboth ht'
    exact ⟨s', hs', (h.id_eq_iff htwin hst).2 hid⟩

/-! ## Reading -/

/-- Matching tables have an index of one column for a name, or none. -/
theorem index? (h : table.Matches other) (name : String) :
    Option.Rel (fun index index' => index.column = index'.column) (table.index? name)
      (other.index? name) := by
  have hcolumns : Forall₂ (fun index index' : Index => index.column = index'.column)
      table.indexes other.indexes := by
    have heq : table.indexes.map (·.column) = other.indexes.map (·.column) := by
      rw [h.left.shaped.indexes, h.right.shaped.indexes, h.columns_eq]
    rw [← List.forall₂_eq_eq_eq, List.forall₂_map_left_iff, List.forall₂_map_right_iff] at heq
    exact heq
  exact rel_find? hcolumns fun index index' heq => by rw [heq]

theorem index?_cases (h : table.Matches other) (name : String) :
    table.index? name = none ∧ other.index? name = none ∨
      ∃ index index', table.index? name = some index ∧ other.index? name = some index' ∧
        index.column = index'.column := by
  have hrel := h.index? name
  revert hrel
  generalize table.index? name = found, other.index? name = found'
  rintro (heq | _)
  · exact .inr ⟨_, _, rfl, rfl, heq⟩
  · exact .inl ⟨rfl, rfl⟩

/-- An index finds twins for alike values. -/
theorem twins_rowsWith (h : table.Matches other) {index index' : Index}
    (hi : table.index? name = some index) (hi' : other.index? name = some index')
    (hv : v.Alike w) :
    Forall₂ (Twin table other) (table.rowsWith index v) (other.rowsWith index' w) := by
  obtain ⟨-, column, hc, -, -, hn⟩ := h.left.shaped.index?_eq_some hi
  rw [h.left.rowsWith_eq hi hc hn, h.right.rowsWith_eq hi' (h.columns_eq ▸ hc) hn]
  refine forall₂_filter h.twins fun s t hst => ?_
  rw [(hst.get column.name).same_eq hv, ← Option.not_isSome, ← Option.not_isSome, hv.isSome_eq]

/-- What is asked of the ids that an index has for a value is asked of the rows that hold it. -/
theorem any_lookup_eq (h : table.Matches other) {index index' : Index}
    (hi : table.index? name = some index) (hi' : other.index? name = some index')
    (hv : v.Alike w) {p q : Nat → Bool} (hpq : ∀ s t, Twin table other s t → p s.id = q t.id) :
    (index.lookup v).any p = (index'.lookup w).any q := by
  obtain ⟨hnone, -⟩ | ⟨found, found', hfound, hfound', hcolumn⟩ := h.index?_cases name
  · exact nomatch hnone.symm.trans hi
  obtain rfl := Option.some.inj (hi.symm.trans hfound)
  obtain rfl := Option.some.inj (hi'.symm.trans hfound')
  have hrep := h.left.represented index (h.left.shaped.index?_eq_some hi).1
  have hrep' := h.right.represented index' (h.right.shaped.index?_eq_some hi').1
  rw [Bool.eq_iff_iff, List.any_eq_true, List.any_eq_true]
  simp only [hrep.mem_lookup, hrep'.mem_lookup, Holds, ← hcolumn]
  constructor
  · rintro ⟨_, ⟨s, hs, rfl, hkey⟩, hp⟩
    obtain ⟨t, ht, hst⟩ := h.exists_twin hs
    exact ⟨t.id, ⟨t, ht, rfl, (hst.get _).symm.trans (hkey.trans hv)⟩, hpq s t hst ▸ hp⟩
  · rintro ⟨_, ⟨t, ht, rfl, hkey⟩, hq⟩
    obtain ⟨s, hs, hst⟩ := h.exists_twin' ht
    exact ⟨s.id, ⟨s, hs, rfl, (hst.get _).trans (hkey.trans hv.symm)⟩, hpq s t hst ▸ hq⟩

theorem has_eq (h : table.Matches other) {index index' : Index}
    (hi : table.index? name = some index) (hi' : other.index? name = some index')
    (hv : v.Alike w) : index.has v = index'.has w := by
  have hhas {table : Table} (h : table.Invariant) {index : Index}
      (hi : table.index? name = some index) (v : Value) :
      index.has v = (index.lookup v).any fun _ => true := by
    have hrep := h.represented index (h.shaped.index?_eq_some hi).1
    rw [Bool.eq_iff_iff, hrep.has_iff, List.any_eq_true]
    simp only [hrep.mem_lookup, and_true]
  rw [hhas h.left hi, hhas h.right hi']
  exact h.any_lookup_eq hi hi' hv fun _ _ _ => rfl

/-- **The same rows satisfy a condition.** -/
theorem ends_matching (h : table.Matches other) (filter : Option Expr) :
    Ends (fun ss ts => Forall₂ (Twin table other) ss ts ∧ ss.Sublist table.rows ∧
      ts.Sublist other.rows) (table.matching filter) (other.matching filter) := by
  have hends : Ends (Forall₂ (Twin table other)) (table.matching filter)
      (other.matching filter) := by
    rw [h.left.matching_eq_scanned, h.right.matching_eq_scanned, scanned, scanned, h.scope_eq]
    refine (Ends.of_eq rfl).bind fun _ _ _ => ends_keepPassing h.twins fun s t hst => ?_
    exact other.scope.ends_satisfies filter hst.alike
  have hsub {table : Table} (h : table.Invariant) {found : List StoredRow}
      (hfound : table.matching filter = .ok found) : found.Sublist table.rows := by
    rw [h.matching_eq_scanned] at hfound
    obtain ⟨-, -, rfl⟩ := scanned_eq_ok.1 hfound
    exact List.filter_sublist
  exact hends.and_ok (fun _ hss => hsub h.left hss) fun _ hts => hsub h.right hts

/-! ## Checking keys -/

/-- Excluded ids that stand for each other. -/
def Excludes (table other : Table) (ids ids' : List Nat) : Prop :=
  ∀ s t, Twin table other s t → (s.id ∈ ids ↔ t.id ∈ ids')

theorem isTaken_eq (h : table.Matches other) {ids ids' : List Nat}
    (hids : Excludes table other ids ids') (hc : column ∈ table.columns)
    (hk : column.isKey = true) (hv : v.Alike w) :
    table.isTaken ids column v = other.isTaken ids' column w := by
  rw [Bool.eq_iff_iff, ← not_iff_not, Bool.not_eq_true, Bool.not_eq_true,
    h.left.isTaken_eq_false_iff hc hk, h.right.isTaken_eq_false_iff (h.columns_eq ▸ hc) hk]
  constructor
  · intro hall t ht hkey
    obtain ⟨s, hs, hst⟩ := h.exists_twin' ht
    exact (hids s t hst).1 (hall s hs ((hst.get _).trans (hkey.trans hv.symm)))
  · intro hall s hs hkey
    obtain ⟨t, ht, hst⟩ := h.exists_twin hs
    exact (hids s t hst).2 (hall t ht ((hst.get _).symm.trans (hkey.trans hv)))

theorem ends_checkKeys (h : table.Matches other) {ids ids' : List Nat}
    (hids : Excludes table other ids ids') (hrow : row.Alike row') :
    Ends (· = ·) (table.checkKeys ids row) (other.checkKeys ids' row') := by
  have htaken : (other.columns.find? fun column =>
      column.isKey && (row'.get column.name).isSome &&
        other.isTaken ids' column (row'.get column.name)) =
      table.columns.find? fun column =>
        column.isKey && (row.get column.name).isSome &&
          table.isTaken ids column (row.get column.name) := by
    rw [← h.columns_eq]
    refine List.find?_congr fun column hc => ?_
    rw [(hrow.get column.name).isSome_eq]
    cases hk : column.isKey with
    | false => rfl
    | true => rw [h.isTaken_eq hids hc hk (hrow.get column.name)]
  unfold checkKeys
  rw [htaken, h.primaryKey_eq, h.name_eq, ← Option.not_isSome, ← Option.not_isSome,
    (hrow.get _).isSome_eq]
  split
  · exact .of_eq rfl
  · dsimp only
    split
    next column _ =>
      rw [duplicate, duplicate, h.name_eq]
      exact .error (.duplicateKey (hrow.get _) _)
    next => exact .ok rfl

end Matches

end Table

end RelStore
