/-
What groups show is never `nan`.

Columns take finite numbers only. A sum of these may leave the range of numbers, but then it is an
infinity, to which finite numbers are added without effect: `nan` would come of opposite infinities
only. An average is a sum over a number, and an extreme is one of the values. So nothing that a group
can be asked for is `nan` (`Finite.shown_ne_nan`), and groups can be sorted by all of it.
-/
import RelStore.Proofs.Query.Recall

namespace RelStore

open Sql
open List (Forall₂)

/-! ## Numbers -/

namespace Binary64

theorem ofUnits_ne_nan (negative : Bool) (n d : Nat) : ofUnits negative n d ≠ .nan := nofun

/-- What is added to an infinity is no infinity of the other sign. -/
theorem add_ne_nan {x y : Binary64} (hx : x ≠ .nan) (hy : y.isFinite = true) : x.add y ≠ .nan := by
  match x, y with
  | .signed s a, .signed t b =>
    have hb : b.val ≠ infinityRank := Nat.ne_of_lt (of_decide_eq_true hy)
    rw [add]
    split
    · rw [if_neg (by simp [hb])]
      exact hx
    · exact ofUnits_ne_nan _ _ _

theorem divNat_ne_nan {x : Binary64} (hx : x ≠ .nan) (n : Nat) : x.divNat n ≠ .nan := by
  match x with
  | .signed s a =>
    rw [divNat]
    split
    · exact hx
    · exact ofUnits_ne_nan _ _ _

end Binary64

/-! ## Aggregates -/

theorem Value.ofNat_ne_nan (n : Nat) : Value.ofNat n ≠ some (.number .nan) := nofun

namespace Sql

variable {values : List Scalar}

theorem sumFrom_ne_nan {fn : AggregateFn} {sum total : Binary64} (hsum : sum ≠ .nan)
    (h : ∀ v ∈ values, v.Finite) (htotal : sumFrom fn sum values = .ok total) : total ≠ .nan := by
  induction values generalizing sum with
  | nil =>
    obtain rfl := Except.ok.inj htotal
    exact hsum
  | cons v rest ih =>
    obtain ⟨hv, hrest⟩ := List.forall_mem_cons.1 h
    cases v with
    | number n => exact ih (Binary64.add_ne_nan hsum (hv n rfl)) hrest htotal
    | text s => cases htotal
    | bool b => cases htotal

/-- An extreme is one of the values. -/
theorem mem_of_extremeFrom {fn : AggregateFn} {wanted : Ordering} {best v : Scalar}
    (h : extremeFrom fn wanted best values = .ok v) : v ∈ best :: values := by
  induction values generalizing best with
  | nil =>
    obtain rfl := Except.ok.inj h
    exact List.mem_singleton_self _
  | cons next rest ih =>
    rw [extremeFrom] at h
    split at h
    next => cases h
    next order _ =>
      rcases List.mem_cons.1 (ih h) with rfl | hmem
      · split
        · exact List.mem_cons_of_mem _ List.mem_cons_self
        · exact List.mem_cons_self
      · exact List.mem_cons_of_mem _ (List.mem_cons_of_mem _ hmem)

theorem AggregateFn.ofScalars_ne_nan {fn : AggregateFn} (h : ∀ v ∈ values, v.Finite) {value : Value}
    (hvalue : fn.ofScalars values = .ok value) : value ≠ some (.number .nan) := by
  have hzero : (0 : Binary64) ≠ .nan := nofun
  rcases values with _ | ⟨first, rest⟩
  · cases fn <;> obtain rfl := Except.ok.inj hvalue <;> nofun
  · cases fn with
    | count =>
      obtain rfl := Except.ok.inj hvalue
      exact Value.ofNat_ne_nan _
    | sum =>
      obtain ⟨total, htotal, rfl⟩ := map_eq_ok.1 hvalue
      exact fun hnan => sumFrom_ne_nan hzero h htotal (Scalar.number.inj (Option.some.inj hnan))
    | avg =>
      obtain ⟨total, htotal, rfl⟩ := map_eq_ok.1 hvalue
      exact fun hnan => Binary64.divNat_ne_nan (sumFrom_ne_nan hzero h htotal) _
        (Scalar.number.inj (Option.some.inj hnan))
    | min =>
      obtain ⟨v, hv, rfl⟩ := map_eq_ok.1 hvalue
      exact fun hnan => (h v (mem_of_extremeFrom hv)).ne_nan (Option.some.inj hnan)
    | max =>
      obtain ⟨v, hv, rfl⟩ := map_eq_ok.1 hvalue
      exact fun hnan => (h v (mem_of_extremeFrom hv)).ne_nan (Option.some.inj hnan)

end Sql

/-! ## Groups -/

/-- A row has finite numbers in its columns. -/
def Scope.Finite (scope : Scope) (row : Row) : Prop :=
  ∀ bound ∈ scope.columns, (row.get bound.key).Finite

theorem Table.Invariant.finite {table : Table} (h : table.Invariant) {stored : StoredRow}
    (hstored : stored ∈ table.rows) : table.scope.Finite stored.row :=
  fun _ hbound => Value.finite_of_conforms (h.conforms hstored hbound)

namespace Grouping

/-- The keys of a group and its rows have finite numbers. -/
structure Finite (g : Grouping) (group : Group) : Prop where
  keys : ∀ v ∈ group.keys, v.Finite
  rows : ∀ row ∈ group.rows, g.scope.Finite row

variable {g : Grouping} {group : Group}

theorem finite_groups (hcolumns : ∀ bound ∈ g.columns, bound ∈ g.scope.columns) {rows : List Row}
    (hrows : ∀ row ∈ rows, g.scope.Finite row) : ∀ group ∈ g.groups rows, g.Finite group := by
  by_cases hnone : g.columns = []
  · rw [groups, if_pos (by simpa using hnone)]
    exact List.forall_mem_singleton.2 ⟨List.forall_mem_nil _, hrows⟩
  · intro group hgroup
    obtain ⟨first, hfirst, -, hkeys, hmembers⟩ := (groupedBy_text hnone rows).members group hgroup
    refine ⟨?_, ?_⟩
    · rw [hkeys, keysOf, List.forall_mem_map]
      exact fun bound hbound => hrows first hfirst bound (hcolumns bound hbound)
    · rw [hmembers]
      exact fun row hrow => hrows row (List.mem_filter.1 hrow).1

theorem Finite.compute_ne_nan (h : g.Finite group) {call : AggregateCall} {value : Value}
    (hvalue : g.compute group call = .ok value) : value ≠ some (.number .nan) := by
  obtain ⟨fn, argument⟩ := call
  obtain ⟨_, -, hvalue⟩ := bind_eq_ok.1 hvalue
  cases argument with
  | none =>
    obtain rfl := Except.ok.inj hvalue
    exact Value.ofNat_ne_nan _
  | some ref =>
    obtain ⟨bound, hbound, hvalue⟩ := bind_eq_ok.1 hvalue
    refine AggregateFn.ofScalars_ne_nan (fun v hv => ?_) hvalue
    obtain ⟨_, hmem, rfl⟩ := List.mem_filterMap.1 hv
    obtain ⟨row, hrow, heq⟩ := List.mem_map.1 hmem
    exact h.rows row hrow bound (Scope.mem_columns_of_resolve hbound) v heq

/-- **Nothing that a group shows is `nan`.** -/
theorem Finite.shown_ne_nan (h : g.Finite group) {projection : Projection} {value : Value}
    (hvalue : g.shown group projection = .ok value) : value ≠ some (.number .nan) := by
  cases projection with
  | star => cases hvalue
  | column ref name? =>
    obtain ⟨place, -, rfl⟩ := map_eq_ok.1 hvalue
    rw [List.getD_eq_getElem?_getD]
    cases hkey : group.keys[place]? with
    | none => exact nofun
    | some v => exact (h.keys v (List.mem_of_getElem? hkey)).ne_nan
  | aggregate call name? => exact h.compute_ne_nan hvalue

theorem Finite.get_shownRow_ne_nan (h : g.Finite group) {columns : List String} {row : Row}
    (hrow : g.shownRow columns group = .ok row) (name : String) :
    row.get name ≠ some (.number .nan) := by
  obtain ⟨values, hvalues, rfl⟩ := map_eq_ok.1 hrow
  refine foldl_keeps (P := fun row : Row => row.get name ≠ some (.number .nan)) nofun
    fun row hrow field hfield => ?_
  rw [Row.get_set]
  split
  · obtain ⟨projection, -, hshown⟩ :=
      exists_left_of_mem (mapM_eq_ok.1 hvalues) (List.of_mem_zip hfield).2
    exact h.shown_ne_nan hshown
  · exact hrow

end Grouping

end RelStore
