/-
DISTINCT is grouping by all columns.

`SELECT DISTINCT a, b` projects rows and drops those whose projection has been seen;
`SELECT a, b … GROUP BY a, b` forms groups and projects their keys. Both show, for each projection,
the first row that has it (`firstsOf`): the keys of a group are those of its first row, and the text
that tells groups apart is the text that tells projected rows apart (`rowText_eq_inColumns`). They
also fail for the same causes, in the same order.
-/
import RelStore.Proofs.Query.Counting

namespace RelStore

open Sql
open List (Forall₂)

/-- A run that leaves its state as it is. -/
theorem run_mapM {ε σ α β : Type} {f : α → StateT σ (Except ε) β} {items : List α} {results : List β}
    (h : Forall₂ (fun a b => ∀ s, (f a).run s = .ok (b, s)) items results) (s : σ) :
    (items.mapM f).run s = .ok (results, s) := by
  induction h with
  | nil => rfl
  | cons ha _ ih =>
    rw [List.mapM_cons, StateT.run_bind]
    refine bind_eq_ok.2 ⟨_, ha s, ?_⟩
    rw [StateT.run_bind]
    exact bind_eq_ok.2 ⟨_, ih, rfl⟩

/-! ## Columns by name -/

/-- The values of a row in some columns, under their declared names. -/
def inColumns (columns : List BoundColumn) (row : Row) : Row :=
  Row.ofList (columns.map fun bound => (bound.column.name, row.get bound.key))

/-- Rows have the values of columns under the declared names. -/
def Unqualified (columns : List BoundColumn) : Prop := ∀ bound ∈ columns, bound.key = bound.column.name

theorem get?_inColumns {columns : List BoundColumn} (h : Unqualified columns) {bound : BoundColumn}
    (hbound : bound ∈ columns) (row : Row) :
    (inColumns columns row).get? bound.column.name = some (row.get bound.key) := by
  rw [inColumns]
  refine Row.get?_ofList hbound fun other hother hname => ?_
  rw [h other hother, h bound hbound, hname]

namespace Grouping

variable {g : Grouping}

theorem rowText_eq_inColumns (h : Unqualified g.columns) (row : Row) :
    g.rowText row = rowKeyText (g.columns.map (·.column.name)) (inColumns g.columns row) := by
  rw [rowText, keysOf, rowKeyText, List.map_map, List.map_map]
  refine congrArg joinKeyTexts (List.map_congr_left fun bound hbound => ?_)
  rw [Function.comp_apply, Function.comp_apply, fieldKeyText, get?_inColumns h hbound]

theorem exists_position {ref : ColumnRef} {bound : BoundColumn} (href : g.scope.resolve ref = .ok bound)
    (hbound : bound ∈ g.columns) : ∃ place, g.position ref = .ok place := by
  have hfound : (g.columns.findIdx? (·.key == bound.key)).isSome = true := by
    rw [List.findIdx?_isSome]
    exact List.any_eq_true.2 ⟨bound, hbound, beq_self_eq_true _⟩
  obtain ⟨place, hplace⟩ := Option.isSome_iff_exists.1 hfound
  refine ⟨place, bind_eq_ok.2 ⟨bound, href, ?_⟩⟩
  rw [hplace]
  rfl

/-- A GROUP BY column shows the value of the first row of a group. -/
theorem run_project_column {ref : ColumnRef} {bound : BoundColumn} {name? : Option String}
    (href : g.scope.resolve ref = .ok bound) (hbound : bound ∈ g.columns) {group : Group} {first : Row}
    (hkeys : group.keys = g.keysOf first) (known : KnownAggregates) :
    (g.project group (.column ref name?)).run known = .ok (first.get bound.key, known) := by
  obtain ⟨place, hplace⟩ := exists_position href hbound
  obtain ⟨found, column, hfound, hcolumn, hkey⟩ := position_eq_ok hplace
  obtain rfl : bound = found := Except.ok.inj (href.symm.trans hfound)
  have hvalue : group.keys.getD place none = first.get bound.key := by
    simp [hkeys, keysOf, hcolumn, hkey]
  rw [project, keyValue, hplace, ← hvalue]
  rfl

/-- The grouping shows its own columns. -/
def ShowsColumns (g : Grouping) : Prop :=
  Forall₂ (fun projection bound => ∃ ref, projection = .column ref none ∧ ref.table = none ∧
    g.scope.resolve ref = .ok bound ∧ bound ∈ g.columns) g.projections g.columns

namespace ShowsColumns

variable (h : g.ShowsColumns)

include h

theorem outputNames : g.projections.mapM g.outputName = .ok (g.columns.map (·.column.name)) := by
  refine mapM_eq_ok.2 (List.forall₂_map_right_iff.2 (h.imp ?_))
  rintro _ bound ⟨ref, rfl, htable, href, -⟩
  rw [outputName, Scope.outputName, href, Except.map, htable]
  rfl

theorem outputRow? {group : Group} (first : Row) (hkeys : group.keys = g.keysOf first) :
    (g.outputRow? none (g.columns.map (·.column.name)) group).run [] =
      .ok (some (inColumns g.columns first), []) := by
  have hvalues : (g.projections.mapM (g.project group)).run [] =
      .ok (g.columns.map fun bound => first.get bound.key, []) := by
    refine run_mapM (List.forall₂_map_right_iff.2 (h.imp ?_)) []
    rintro _ bound ⟨ref, rfl, -, href, hbound⟩
    exact run_project_column href hbound hkeys
  rw [Grouping.outputRow?, StateT.run_bind]
  refine bind_eq_ok.2 ⟨(true, []), rfl, ?_⟩
  rw [if_pos rfl, StateT.run_bind]
  refine bind_eq_ok.2 ⟨_, hvalues, ?_⟩
  rw [List.zip_map', inColumns]
  rfl

/-- Each group shows its first row. -/
theorem entries (rows firsts : List Row) :
    g.entries none (g.columns.map (·.column.name)) (firsts.map (g.groupOf rows)) =
      .ok (firsts.map fun first => ⟨inColumns g.columns first, g.groupOf rows first, []⟩) := by
  induction firsts with
  | nil => rfl
  | cons first rest ih =>
    rw [List.map_cons, Grouping.entries, h.outputRow? first rfl, ih]
    rfl

end ShowsColumns

end Grouping

namespace Sql.Select

/-- The first of the rows with each text in some columns, as these columns show it. -/
def firstsOf (columns : List BoundColumn) (rows : List Row) : Listing :=
  ⟨columns.map (·.column.name),
    keepFirst (rowKeyText (columns.map (·.column.name))) [] (rows.map (inColumns columns))⟩

variable {table : String} {names : List String} {filter : Option Expr} {scope : Scope} {rows : List Row}

theorem shape_unsorted {α : Type} {query : Select} (horder : query.orderBy = [])
    (hlimit : query.limit = none) (hoffset : query.offset = none) (columns : List String)
    (rowOf : α → Row) (sortValues : α → Except Cause (List Value)) (entries : List α) :
    query.shape columns rowOf sortValues entries = .ok ⟨columns,
      (if query.distinct then distinctItems rowOf columns entries else entries).map rowOf⟩ := by
  rw [shape, horder, hlimit, hoffset]
  simp only [List.isEmpty_nil, if_true, pure_bind, paginate_none]
  rfl

theorem groupedListing_eq {query : Select} {g : Grouping} (h : query.KeepsRows)
    (hhaving : query.having = none) (horder : query.orderBy = [])
    (hg : Grouping.ofSelect scope query = .ok g) (hshows : g.ShowsColumns)
    (hcolumns : g.columns ≠ []) (hplain : Unqualified g.columns) :
    query.groupedListing scope rows = .ok (firstsOf g.columns rows) := by
  have hentries : g.entries query.having (g.columns.map (·.column.name)) (g.groups rows) =
      .ok ((keepFirst g.rowText [] rows).map
        fun first => ⟨inColumns g.columns first, g.groupOf rows first, []⟩) := by
    rw [hhaving, Grouping.groups_eq hcolumns, hshows.entries]
  have hkeys : query.orderBy.mapM (query.sortKey (g.columns.map (·.column.name)) (groupKey g)) =
      .ok [] := by
    rw [horder]
    rfl
  refine bind_eq_ok.2 ⟨g, hg, bind_eq_ok.2 ⟨_, hshows.outputNames, bind_eq_ok.2 ⟨_, hentries,
    bind_eq_ok.2 ⟨[], hkeys, ?_⟩⟩⟩⟩
  have htext : g.rowText =
      fun row => rowKeyText (g.columns.map (·.column.name)) (inColumns g.columns row) :=
    funext (Grouping.rowText_eq_inColumns hplain)
  rw [shape_unsorted horder h.limit h.offset, h.distinct, if_neg Bool.false_ne_true, List.map_map, htext,
    firstsOf, keepFirst_map]
  rfl

end Sql.Select

end RelStore
