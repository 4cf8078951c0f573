/-
Which rows GROUP BY puts in one group, and what output columns say of a group.

Rows are in one group if their values in the GROUP BY columns have one key text (`groups_eq`).
Values that are equal do. Values that are not can only if two of the columns have texts with NULs,
and then a group has rows that differ (`not_groupedByValues_pairs`). The keys of a group are those
of its first row, so that a column is the common value of a group where its rows are equal.
-/
import RelStore.Proofs.Distinct
import RelStore.Proofs.Query.Join

namespace RelStore

open Sql
open List (Forall₂)

namespace Grouping

variable {g : Grouping} {rows firsts : List Row} {row other first : Row}

/-! ## Groups by key texts -/

/-- The text that rows are told apart by in groups. -/
def rowText (g : Grouping) (row : Row) : String :=
  joinKeyTexts ((g.keysOf row).map Value.keyText)

/-- The group of a row among others. -/
def groupOf (g : Grouping) (rows : List Row) (first : Row) : Group :=
  ⟨g.keysOf first, rows.filter fun row => g.rowText first == g.rowText row⟩

theorem groupOf_append_same (h : g.rowText first = g.rowText row) (rows : List Row) :
    g.groupOf (rows ++ [row]) first =
      ⟨g.keysOf first, (g.groupOf rows first).rows ++ [row]⟩ := by
  simp [groupOf, List.filter_append, h]

theorem groupOf_append_other (h : g.rowText first ≠ g.rowText row) (rows : List Row) :
    g.groupOf (rows ++ [row]) first = g.groupOf rows first := by
  simp [groupOf, List.filter_append, h]

theorem addRow_cons (row first : Row) (groups : List Group) :
    addRow (g.keysOf row) row (g.groupOf rows first :: groups) =
      if g.rowText first = g.rowText row then
        ⟨g.keysOf first, (g.groupOf rows first).rows ++ [row]⟩ :: groups
      else g.groupOf rows first :: addRow (g.keysOf row) row groups :=
  if_congr beq_iff_eq rfl rfl

/-- A row that is the same as the first of a group is added to it. -/
theorem addRow_of_known (hapart : firsts.Pairwise fun a b => g.rowText a ≠ g.rowText b)
    (hfirst : first ∈ firsts) (hsame : g.rowText first = g.rowText row) :
    addRow (g.keysOf row) row (firsts.map (g.groupOf rows)) =
      firsts.map (g.groupOf (rows ++ [row])) := by
  induction firsts with
  | nil => cases hfirst
  | cons next rest ih =>
    obtain ⟨hnext, hrest⟩ := List.pairwise_cons.1 hapart
    rw [List.map_cons, List.map_cons, addRow_cons]
    by_cases h : g.rowText next = g.rowText row
    · have hothers : ∀ other ∈ rest, g.groupOf (rows ++ [row]) other = g.groupOf rows other :=
        fun other hother => groupOf_append_other (fun heq => hnext other hother (h.trans heq.symm)) _
      rw [if_pos h, groupOf_append_same h, List.map_congr_left hothers]
    · have hmem : first ∈ rest := (List.mem_cons.1 hfirst).resolve_left fun heq => h (heq ▸ hsame)
      rw [if_neg h, groupOf_append_other h, ih hrest hmem]

/-- A row that is the same as no first begins a group. -/
theorem addRow_of_new (hnew : ∀ first ∈ firsts, g.rowText first ≠ g.rowText row) :
    addRow (g.keysOf row) row (firsts.map (g.groupOf rows)) =
      firsts.map (g.groupOf (rows ++ [row])) ++ [⟨g.keysOf row, [row]⟩] := by
  induction firsts with
  | nil => rfl
  | cons next rest ih =>
    obtain ⟨hnext, hrest⟩ := List.forall_mem_cons.1 hnew
    rw [List.map_cons, List.map_cons, addRow_cons, if_neg hnext, groupOf_append_other hnext,
      ih hrest, List.cons_append]

/-- Row after row, there is a group for each first. -/
theorem foldl_addRow (h : FirstOfEach (fun a b => g.rowText a = g.rowText b) rows firsts) :
    rows.foldl (fun groups row => addRow (g.keysOf row) row groups) [] =
      firsts.map (g.groupOf rows) := by
  induction h with
  | nil => rfl
  | @keep rows firsts row h hnew ih =>
    have hfirsts : ∀ first ∈ firsts, g.rowText first ≠ g.rowText row :=
      fun first hfirst => hnew first (h.sublist.subset hfirst)
    have hown : g.groupOf (rows ++ [row]) row = ⟨g.keysOf row, [row]⟩ := by
      have hnone : rows.filter (fun other => g.rowText row == g.rowText other) = [] :=
        List.filter_eq_nil_iff.2 fun other hother heq => hnew other hother (beq_iff_eq.1 heq).symm
      rw [groupOf_append_same rfl, groupOf, hnone, List.nil_append]
    rw [List.foldl_append, ih, List.foldl_cons, List.foldl_nil, addRow_of_new hfirsts,
      List.map_append, List.map_singleton, hown]
  | @drop rows firsts row first h hmem hsame ih =>
    rw [List.foldl_append, ih, List.foldl_cons, List.foldl_nil,
      addRow_of_known h.pairwise hmem hsame]

/-- **There is one group for each first of the rows that have one key text.** -/
theorem groups_eq (hcolumns : g.columns ≠ []) (rows : List Row) :
    g.groups rows = (keepFirst g.rowText [] rows).map (g.groupOf rows) := by
  rw [groups, if_neg (by simpa using hcolumns)]
  exact foldl_addRow (firstOfEach_keepFirst g.rowText rows)

/-- Groups of the rows that are the same. -/
structure GroupedBy (g : Grouping) (same : Row → Row → Bool) (rows : List Row)
    (groups : List Group) : Prop where
  /-- Two rows are in one group exactly if they are the same. -/
  together : ∀ row ∈ rows, ∀ other ∈ rows,
    (∃ group ∈ groups, row ∈ group.rows ∧ other ∈ group.rows) ↔ same row other = true
  /-- A group has, in order, all rows that are the same as one of them, and the keys of this one. -/
  members : ∀ group ∈ groups, ∃ first ∈ rows, same first first = true ∧
    group.keys = g.keysOf first ∧ group.rows = rows.filter (same first)
  /-- No row is the same as one of another group. -/
  apart : groups.Pairwise fun a b => ∀ row ∈ a.rows, ∀ other ∈ b.rows, same row other = false

theorem GroupedBy.congr {same same' : Row → Row → Bool} {groups : List Group}
    (h : g.GroupedBy same rows groups)
    (hsame : ∀ a ∈ rows, ∀ b ∈ rows, same a b = same' a b) : g.GroupedBy same' rows groups := by
  have hsubset : ∀ group ∈ groups, ∀ row ∈ group.rows, row ∈ rows := by
    intro group hgroup row hrow
    obtain ⟨first, -, -, -, hrows⟩ := h.members group hgroup
    rw [hrows] at hrow
    exact (List.mem_filter.1 hrow).1
  constructor
  case together =>
    intro row hrow other hother
    rw [h.together row hrow other hother, hsame row hrow other hother]
  case members =>
    intro group hgroup
    obtain ⟨first, hfirst, hself, hkeys, hrows⟩ := h.members group hgroup
    refine ⟨first, hfirst, by rw [← hsame first hfirst first hfirst, hself], hkeys, ?_⟩
    rw [hrows]
    exact List.filter_congr fun row hrow => hsame first hfirst row hrow
  case apart =>
    refine h.apart.imp_of_mem fun ha hb hno row hrow other hother => ?_
    rw [← hsame row (hsubset _ ha row hrow) other (hsubset _ hb other hother)]
    exact hno row hrow other hother

theorem groupedBy_text (hcolumns : g.columns ≠ []) (rows : List Row) :
    g.GroupedBy (fun row other => g.rowText row == g.rowText other) rows (g.groups rows) := by
  have hfirsts := firstOfEach_keepFirst g.rowText rows
  rw [groups_eq hcolumns]
  constructor
  case together =>
    intro row hrow other hother
    rw [beq_iff_eq]
    constructor
    · rintro ⟨group, hgroup, hin, hin'⟩
      obtain ⟨first, -, rfl⟩ := List.mem_map.1 hgroup
      have hfirst : g.rowText first = g.rowText row := beq_iff_eq.1 (List.mem_filter.1 hin).2
      exact hfirst.symm.trans (beq_iff_eq.1 (List.mem_filter.1 hin').2)
    · intro h
      obtain ⟨first, hmem, hfirst⟩ := hfirsts.covers (fun _ => rfl) hrow
      exact ⟨_, List.mem_map_of_mem hmem, List.mem_filter.2 ⟨hrow, beq_iff_eq.2 hfirst⟩,
        List.mem_filter.2 ⟨hother, beq_iff_eq.2 (hfirst.trans h)⟩⟩
  case members =>
    intro group hgroup
    obtain ⟨first, hfirst, rfl⟩ := List.mem_map.1 hgroup
    exact ⟨first, hfirsts.sublist.subset hfirst, beq_self_eq_true _, rfl, rfl⟩
  case apart =>
    rw [List.pairwise_map]
    refine hfirsts.pairwise.imp fun {a b} hne row hrow other hother => beq_eq_false_iff_ne.2 ?_
    intro heq
    have ha : g.rowText a = g.rowText row := beq_iff_eq.1 (List.mem_filter.1 hrow).2
    have hb : g.rowText b = g.rowText other := beq_iff_eq.1 (List.mem_filter.1 hother).2
    exact hne (ha.trans (heq.trans hb.symm))

/-! ## Groups by values -/

/-- Whether two rows have equal values in the GROUP BY columns. -/
def sameValues (g : Grouping) (row other : Row) : Bool :=
  g.columns.all fun column => (row.get column.key).same (other.get column.key)

/-- A row has values of the types of the GROUP BY columns. -/
def Admits (g : Grouping) (row : Row) : Prop :=
  ∀ column ∈ g.columns, (row.get column.key).conforms column.column.type = true

/-- Texts with NULs are in one GROUP BY column of a row at most. -/
def NulsOnlyIn (g : Grouping) (exception : String) (row : Row) : Prop :=
  ∀ column ∈ g.columns, column.column.type = .string → column.key ≠ exception →
    (row.get column.key).WithoutNul

instance (exception : String) (row : Row) : Decidable (g.NulsOnlyIn exception row) :=
  inferInstanceAs (Decidable (∀ column ∈ g.columns, column.column.type = .string →
    column.key ≠ exception → (row.get column.key).WithoutNul))

theorem sameValues_iff (h : g.Admits row) : g.sameValues row other = true ↔
    ∀ column ∈ g.columns, (row.get column.key).Alike (other.get column.key) := by
  rw [sameValues, List.all_eq_true]
  exact forall₂_congr fun column hcolumn => Value.same_iff_of_conforms (h column hcolumn)

theorem rowText_eq (g : Grouping) (row : Row) : g.rowText row =
    joinKeyTexts ((g.columns.map (·.key)).map fun key => (row.get key).keyText) := by
  rw [rowText, keysOf, List.map_map, List.map_map]
  rfl

theorem rowText_eq_of_sameValues (h : g.Admits row) (hsame : g.sameValues row other = true) :
    g.rowText row = g.rowText other := by
  rw [rowText_eq, rowText_eq, List.map_map, List.map_map]
  refine congrArg joinKeyTexts (List.map_congr_left fun column hcolumn => ?_)
  exact ((sameValues_iff h).1 hsame column hcolumn).keyText_eq

theorem NulsOnlyIn.nulFree {exception : String} (h : g.NulsOnlyIn exception row)
    (hadmits : g.Admits row) :
    ∀ key ∈ g.columns.map (·.key), key ≠ exception → NulFree (row.get key).keyText := by
  intro key hkey hne
  obtain ⟨column, hcolumn, rfl⟩ := List.mem_map.1 hkey
  refine Value.WithoutNul.keyText ?_
  by_cases htype : column.column.type = .string
  · exact h column hcolumn htype hne
  · exact Value.withoutNul_of_conforms (hadmits column hcolumn) htype

theorem rowText_eq_iff {exception : String} (hrow : g.Admits row) (hother : g.Admits other)
    (hnuls : g.NulsOnlyIn exception row) (hnuls' : g.NulsOnlyIn exception other) :
    g.rowText row = g.rowText other ↔ g.sameValues row other = true := by
  rw [rowText_eq, rowText_eq, sameValues_iff hrow,
    joinKeyTexts_map_eq_iff exception (hnuls.nulFree hrow) (hnuls'.nulFree hother),
    List.forall_mem_map]
  exact forall₂_congr fun _ _ => Value.keyText_eq_iff

theorem groupedBy_values (hcolumns : g.columns ≠ []) (hadmits : ∀ row ∈ rows, g.Admits row)
    {exception : String} (hnuls : ∀ row ∈ rows, g.NulsOnlyIn exception row) :
    g.GroupedBy g.sameValues rows (g.groups rows) := by
  refine (groupedBy_text hcolumns rows).congr fun a ha b hb => ?_
  rw [Bool.eq_iff_iff, beq_iff_eq]
  exact rowText_eq_iff (hadmits a ha) (hadmits b hb) (hnuls a ha) (hnuls b hb)

/-! ## Output -/

section

variable {group : Group} {known after : KnownAggregates} {value : Value} {ref : ColumnRef}

theorem position_eq_ok {place : Nat} (h : g.position ref = .ok place) :
    ∃ bound column, g.scope.resolve ref = .ok bound ∧ g.columns[place]? = some column ∧
      column.key = bound.key := by
  obtain ⟨bound, hbound, h⟩ := bind_eq_ok.1 h
  split at h
  next found hfound =>
    obtain rfl := pure_eq_ok.1 h
    obtain ⟨hlt, hkey, -⟩ := List.findIdx?_eq_some_iff_getElem.1 hfound
    exact ⟨bound, _, hbound, List.getElem?_eq_getElem hlt, beq_iff_eq.1 hkey⟩
  next => exact absurd h throw_ne_ok

/-- A column has the value that the first row of the group has. -/
theorem project_column {name? : Option String} (hkeys : group.keys = g.keysOf first)
    (h : (g.project group (.column ref name?)).run known = .ok (value, after)) :
    ∃ bound column, g.scope.resolve ref = .ok bound ∧ column ∈ g.columns ∧
      column.key = bound.key ∧ value = first.get column.key := by
  rw [project, keyValue, StateT.run_bind] at h
  obtain ⟨⟨place, _⟩, hplace, h⟩ := bind_eq_ok.1 h
  obtain ⟨found, hfound, hpair⟩ := bind_eq_ok.1 hplace
  cases hpair
  cases h
  obtain ⟨bound, column, hbound, hcolumn, hkey⟩ := position_eq_ok hfound
  refine ⟨bound, column, hbound, List.mem_of_getElem? hcolumn, hkey, ?_⟩
  simp [hkeys, keysOf, hcolumn]

theorem outputRow?_eq_some {having : Option Expr} {columns : List String}
    (h : (g.outputRow? having columns group).run known = .ok (some row, after)) :
    ∃ values, row = Row.ofList (columns.zip values) ∧
      Forall₂ (fun projection value => ∃ s t, (g.project group projection).run s = .ok (value, t))
        g.projections values := by
  rw [outputRow?, StateT.run_bind] at h
  obtain ⟨⟨satisfied, known⟩, -, h⟩ := bind_eq_ok.1 h
  cases satisfied with
  | false => cases h
  | true =>
    simp only [if_true, StateT.run_bind] at h
    obtain ⟨⟨values, _⟩, hvalues, h⟩ := bind_eq_ok.1 h
    cases h
    exact ⟨values, rfl, forall₂_of_run_mapM hvalues⟩

theorem of_mem_entries {having : Option Expr} {columns : List String} {groups : List Group}
    {entries : List Entry} (h : g.entries having columns groups = .ok entries) {entry : Entry}
    (hentry : entry ∈ entries) : entry.group ∈ groups ∧
      (g.outputRow? having columns entry.group).run [] = .ok (some entry.row, entry.known) := by
  induction groups generalizing entries with
  | nil =>
    cases h
    cases hentry
  | cons group rest ih =>
    rw [Grouping.entries] at h
    obtain ⟨⟨row?, known⟩, hrow, h⟩ := bind_eq_ok.1 h
    obtain ⟨others, hothers, h⟩ := bind_eq_ok.1 h
    have hlater (hmem : entry ∈ others) := ih hothers hmem
    cases row? with
    | none =>
      obtain rfl := pure_eq_ok.1 h
      exact ⟨List.mem_cons_of_mem _ (hlater hentry).1, (hlater hentry).2⟩
    | some row =>
      obtain rfl := pure_eq_ok.1 h
      rcases List.mem_cons.1 hentry with rfl | hmem
      · exact ⟨List.mem_cons_self, hrow⟩
      · exact ⟨List.mem_cons_of_mem _ (hlater hmem).1, (hlater hmem).2⟩

/-- An output row has, for each column of the source, the common value of the rows of its group. -/
def ShowsCommon (g : Grouping) (columns : List String) (entry : Entry) : Prop :=
  ∃ values, entry.row = Row.ofList (columns.zip values) ∧
    Forall₂ (fun projection value => ∀ ref name?, projection = .column ref name? →
      ∃ bound, g.scope.resolve ref = .ok bound ∧
        ∀ row ∈ entry.group.rows, value.same (row.get bound.key) = true) g.projections values

theorem GroupedBy.showsCommon {groups : List Group} (h : g.GroupedBy g.sameValues rows groups)
    {having : Option Expr} {columns : List String} {entries : List Entry}
    (hentries : g.entries having columns groups = .ok entries) :
    ∀ entry ∈ entries, entry.group ∈ groups ∧ g.ShowsCommon columns entry := by
  intro entry hentry
  obtain ⟨hgroup, hrow⟩ := of_mem_entries hentries hentry
  obtain ⟨values, hvalues, hprojected⟩ := outputRow?_eq_some hrow
  obtain ⟨first, -, -, hkeys, hrows⟩ := h.members _ hgroup
  refine ⟨hgroup, values, hvalues, hprojected.imp ?_⟩
  rintro _ value ⟨s, t, hvalue⟩ ref name? rfl
  obtain ⟨bound, column, hbound, hcolumn, hkey, rfl⟩ := project_column hkeys hvalue
  refine ⟨bound, hbound, fun row hrow => ?_⟩
  rw [hrows] at hrow
  rw [← hkey]
  exact List.all_eq_true.1 (List.mem_filter.1 hrow).2 column hcolumn

end

/-! ## Queries -/

variable {scope : Scope} {query : Select}

theorem ofSelect_eq_ok (h : ofSelect scope query = .ok g) : g.scope = scope ∧
    g.projections = query.projections ∧
    Forall₂ (fun ref bound => scope.resolve ref = .ok bound) query.groupBy g.columns := by
  obtain ⟨columns, hcolumns, h⟩ := bind_eq_ok.1 h
  obtain ⟨-, -, h⟩ := bind_eq_ok.1 h
  obtain rfl := pure_eq_ok.1 h
  exact ⟨rfl, rfl, mapM_eq_ok.1 hcolumns⟩

theorem columns_ne_nil (h : ofSelect scope query = .ok g) (hgroupBy : query.groupBy ≠ []) :
    g.columns ≠ [] := by
  intro hnil
  have hpairs := (ofSelect_eq_ok h).2.2
  rw [hnil, List.forall₂_nil_right_iff] at hpairs
  exact hgroupBy hpairs

/-- The columns of a grouping are columns of the table. -/
theorem mem_columns {table : Table} (h : ofSelect table.scope query = .ok g) {bound : BoundColumn}
    (hbound : bound ∈ g.columns) :
    bound.column ∈ table.columns ∧ bound.key = bound.column.name := by
  obtain ⟨ref, -, href⟩ := exists_left_of_mem (ofSelect_eq_ok h).2.2 hbound
  obtain ⟨schema, hschema, column, hcolumn, rfl, -⟩ := Scope.exists_of_resolve href
  obtain rfl := List.mem_singleton.1 hschema
  exact ⟨hcolumn, rfl⟩

theorem isAggregated_of_groupBy (h : query.groupBy ≠ []) : query.isAggregated = true := by
  simp [Select.isAggregated, h]

/-- An aggregated query is about rows of one table. -/
theorem exists_table_of_source {db : Database} (haggregated : query.isAggregated = true)
    (hsource : query.source db = .ok (scope, rows)) :
    query.join = none ∧ ∃ table, db.table? query.table = some table ∧ scope = table.scope ∧
      ∃ stored, table.matching query.filter = .ok stored ∧ rows = stored.map (·.row) := by
  obtain ⟨table, htable, h⟩ := bind_eq_ok.1 hsource
  split at h
  next join hjoin =>
    obtain ⟨other, -, h⟩ := bind_eq_ok.1 h
    rw [haggregated] at h
    cases hself : Text.sameName other.name table.name <;> rw [hself] at h <;> cases h
  next hjoin =>
    obtain ⟨stored, hstored, h⟩ := bind_eq_ok.1 h
    obtain ⟨rfl, rfl⟩ := Prod.mk.inj (pure_eq_ok.1 h)
    exact ⟨hjoin, table, Database.requireTable_eq_ok.1 htable, rfl, stored, hstored, rfl⟩

/-- In a database that is built these are the rows that satisfy the condition. -/
theorem exists_reached_of_source {db : Database} (hdb : db.Built)
    (haggregated : query.isAggregated = true) (hsource : query.source db = .ok (scope, rows)) :
    query.join = none ∧ ∃ table, db.table? query.table = some table ∧ table.Reached ∧
      scope = table.scope ∧ rows = (table.rows.filter fun stored =>
        table.scope.satisfies query.filter stored.row = .ok true).map (·.row) := by
  obtain ⟨hjoin, table, htable, hscope, stored, hstored, rfl⟩ :=
    exists_table_of_source haggregated hsource
  have hreached := hdb.reached table (List.mem_of_find?_eq_some htable)
  obtain ⟨-, -, rfl⟩ := hreached.invariant.matching_eq_ok_iff.1 hstored
  exact ⟨hjoin, table, htable, hreached, hscope, rfl⟩

theorem admits_of_source {db : Database} (hdb : db.Built) (hgroupBy : query.groupBy ≠ [])
    (hsource : query.source db = .ok (scope, rows)) (hgrouping : ofSelect scope query = .ok g) :
    ∀ row ∈ rows, g.Admits row := by
  obtain ⟨-, table, -, hreached, rfl, rfl⟩ :=
    exists_reached_of_source hdb (isAggregated_of_groupBy hgroupBy) hsource
  intro row hrow bound hbound
  obtain ⟨a, ha, rfl⟩ := List.mem_map.1 hrow
  obtain ⟨hcolumn, hkey⟩ := mem_columns hgrouping hbound
  rw [hkey]
  exact (hreached.invariant.admitted a (List.mem_filter.1 ha).1).typed bound.column hcolumn

end Grouping

/-- **GROUP BY forms groups of the rows whose values have one key text**, in every database that
texts lead to, and rows with equal values are in one group. If at most one of the GROUP BY columns
has texts with NULs, then the groups are those of equal values, and each column of the source in
the output is the common value of a group. -/
theorem Catalog.Reached.groupedByValues {catalog : Catalog} (h : catalog.Reached) {db : Database}
    (hdb : db ∈ catalog.databases) {query : Select} (hgroupBy : query.groupBy ≠ []) {scope : Scope}
    {rows : List Row} (hsource : query.source db = .ok (scope, rows)) {g : Grouping}
    (hgrouping : Grouping.ofSelect scope query = .ok g) :
    g.GroupedBy (fun row other => g.rowText row == g.rowText other) rows (g.groups rows) ∧
    (∀ row ∈ rows, ∀ other ∈ rows, g.sameValues row other = true →
      ∃ group ∈ g.groups rows, row ∈ group.rows ∧ other ∈ group.rows) ∧
    ∀ exception, (∀ row ∈ rows, g.NulsOnlyIn exception row) →
      g.GroupedBy g.sameValues rows (g.groups rows) ∧
      ∀ columns entries, g.entries query.having columns (g.groups rows) = .ok entries →
        ∀ entry ∈ entries, entry.group ∈ g.groups rows ∧ g.ShowsCommon columns entry := by
  have hadmits := Grouping.admits_of_source (h.built.databases db hdb) hgroupBy hsource hgrouping
  have hcolumns := Grouping.columns_ne_nil hgrouping hgroupBy
  have htext := Grouping.groupedBy_text hcolumns rows
  refine ⟨htext, fun row hrow other hother hsame => ?_, fun exception hnuls => ?_⟩
  · refine (htext.together row hrow other hother).2 (beq_iff_eq.2 ?_)
    exact Grouping.rowText_eq_of_sameValues (hadmits row hrow) hsame
  · have hvalues := Grouping.groupedBy_values hcolumns hadmits hnuls
    exact ⟨hvalues, fun columns entries hentries => hvalues.showsCommon hentries⟩

/-! ## Books and pairs -/

/-- How many rows there are for the values in some columns. -/
def countsBy (table : String) (columns : List ColumnRef) : Select where
  distinct := false
  projections := columns.map (.column · none) ++ [.aggregate ⟨.count, none⟩ none]
  table := table
  join := none
  filter := none
  groupBy := columns
  having := none
  orderBy := []
  limit := none
  offset := none

def booksByAuthor : Select := countsBy "books" [⟨none, "author"⟩]

/-- The book without author is in a group of its own. -/
theorem groupedByValues_books :
    let rows : List Row := [⟨[("title", .ofText "Beowulf"), ("author", none)]⟩,
      ⟨[("title", .ofText "Emma"), ("author", .ofNat 7)]⟩]
    let g : Grouping := ⟨books.scope, booksByAuthor.projections,
      [⟨"author", "books", ⟨"author", .int, false, false, none⟩⟩]⟩
    booksByAuthor.groupBy ≠ [] ∧
      booksByAuthor.source ⟨"shop", [authors, books]⟩ = .ok (books.scope, rows) ∧
      Grouping.ofSelect books.scope booksByAuthor = .ok g ∧
      (∀ row ∈ rows, g.NulsOnlyIn "author" row) ∧
      g.groups rows = [⟨[none], rows.take 1⟩, ⟨[.ofNat 7], rows.drop 1⟩] ∧
      g.GroupedBy g.sameValues rows (g.groups rows) := by
  intro rows g
  have hsource : booksByAuthor.source ⟨"shop", [authors, books]⟩ = .ok (books.scope, rows) := rfl
  have hgrouping : Grouping.ofSelect books.scope booksByAuthor = .ok g := rfl
  have hnuls : ∀ row ∈ rows, g.NulsOnlyIn "author" row := by decide +kernel
  have hgrouped := Catalog.Reached.groupedByValues reached_shop (List.mem_singleton_self _)
    (by decide) hsource hgrouping
  exact ⟨by decide, hsource, hgrouping, hnuls, by decide +kernel, (hgrouped.2.2 "author" hnuls).1⟩

def pairs : Table where
  schema := ⟨"pairs", [⟨"a", .string, true, false, none⟩, ⟨"b", .string, false, false, none⟩]⟩
  primaryKey := ⟨"a", .string, true, false, none⟩
  rows := [⟨1, ⟨[("a", .ofText "x\x00string:y"), ("b", .ofText "z")]⟩⟩,
    ⟨2, ⟨[("a", .ofText "x"), ("b", .ofText "y\x00string:z")]⟩⟩]
  nextId := 3
  indexes := [⟨"a", [⟨.ofText "x\x00string:y", [1]⟩, ⟨.ofText "x", [2]⟩]⟩]

/-- Two rows that differ in both columns, with NULs in their texts. -/
def pairsTexts : List String :=
  ["CREATE DATABASE d", "USE d", "CREATE TABLE pairs (a STRING PRIMARY KEY, b STRING)",
   "INSERT INTO pairs VALUES ('x\x00string:y', 'z')",
   "INSERT INTO pairs VALUES ('x', 'y\x00string:z')"]

theorem reached_pairs : Catalog.Reached ⟨none, [⟨"d", [pairs]⟩]⟩ := by
  have hpairs : (Workspace.executeAll ⟨⟨.inMemory, ⟨.root, [], "", []⟩⟩, {}⟩
      pairsTexts).engine.catalog = ⟨none, [⟨"d", [pairs]⟩]⟩ := by
    decide +kernel
  exact hpairs ▸ Catalog.Reached.executeAll (.new none) pairsTexts

def pairsByBoth : Select := countsBy "pairs" [⟨none, "a"⟩, ⟨none, "b"⟩]

/-- Two rows that differ are counted as one pair. -/
theorem not_groupedByValues_pairs :
    let first : Row := ⟨[("a", .ofText "x\x00string:y"), ("b", .ofText "z")]⟩
    let second : Row := ⟨[("a", .ofText "x"), ("b", .ofText "y\x00string:z")]⟩
    let g : Grouping := ⟨pairs.scope, pairsByBoth.projections,
      [⟨"a", "pairs", ⟨"a", .string, true, false, none⟩⟩,
       ⟨"b", "pairs", ⟨"b", .string, false, false, none⟩⟩]⟩
    Catalog.Reached ⟨none, [⟨"d", [pairs]⟩]⟩ ∧
      pairsByBoth.source ⟨"d", [pairs]⟩ = .ok (pairs.scope, [first, second]) ∧
      Grouping.ofSelect pairs.scope pairsByBoth = .ok g ∧
      g.sameValues first second = false ∧
      g.groups [first, second] = [⟨g.keysOf first, [first, second]⟩] ∧
      ¬ g.GroupedBy g.sameValues [first, second] (g.groups [first, second]) ∧
      pairsByBoth.run ⟨"d", [pairs]⟩ = .ok ⟨["a", "b", "COUNT(*)"],
        [⟨[("a", .ofText "x\x00string:y"), ("b", .ofText "z"), ("COUNT(*)", .ofNat 2)]⟩]⟩ := by
  intro first second g
  have hapart : g.sameValues first second = false := by decide +kernel
  have hgroups : g.groups [first, second] = [⟨g.keysOf first, [first, second]⟩] := by decide +kernel
  refine ⟨reached_pairs, rfl, rfl, hapart, hgroups, fun h => ?_, by decide +kernel⟩
  rw [hgroups] at h
  have hsame := (h.together first List.mem_cons_self second
    (List.mem_cons_of_mem _ List.mem_cons_self)).1
    ⟨_, List.mem_cons_self, List.mem_cons_self, List.mem_cons_of_mem _ List.mem_cons_self⟩
  rw [hapart] at hsame
  cases hsame

end RelStore
