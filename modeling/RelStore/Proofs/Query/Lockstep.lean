/-
Queries keep step over matching databases.

The source of a query has alike rows in one order, whether or not an index finds them; alike rows
form alike groups, and what a group is asked is answered alike, the aggregates that are known of it
included. The answers then have the same columns and alike rows (`ends_run`).
-/
import RelStore.Query
import RelStore.Proofs.Database.Matches
import RelStore.Proofs.Lockstep.Aggregate

namespace RelStore

open Sql Lockstep
open List (Forall₂)

theorem Row.alike_ofList {fields others : List (String × Value)}
    (h : Forall₂ (fun a b => a.1 = b.1 ∧ Value.Alike a.2 b.2) fields others) :
    (ofList fields).Alike (ofList others) := by
  refine List.rel_foldl (P := Row.Alike) (fun row other hrow a b hab => ?_) (.refl empty) h
  rw [hab.1]
  exact hrow.set hab.2 _

theorem alike_zip (names : List String) {values others : List Value}
    (h : Forall₂ Value.Alike values others) :
    Forall₂ (fun a b => a.1 = b.1 ∧ Value.Alike a.2 b.2) (names.zip values) (names.zip others) := by
  induction h generalizing names with
  | nil =>
    rw [List.zip_nil_right]
    exact .nil
  | cons hvalue _ ih =>
    cases names with
    | nil => exact .nil
    | cons name names => exact .cons ⟨rfl, hvalue⟩ (ih names)

theorem alike_getD {values others : List Value} (h : Forall₂ Value.Alike values others)
    (place : Nat) : (values.getD place none).Alike (others.getD place none) := by
  induction h generalizing place with
  | nil => exact .refl none
  | cons hvalue _ ih =>
    cases place with
    | zero => exact hvalue
    | succ place => exact ih place

/-! ## Joins -/

namespace JoinedTables

variable {tables others : JoinedTables}

/-- Matching tables on either side. -/
structure Matches (tables others : JoinedTables) : Prop where
  left : tables.left.Matches others.left
  right : tables.right.Matches others.right

/-- Two ways to find the right rows: by indexes of one column, or not at all. -/
inductive FindAlike (tables others : JoinedTables) :
    Option (BoundColumn × Index) → Option (BoundColumn × Index) → Prop where
  | scan : FindAlike tables others none none
  | index {column : BoundColumn} {name : String} {index index' : Index} :
      tables.right.index? name = some index → others.right.index? name = some index' →
      FindAlike tables others (some (column, index)) (some (column, index'))

namespace Matches

theorem scope_eq (h : tables.Matches others) : tables.scope = others.scope := by
  rw [scope, scope, h.left.schema, h.right.schema]

theorem alike_combine (h : tables.Matches others) {s s' t t' : StoredRow}
    (hs : s.row.Alike s'.row) (ht : t.row.Alike t'.row) :
    (tables.combine s t).Alike (others.combine s' t') := by
  have hkeyed {table table' : Table} (hmatches : table.Matches table') {row row' : Row}
      (hrow : row.Alike row') : Forall₂ (fun a b => a.1 = b.1 ∧ Value.Alike a.2 b.2)
        (tables.keyed table row) (others.keyed table' row') := by
    rw [keyed, keyed, h.scope_eq, hmatches.columns_eq, hmatches.schema, List.forall₂_map_left_iff,
      List.forall₂_map_right_iff]
    exact List.forall₂_same.2 fun column _ => ⟨rfl, hrow.get column.name⟩
  exact Row.alike_ofList (List.rel_append (hkeyed h.left hs) (hkeyed h.right ht))

theorem ends_partnerIndex? (h : tables.Matches others) (on : Expr) :
    Ends (FindAlike tables others) (tables.partnerIndex? on) (others.partnerIndex? on) := by
  have hcolumns : tables.equalColumns? on = others.equalColumns? on := by
    unfold equalColumns?
    rw [h.scope_eq, h.left.name_eq, h.right.name_eq]
  rw [partnerIndex?, partnerIndex?, hcolumns]
  refine (Ends.of_eq rfl).bind ?_
  rintro found _ rfl
  rcases found with _ | ⟨left, right⟩
  · exact .ok .scan
  · obtain ⟨hi, hi'⟩ | ⟨index, index', hi, hi', -⟩ := h.right.index?_cases right.column.name
    · dsimp only
      rw [hi, hi']
      exact .ok .scan
    · dsimp only
      rw [hi, hi']
      exact .ok (.index hi hi')

/-- Twins have twins as partners. -/
theorem twins_partners (h : tables.Matches others) {index? index'? : Option (BoundColumn × Index)}
    (hfind : FindAlike tables others index? index'?) {s t : StoredRow} (hst : s.row.Alike t.row) :
    Forall₂ (Table.Twin tables.right others.right) (tables.partners index? s)
      (others.partners index'? t) := by
  cases hfind with
  | scan => exact h.right.twins
  | index hi hi' => exact h.right.twins_rowsWith hi hi' (hst.get _)

/-- **Matching tables are joined in lockstep.** -/
theorem ends_join (h : tables.Matches others) (on : Expr) :
    Ends (Forall₂ Row.Alike) (tables.join on) (others.join on) := by
  rw [join, join, h.scope_eq]
  refine (Ends.of_eq rfl).bind fun _ _ _ => (h.ends_partnerIndex? on).bind fun index index' hi => ?_
  refine ends_keepPassing ?_ fun row row' => others.scope.ends_satisfies (some on)
  refine List.rel_flatMap h.left.twins fun s t hst => ?_
  rw [List.forall₂_map_left_iff, List.forall₂_map_right_iff]
  exact (h.twins_partners hi hst.alike).imp fun _ _ hpair => h.alike_combine hst.alike hpair.alike

end Matches

end JoinedTables

/-! ## Source -/

namespace Sql.Select

variable {query : Select} {db other : Database} {table table' : Table} {scope : Scope}
  {rows rows' : List Row}

/-- Rows of one scope, alike one by one. -/
def SourceAlike (source source' : Scope × List Row) : Prop :=
  source.1 = source'.1 ∧ Forall₂ Row.Alike source.2 source'.2

theorem ends_joinedRows (h : db.Matches other) (ht : table.Matches table') (query : Select)
    (join : Join) : Ends SourceAlike (query.joinedRows db table join)
      (query.joinedRows other table' join) := by
  refine (h.ends_requireTable join.table).bind fun right right' ⟨hright, _, _⟩ => ?_
  have htables : JoinedTables.Matches ⟨table, right⟩ ⟨table', right'⟩ := ⟨ht, hright⟩
  dsimp only
  rw [ht.name_eq, hright.name_eq, htables.scope_eq]
  refine .ite Iff.rfl (.error (.refl _)) (.ite Iff.rfl (.error (.refl _)) ?_)
  refine (Ends.of_eq rfl).bind fun _ _ _ => (htables.ends_join join.on).bind fun rows rows' hrows => ?_
  refine (ends_keepPassing hrows fun _ _ => Scope.ends_satisfies _ query.filter).bind ?_
  exact fun _ _ hkept => .ok ⟨rfl, hkept⟩

theorem ends_source (h : db.Matches other) (query : Select) :
    Ends SourceAlike (query.source db) (query.source other) := by
  refine (h.ends_requireTable query.table).bind fun table table' ⟨ht, _, _⟩ => ?_
  cases query.join with
  | some join => exact ends_joinedRows h ht query join
  | none =>
    refine (ht.ends_matching query.filter).bind fun ss ts ⟨hboth, _, _⟩ => .ok ⟨ht.scope_eq, ?_⟩
    rw [List.forall₂_map_left_iff, List.forall₂_map_right_iff]
    exact hboth.imp fun _ _ hst => hst.alike

end Sql.Select

/-! ## Output -/

/-- The same columns with alike rows. -/
structure Listing.Alike (listing other : Listing) : Prop where
  columns : listing.columns = other.columns
  rows : Forall₂ Row.Alike listing.rows other.rows

theorem inStep_sortValue {m : Type → Type} [Monad m] [MonadExcept Cause m] [Lockstep m]
    {leaves other : Leaves m} (h : leaves.Alike other) {row row' : Row} (hrow : row.Alike row')
    (key : SortKey) :
    InStep Value.Alike (SortKey.value leaves row key) (SortKey.value other row' key) := by
  cases key with
  | output name => exact pure (hrow.get name)
  | column ref => exact h.column ref
  | aggregate call => exact h.aggregate call

namespace Sql.Select

variable {α β : Type} {R : α → β → Prop} {entries : List α} {others : List β}

/-- DISTINCT, ORDER BY and paging keep step over entries with alike rows and sort values. -/
theorem ends_shape (query : Select) (columns : List String) {rowOf : α → Row} {rowOf' : β → Row}
    {sortValues : α → Except Cause (List Value)} {sortValues' : β → Except Cause (List Value)}
    (h : Forall₂ R entries others) (hrow : ∀ a b, R a b → (rowOf a).Alike (rowOf' b))
    (hvalues : ∀ a b, R a b → Ends (Forall₂ Value.Alike) (sortValues a) (sortValues' b)) :
    Ends Listing.Alike (query.shape columns rowOf sortValues entries)
      (query.shape columns rowOf' sortValues' others) := by
  have hkept : Forall₂ R
      (if query.distinct then distinctItems rowOf columns entries else entries)
      (if query.distinct then distinctItems rowOf' columns others else others) := by
    split
    · exact forall₂_keepFirst h (fun a b hab => rowKeyText_eq columns (hrow a b hab)) []
    · exact h
  have hpage {sorted : List α} {sorted' : List β} (hsorted : Forall₂ R sorted sorted') :
      Listing.Alike ⟨columns, (paginate query.offset query.limit sorted).map rowOf⟩
        ⟨columns, (paginate query.offset query.limit sorted').map rowOf'⟩ := by
    refine ⟨rfl, ?_⟩
    rw [List.forall₂_map_left_iff, List.forall₂_map_right_iff]
    exact (forall₂_paginate hsorted query.offset query.limit).imp hrow
  refine .ite Iff.rfl (.ok (hpage hkept)) ?_
  have hvalued := Ends.mapM hkept
    (f := fun entry => do return (entry, ← sortValues entry))
    (g := fun entry => do return (entry, ← sortValues' entry))
    (S := fun a b => R a.1 b.1 ∧ Forall₂ Value.Alike a.2 b.2) fun a b hab =>
      (hvalues a b hab).bind fun _ _ hboth => .ok ⟨hab, hboth⟩
  exact hvalued.bind fun _ _ hboth => (ends_sortItems _ hboth).bind fun _ _ hsorted =>
    .ok (hpage hsorted)

theorem ends_plainListing (query : Select) (scope : Scope) {rows rows' : List Row}
    (h : Forall₂ Row.Alike rows rows') :
    Ends Listing.Alike (query.plainListing scope rows) (query.plainListing scope rows') := by
  refine (Ends.of_eq rfl).bind ?_
  rintro plan _ rfl
  refine (Ends.of_eq rfl).bind ?_
  rintro keys _ rfl
  refine ends_shape query _ (R := fun a b => a.1.Alike b.1 ∧ a.2.Alike b.2) ?_
    (fun a b hab => hab.1) ?_
  · rw [List.forall₂_map_left_iff, List.forall₂_map_right_iff]
    refine h.imp fun source source' hsource => ⟨Row.alike_ofList ?_, hsource⟩
    rw [List.forall₂_map_left_iff, List.forall₂_map_right_iff]
    exact List.forall₂_same.2 fun item _ => ⟨rfl, hsource.get item.2⟩
  · rintro ⟨row, source⟩ ⟨row', source'⟩ ⟨hrow, hsource⟩
    exact Ends.mapM (List.forall₂_same.2 fun _ _ => rfl) fun key _ hkey =>
      hkey ▸ inStep_sortValue (scope.alike_leaves hsource) hrow key

end Sql.Select

/-! ## Groups -/

/-- Alike keys and alike rows. -/
structure Group.Alike (group other : Group) : Prop where
  keys : Forall₂ Value.Alike group.keys other.keys
  rows : Forall₂ Row.Alike group.rows other.rows

/-- Alike aggregates known under the same names. -/
def KnownAlike (known other : KnownAggregates) : Prop := Row.Alike ⟨known⟩ ⟨other⟩

/-- Groups of which alike aggregates are known are asked in lockstep, and alike ones are known of them
then. -/
def AskedAlike {α β : Type} (R : α → β → Prop) (x : InGroup α) (y : InGroup β) : Prop :=
  ∀ known other, KnownAlike known other →
    Ends (fun a b => R a.1 b.1 ∧ KnownAlike a.2 b.2) (x.run known) (y.run other)

instance : Lockstep InGroup where
  InStep := AskedAlike
  pure h _ _ hknown := .ok ⟨h, hknown⟩
  throw h _ _ _ := .error h
  bind hx hf known other hknown := (hx known other hknown).bind fun (_, _) (_, _) hboth =>
    hf _ _ hboth.1 _ _ hboth.2

/-- What does not ask what is known. -/
theorem inStep_liftM {α β : Type} {R : α → β → Prop} {x : Except Cause α} {y : Except Cause β}
    (h : Ends R x y) : InStep (m := InGroup) R (liftM x) (liftM y) := fun _ _ hknown =>
  h.bind fun _ _ hab => .ok ⟨hab, hknown⟩

namespace Grouping

variable {g : Grouping} {group other : Group} {rows rows' : List Row} {groups others : List Group}

theorem alike_keysOf (g : Grouping) {row row' : Row} (h : row.Alike row') :
    Forall₂ Value.Alike (g.keysOf row) (g.keysOf row') := by
  rw [keysOf, keysOf, List.forall₂_map_left_iff, List.forall₂_map_right_iff]
  exact List.forall₂_same.2 fun column _ => h.get column.key

theorem alike_addRow {keys keys' : List Value} (hkeys : Forall₂ Value.Alike keys keys')
    {row row' : Row} (hrow : row.Alike row') (h : Forall₂ Group.Alike groups others) :
    Forall₂ Group.Alike (addRow keys row groups) (addRow keys' row' others) := by
  have htexts {keys keys' : List Value} (h : Forall₂ Value.Alike keys keys') :
      keys.map Value.keyText = keys'.map Value.keyText := map_eq_map h fun _ _ hv => hv.keyText_eq
  induction h with
  | nil => exact .cons ⟨hkeys, .cons hrow .nil⟩ .nil
  | cons hgroup hrest ih =>
    rw [addRow, addRow, htexts hkeys, htexts hgroup.keys]
    split
    · exact .cons ⟨hgroup.keys, List.rel_append hgroup.rows (.cons hrow .nil)⟩ hrest
    · exact .cons hgroup ih

/-- **Alike rows form alike groups.** -/
theorem alike_groups (g : Grouping) (h : Forall₂ Row.Alike rows rows') :
    Forall₂ Group.Alike (g.groups rows) (g.groups rows') := by
  rw [Grouping.groups, Grouping.groups]
  split
  · exact .cons ⟨.nil, h⟩ .nil
  · exact List.rel_foldl (P := Forall₂ Group.Alike) (R := Row.Alike)
      (fun _ _ hgroups _ _ hrow => alike_addRow (g.alike_keysOf hrow) hrow hgroups) .nil h

/-! ### Asking -/

theorem ends_compute (g : Grouping) (h : group.Alike other) (call : AggregateCall) :
    Ends Value.Alike (g.compute group call) (g.compute other call) := by
  refine (Ends.of_eq rfl).bind fun _ _ _ => ?_
  cases call.argument with
  | none =>
    refine RelStore.ends_compute call ?_
    rw [List.forall₂_map_left_iff, List.forall₂_map_right_iff]
    exact h.rows.imp fun _ _ _ => .refl none
  | some ref =>
    refine (Ends.of_eq rfl).bind ?_
    rintro bound _ rfl
    refine RelStore.ends_compute call ?_
    rw [List.forall₂_map_left_iff, List.forall₂_map_right_iff]
    exact h.rows.imp fun _ _ hrow => hrow.get bound.key

theorem inStep_aggregate (g : Grouping) (h : group.Alike other) (call : AggregateCall) :
    InStep Value.Alike (g.aggregate group call) (g.aggregate other call) := by
  have hget : InStep (m := InGroup) KnownAlike get get := fun _ _ hknown => .ok ⟨hknown, hknown⟩
  refine bind hget fun known known' hknown => ?_
  have hfound := Row.Alike.get? hknown (Text.lower call.text)
  simp only [Row.get?] at hfound
  revert hfound
  generalize known.lookup (Text.lower call.text) = found,
    known'.lookup (Text.lower call.text) = found'
  rintro (hvalue | _)
  · exact pure hvalue
  · refine bind (inStep_liftM (g.ends_compute h call)) fun value value' hvalue => ?_
    have hadd : InStep (m := InGroup) (fun _ _ => True)
        (modify ((Text.lower call.text, value) :: ·))
        (modify ((Text.lower call.text, value') :: ·)) :=
      fun _ _ hknown => .ok ⟨trivial, .cons ⟨rfl, hvalue⟩ hknown⟩
    exact bind hadd fun _ _ _ => pure hvalue

theorem inStep_keyValue (g : Grouping) (h : group.Alike other) (ref : ColumnRef) :
    InStep Value.Alike (g.keyValue group ref) (g.keyValue other ref) := by
  refine bind (inStep_liftM (.of_eq rfl)) ?_
  rintro place _ rfl
  exact pure (alike_getD h.keys place)

theorem inStep_project (g : Grouping) (h : group.Alike other) (projection : Projection) :
    InStep Value.Alike (g.project group projection) (g.project other projection) := by
  cases projection with
  | star => exact throw (.refl _)
  | column ref _ => exact g.inStep_keyValue h ref
  | aggregate call _ => exact g.inStep_aggregate h call

theorem alike_leaves (g : Grouping) (h : group.Alike other) :
    (g.leaves group).Alike (g.leaves other) where
  column ref := by
    simp only [leaves]
    split
    · exact g.inStep_project h _
    · exact g.inStep_keyValue h ref
  aggregate := g.inStep_aggregate h

/-! ### Output -/

structure Entry.Alike (entry other : Entry) : Prop where
  row : entry.row.Alike other.row
  group : entry.group.Alike other.group
  known : KnownAlike entry.known other.known

theorem inStep_outputRow? (g : Grouping) (having : Option Expr) (columns : List String)
    (h : group.Alike other) : InStep (Option.Rel Row.Alike) (g.outputRow? having columns group)
      (g.outputRow? having columns other) := by
  refine bind (inStep_isSatisfied (g.alike_leaves h) having) ?_
  rintro holds _ rfl
  cases holds with
  | false => exact pure .none
  | true =>
    have hprojected : InStep (Forall₂ Value.Alike) (g.projections.mapM (g.project group))
        (g.projections.mapM (g.project other)) :=
      Lockstep.mapM (List.forall₂_same.2 fun _ _ => rfl) fun projection _ heq =>
        heq ▸ g.inStep_project h projection
    refine bind hprojected fun values values' hvalues => 
      pure (.some (Row.alike_ofList (alike_zip columns hvalues)))

theorem ends_entries (g : Grouping) (having : Option Expr) (columns : List String)
    (h : Forall₂ Group.Alike groups others) :
    Ends (Forall₂ Entry.Alike) (g.entries having columns groups)
      (g.entries having columns others) := by
  induction h with
  | nil => exact .ok .nil
  | cons hgroup _ ih =>
    refine (g.inStep_outputRow? having columns hgroup [] [] .nil).bind ?_
    rintro ⟨row?, known⟩ ⟨row'?, known'⟩ ⟨hrow, hknown⟩
    refine ih.bind fun rest rest' hrest => .ok ?_
    cases hrow with
    | none => exact hrest
    | some hrow => exact .cons ⟨hrow, hgroup, hknown⟩ hrest

end Grouping

namespace Sql.Select

variable {query : Select} {db other : Database}

theorem ends_groupedListing (query : Select) (scope : Scope) {rows rows' : List Row}
    (h : Forall₂ Row.Alike rows rows') :
    Ends Listing.Alike (query.groupedListing scope rows) (query.groupedListing scope rows') := by
  refine (Ends.of_eq rfl).bind ?_
  rintro g _ rfl
  refine (Ends.of_eq rfl).bind ?_
  rintro columns _ rfl
  refine (g.ends_entries query.having columns (g.alike_groups h)).bind fun entries others hentries => ?_
  refine (Ends.of_eq rfl).bind ?_
  rintro keys _ rfl
  refine ends_shape query columns hentries (fun _ _ hentry => hentry.row) fun entry entry' hentry => ?_
  have hvalues : InStep (Forall₂ Value.Alike)
      (keys.mapM (SortKey.value (g.leaves entry.group) entry.row))
      (keys.mapM (SortKey.value (g.leaves entry'.group) entry'.row)) :=
    Lockstep.mapM (List.forall₂_same.2 fun _ _ => rfl) fun key _ heq =>
      heq ▸ inStep_sortValue (g.alike_leaves hentry.group) hentry.row key
  exact (hvalues _ _ hentry.known).map fun _ _ hboth => hboth.1

/-- **A query has the same answer in matching databases.** -/
theorem ends_run (h : db.Matches other) (query : Select) :
    Ends Listing.Alike (query.run db) (query.run other) := by
  refine (ends_source h query).bind ?_
  rintro ⟨scope, rows⟩ ⟨_, rows'⟩ ⟨rfl, hrows⟩
  exact .ite Iff.rfl (ends_groupedListing query scope hrows) (ends_plainListing query scope hrows)

end Sql.Select

end RelStore
