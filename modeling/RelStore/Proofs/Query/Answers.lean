/-
What queries fail for.

The output columns of a query are of one family each, and so are its sort keys, so that sorting
never meets two values that are in no order (`failsForeseen_shape`). A query that is read from a
text is answered, or fails for a cause that statements can lead to (`failsForeseen_run`): neither an
aggregate nor the sort comes upon values of different types.
-/
import Mathlib
import RelStore.Proofs.Query.Groups
import RelStore.Proofs.Query.Scan

namespace RelStore

open Sql
open List (Forall₂)

/-! ## Queries of texts -/

/-- A query whose parts stand in a text. -/
structure Sql.Select.Spoken (query : Select) : Prop where
  projections : ∀ projection ∈ query.projections, projection.Plain
  join : ∀ join ∈ query.join, join.on.OfRows
  filter : ∀ e ∈ query.filter, e.OfRows
  having : ∀ e ∈ query.having, ∃ words, AllSpoken words ∧ Derives .having .expr words e
  orderBy : ∀ item ∈ query.orderBy, ∀ call, item.key = .aggregate call → call.Plain

namespace Sql

section

variable {α : Type} {item : List Word → α → Prop} {words : List Word}

/-- Words of a list are the words of its items. -/
theorem Listed.spoken {items : List α} (h : Listed item words items) (hwords : AllSpoken words) :
    Listed (fun words a => AllSpoken words ∧ item words a) words items := by
  induction h with
  | one h => exact .one ⟨hwords, h⟩
  | more h _ ih =>
    obtain ⟨hfirst, hrest⟩ := List.forall_mem_append.1 hwords
    exact .more ⟨hfirst, h⟩ (ih (List.forall_mem_cons.1 hrest).2)

theorem Optionally.spoken {a? : Option α} (h : Optionally item words a?) (hwords : AllSpoken words) :
    Optionally (fun words a => AllSpoken words ∧ item words a) words a? := by
  cases h with
  | absent => exact .absent
  | present h => exact .present ⟨hwords, h⟩

end

variable {words : List Word}

theorem IsProjection.plain {projection : Projection} (h : IsProjection words projection)
    (hwords : AllSpoken words) : projection.Plain := by
  cases h with
  | star => trivial
  | column _ _ => trivial
  | aggregate h _ => exact h.plain (List.forall_mem_append.1 hwords).1

/-- What is sorted by is spelled at the beginning of an item. -/
theorem IsOrderItem.exists_key {item : OrderItem} (h : IsOrderItem words item)
    (hwords : AllSpoken words) : ∃ words, IsOrderKey words item.key ∧ AllSpoken words := by
  cases h with
  | asc h named => exact ⟨_, h, (List.forall_mem_append.1 hwords).1⟩
  | desc h => exact ⟨_, h, (List.forall_mem_append.1 hwords).1⟩

theorem IsOrderBy.exists_key {items : List OrderItem} (h : IsOrderBy words items)
    (hwords : AllSpoken words) :
    ∀ item ∈ items, ∃ words, IsOrderKey words item.key ∧ AllSpoken words := by
  cases h with
  | absent => exact nofun
  | present h =>
    have hitems := (List.forall_mem_cons.1 (List.forall_mem_cons.1 hwords).2).2
    exact (h.spoken hitems).forall fun _ _ h => h.2.exists_key h.1

theorem IsOrderBy.plain {items : List OrderItem} (h : IsOrderBy words items) (hwords : AllSpoken words) :
    ∀ item ∈ items, ∀ call, item.key = .aggregate call → call.Plain := by
  intro item hitem call hcall
  obtain ⟨words, hkey, hwords⟩ := h.exists_key hwords item hitem
  rw [hcall] at hkey
  cases hkey with
  | aggregate h => exact h.plain hwords

theorem IsFilter.ofRows {e : Expr} (h : IsFilter words e) (hwords : AllSpoken words) : e.OfRows := by
  obtain ⟨h⟩ := h
  exact ⟨.filter, _, nofun, (List.forall_mem_cons.1 hwords).2, h⟩

theorem IsJoin.ofRows {join : Join} (h : IsJoin words join) (hwords : AllSpoken words) :
    join.on.OfRows := by
  obtain ⟨inner, table, h⟩ := h
  have hon := (List.forall_mem_append.1 hwords).2
  exact ⟨.on, _, nofun, fun word hword => hon word (by simp [hword]), h⟩

theorem IsSelect.spoken {query : Select} (h : IsSelect words query) (hwords : AllSpoken words) :
    query.Spoken := by
  obtain ⟨hprojections, hjoin, hfilter, hgroupBy, hhaving, horderBy, -⟩ := h
  obtain ⟨hprojectionWords, hrest⟩ :=
    List.forall_mem_append.1 (List.forall_mem_append.1 hwords).2
  obtain ⟨hjoinWords, hrest⟩ :=
    List.forall_mem_append.1 (List.forall_mem_cons.1 (List.forall_mem_cons.1 hrest).2).2
  obtain ⟨hfilterWords, hrest⟩ := List.forall_mem_append.1 hrest
  obtain ⟨-, hrest⟩ := List.forall_mem_append.1 hrest
  obtain ⟨hhavingWords, hrest⟩ := List.forall_mem_append.1 hrest
  obtain ⟨horderWords, -⟩ := List.forall_mem_append.1 hrest
  refine ⟨?_, ?_, ?_, ?_, ?_⟩
  · exact (hprojections.spoken hprojectionWords).forall fun _ _ h => h.2.plain h.1
  · exact (hjoin.spoken hjoinWords).forall fun _ _ h => h.2.ofRows h.1
  · exact (hfilter.spoken hfilterWords).forall fun _ _ h => h.2.ofRows h.1
  · refine (hhaving.spoken hhavingWords).forall ?_
    rintro _ _ ⟨hwords, ⟨h⟩⟩
    exact ⟨_, (List.forall_mem_cons.1 hwords).2, h⟩
  · exact horderBy.plain horderWords

end Sql

/-! ## Output -/

theorem Sql.Select.failsForeseen_shape {α : Type} (query : Select) (columns : List String)
    (rowOf : α → Row) {sortValues : α → Except Cause (List Value)} {entries : List α}
    (families : List Family) (h : ∀ entry ∈ entries, FailsForeseen (sortValues entry) ∧
      ∀ values, sortValues entry = .ok values → AllFit families values) :
    FailsForeseen (query.shape columns rowOf sortValues entries) := by
  -- DISTINCT only drops entries, so that what holds of all holds of those that are sorted
  have hkept : ∀ entry ∈ if query.distinct then distinctItems rowOf columns entries else entries,
      entry ∈ entries := by
    intro entry hentry
    split at hentry
    · exact (firstOfEach_keepFirst _ entries).sublist.subset hentry
    · exact hentry
  rw [shape]
  refine .ite (fun _ => .pure _) fun _ => ?_
  refine FailsOnly.bind (.mapM fun entry hentry => ?_) fun valued hvalued => ?_
  · exact (h entry (hkept entry hentry)).1.bind fun _ _ => .pure _
  · have hitems : ∀ item ∈ valued, AllFit families item.2 := by
      intro item hitem
      obtain ⟨entry, hentry, hvalue⟩ := exists_left_of_mem (mapM_eq_ok.1 hvalued) hitem
      obtain ⟨values, hvalues, hpair⟩ := bind_eq_ok.1 hvalue
      obtain rfl := pure_eq_ok.1 hpair
      exact (h entry (hkept entry hentry)).2 values hvalues
    obtain ⟨sorted, hsorted⟩ := exists_sortItems (query.orderBy.map (·.direction)) hitems
    rw [hsorted]
    exact .pure _

/-- The family of a sort key, by those of output columns, references and aggregates. -/
def SortKey.family (outputs : String → Family) (columns : ColumnRef → Family)
    (calls : AggregateCall → Family) : SortKey → Family
  | .output name => outputs name
  | .column ref => columns ref
  | .aggregate call => calls call

/-- A sort key is an output column, or what `bind` makes of the item. -/
theorem Sql.Select.sortKey_eq_ok {query : Select} {columns : List String}
    {bind : OrderKey → Except Cause SortKey} {item : OrderItem} {key : SortKey}
    (h : query.sortKey columns bind item = .ok key) :
    (∃ name, key = .output name) ∨ bind item.key = .ok key := by
  rw [sortKey] at h
  split at h
  · exact .inl ⟨_, (Except.ok.inj h).symm⟩
  · exact .inr h

theorem Sql.Select.failsForeseen_sortKey (query : Select) (columns : List String)
    {bind : OrderKey → Except Cause SortKey} {item : OrderItem} (h : FailsForeseen (bind item.key)) :
    FailsForeseen (query.sortKey columns bind item) := by
  rw [sortKey]
  split
  · exact .ok _
  · exact h

/-! ## Queries without groups -/

/-- The family of the column whose values rows have under a key. -/
def Scope.familyAt (scope : Scope) (key : String) : Family :=
  ((scope.columns.find? fun bound => bound.key == key).map fun bound =>
    bound.column.type.family).getD .number

theorem Scope.Typed.fits_get {scope : Scope} {row : Row} (h : scope.Typed row) {bound : BoundColumn}
    (hbound : bound ∈ scope.columns) : (row.get bound.key).Fits (scope.familyAt bound.key) := by
  cases hfound : scope.columns.find? fun other => other.key == bound.key with
  | none => exact absurd (BEq.refl bound.key) (List.find?_eq_none.1 hfound bound hbound)
  | some other =>
    have hkey : other.key = bound.key := by simpa using List.find?_some hfound
    rw [familyAt, hfound, ← hkey]
    exact h other (List.mem_of_find?_eq_some hfound)

theorem Scope.failsForeseen_outputName (scope : Scope) (ref : ColumnRef) :
    FailsForeseen (scope.outputName ref) := (scope.refuses_resolve ref).foreseen.map

namespace Sql.Select

variable {query : Select} {scope : Scope} {rows : List Row}

/-- A query without groups has no aggregates among its columns and sort keys. -/
theorem no_aggregates (h : query.isAggregated = false) :
    (∀ projection ∈ query.projections, ∀ call name?, projection ≠ .aggregate call name?) ∧
      ∀ item ∈ query.orderBy, ∀ call, item.key ≠ .aggregate call := by
  simp only [isAggregated, Bool.or_eq_false_iff, List.any_eq_false] at h
  obtain ⟨⟨-, hprojections⟩, horderBy⟩ := h
  refine ⟨?_, ?_⟩
  · rintro _ hprojection call name? rfl
    exact hprojections _ hprojection rfl
  · intro item hitem call hkey
    refine horderBy item hitem ?_
    rw [hkey]

theorem failsForeseen_plainColumns {projection : Projection}
    (h : ∀ call name?, projection ≠ .aggregate call name?) :
    FailsForeseen (plainColumns scope projection) := by
  cases projection with
  | star => exact .ok _
  | column ref name? =>
    have hshown (name : String) : FailsForeseen do
        return [(name, (← scope.resolve ref).key)] :=
      (scope.refuses_resolve ref).foreseen.bind fun _ _ => .pure _
    cases name? with
    | none => exact (scope.failsForeseen_outputName ref).bind fun name _ => hshown name
    | some name => exact hshown name
  | aggregate call name? => exact absurd rfl (h call name?)

/-- What output columns show is under the keys of columns. -/
theorem mem_plainColumns {projection : Projection} {fields : List (String × String)}
    (h : plainColumns scope projection = .ok fields) :
    ∀ field ∈ fields, ∃ bound ∈ scope.columns, bound.key = field.2 := by
  cases projection with
  | star =>
    obtain rfl := Except.ok.inj h
    intro field hfield
    obtain ⟨bound, hbound, rfl⟩ := List.mem_map.1 hfield
    exact ⟨bound, hbound, rfl⟩
  | column ref name? =>
    have hshown {name : String}
        (h : (do return [(name, (← scope.resolve ref).key)]) = Except.ok fields) :
        ∀ field ∈ fields, ∃ bound ∈ scope.columns, bound.key = field.2 := by
      obtain ⟨bound, hbound, h⟩ := bind_eq_ok.1 h
      obtain rfl := pure_eq_ok.1 h
      exact List.forall_mem_singleton.2 ⟨bound, Scope.mem_columns_of_resolve hbound, rfl⟩
    cases name? with
    | none =>
      obtain ⟨name, -, h⟩ := bind_eq_ok.1 h
      exact hshown h
    | some name => exact hshown h
  | aggregate call name? => cases h

/-- The output row of a source row. -/
def plainRow (plan : List (String × String)) (source : Row) : Row :=
  Row.ofList (plan.map fun (name, key) => (name, source.get key))

/-- The families of output rows. -/
def plainFamilies (scope : Scope) (plan : List (String × String)) : String → Family :=
  familiesOf ((plan.map (·.1)).zip (plan.map fun field => scope.familyAt field.2))

theorem fits_plainRow {plan : List (List (String × String))}
    (h : query.projections.mapM (plainColumns scope) = .ok plan) {source : Row}
    (hsource : scope.Typed source) :
    (plainRow plan.flatten source).Fits (plainFamilies scope plan.flatten) := by
  rw [plainRow, ← List.zip_map']
  refine Row.fits_ofList (List.forall₂_map_left_iff.2 (List.forall₂_map_right_iff.2
    (List.forall₂_same.2 fun field hfield => ?_)))
  obtain ⟨fields, hfields, hfield⟩ := List.mem_flatten.1 hfield
  obtain ⟨projection, -, hcolumns⟩ := exists_left_of_mem (mapM_eq_ok.1 h) hfields
  obtain ⟨bound, hbound, hkey⟩ := mem_plainColumns hcolumns field hfield
  rw [← hkey]
  exact hsource.fits_get hbound

/-- The value of a sort key that is a column of the source is of the family of the column. -/
theorem succeeds_sourceKey {item : OrderItem} {columns : List String} {key : SortKey}
    (hkey : query.sortKey columns (sourceKey scope) item = .ok key) {source row : Row}
    (hsource : scope.Typed source) {outputs : String → Family} (hrow : row.Fits outputs) :
    Succeeds (Value.Fits (key.family outputs scope.familyOf fun _ => .number))
      (key.value (scope.leaves source) row) := by
  rcases sortKey_eq_ok hkey with ⟨name, rfl⟩ | hkey
  · exact .pure (hrow name)
  · cases hitem : item.key with
    | aggregate call =>
      rw [hitem] at hkey
      cases hkey
    | column ref =>
      rw [hitem, sourceKey] at hkey
      obtain ⟨bound, hbound, rfl⟩ := map_eq_ok.1 hkey
      have hfits := hsource bound (Scope.mem_columns_of_resolve hbound)
      rw [← Scope.familyOf_eq hbound] at hfits
      simp only [SortKey.value, Scope.leaves, Scope.read, hbound]
      exact .ok hfits

theorem failsForeseen_plainListing (haggregated : query.isAggregated = false)
    (hrows : ∀ row ∈ rows, scope.Typed row) : FailsForeseen (query.plainListing scope rows) := by
  obtain ⟨hprojections, horderBy⟩ := no_aggregates haggregated
  refine FailsOnly.bind (.mapM fun projection hprojection =>
    failsForeseen_plainColumns (hprojections projection hprojection)) fun plan hplan => ?_
  refine FailsOnly.bind (.mapM fun item hitem => query.failsForeseen_sortKey _ ?_) fun keys hkeys => ?_
  · cases hkey : item.key with
    | column ref => exact (scope.refuses_resolve ref).foreseen.map
    | aggregate call => exact absurd hkey (horderBy item hitem call)
  refine query.failsForeseen_shape _ _ (keys.map (SortKey.family
    (plainFamilies scope plan.flatten) scope.familyOf fun _ => .number)) fun entry hentry => ?_
  obtain ⟨source, hsource, rfl⟩ := List.mem_map.1 hentry
  have hrow := fits_plainRow hplan (hrows source hsource)
  have hvalues : Succeeds _ (keys.mapM (SortKey.value (scope.leaves source) _)) :=
    Succeeds.mapM fun key hkey =>
      let ⟨item, _, hbound⟩ := exists_left_of_mem (mapM_eq_ok.1 hkeys) hkey
      succeeds_sourceKey hbound (hrows source hsource) hrow
  exact ⟨hvalues.failsOnly, fun values h => List.forall₂_map_left_iff.2 (hvalues.of_eq_ok h)⟩

/-! ## Queries with groups -/

variable {g : Grouping}

theorem failsForeseen_ofSelect (query : Select) (scope : Scope) :
    FailsForeseen (Grouping.ofSelect scope query) := by
  refine FailsOnly.bind (.mapM fun ref _ => (scope.refuses_resolve ref).foreseen) fun columns _ => ?_
  refine FailsOnly.bind (.forM fun projection _ => ?_) fun _ _ => .pure _
  cases projection with
  | star => exact .error rfl
  | column ref name? => exact (Grouping.failsForeseen_position _ ref).map
  | aggregate call name? => exact Grouping.failsForeseen_checkCall _ call

theorem failsForeseen_groupOutputName (projection : Projection) :
    FailsForeseen (g.outputName projection) := by
  rcases projection with _ | ⟨ref, _ | name⟩ | ⟨call, name?⟩
  · exact .error rfl
  · exact g.scope.failsForeseen_outputName ref
  · exact .ok _
  · exact .ok _

/-- What a sort key of groups can be. -/
theorem plain_of_groupKey {item : OrderItem} {key : SortKey}
    (hplain : ∀ call, item.key = .aggregate call → call.Plain) (h : groupKey g item.key = .ok key) :
    ∀ call, key = .aggregate call → call.Plain := by
  rintro call rfl
  cases hitem : item.key with
  | column ref =>
    rw [hitem] at h
    obtain ⟨_, -, h⟩ := map_eq_ok.1 h
    cases h
  | aggregate other =>
    rw [hitem] at h
    obtain ⟨_, -, h⟩ := map_eq_ok.1 h
    obtain rfl := SortKey.aggregate.inj h
    exact hplain other hitem

/-- What is sorted by of groups is a plain call, if it is one. -/
theorem Spoken.plain_of_mem_keys (h : query.Spoken) {columns : List String}
    {keys : List SortKey} (hkeys : query.orderBy.mapM (query.sortKey columns (groupKey g)) = .ok keys) :
    ∀ key ∈ keys, ∀ call, key = .aggregate call → call.Plain := by
  intro key hkey
  obtain ⟨item, hitem, hkey⟩ := exists_left_of_mem (mapM_eq_ok.1 hkeys) hkey
  rcases sortKey_eq_ok hkey with ⟨name, rfl⟩ | hkey
  · exact nofun
  · exact plain_of_groupKey (h.orderBy item hitem) hkey

theorem failsForeseen_groupedListing (h : query.Spoken) (hrows : ∀ row ∈ rows, scope.Typed row) :
    FailsForeseen (query.groupedListing scope rows) := by
  refine (query.failsForeseen_ofSelect scope).bind fun g hg => ?_
  obtain ⟨rfl, hprojections, hcolumns⟩ := Grouping.ofSelect_eq_ok hg
  have hplain : ∀ projection ∈ g.projections, projection.Plain := hprojections ▸ h.projections
  have hgroups : ∀ group ∈ g.groups rows, g.Typed group :=
    Grouping.typed_groups (fun bound hbound => by
      obtain ⟨ref, -, href⟩ := exists_left_of_mem hcolumns hbound
      exact Scope.mem_columns_of_resolve href) hrows
  refine FailsOnly.bind (.mapM fun projection _ => failsForeseen_groupOutputName projection)
    fun columns _ => ?_
  obtain ⟨hfails, htyped⟩ := Grouping.entries_typed hplain h.having columns hgroups
  refine hfails.bind fun entries hentries => ?_
  refine FailsOnly.bind (.mapM fun item hitem => query.failsForeseen_sortKey _ ?_) fun keys hkeys => ?_
  · cases item.key with
    | column ref => exact (g.failsForeseen_position ref).map
    | aggregate call => exact (g.failsForeseen_checkCall call).map
  have hcalls := h.plain_of_mem_keys hkeys
  have hvalue {entry : Grouping.Entry} (hentry : g.TypedEntry columns entry) : ∀ key ∈ keys,
      RunsForeseen g.Remembers (key.value (g.leaves entry.group) entry.row)
        (Value.Fits (key.family (g.outputFamilies columns) g.leafFamily g.callFamily)) := by
    intro key hkey
    cases key with
    | output name => exact .pure (hentry.row name)
    | column ref => exact Grouping.runs_column hentry.group hplain ref
    | aggregate call => exact Grouping.runs_aggregate hentry.group (hcalls _ hkey call rfl)
  -- sorting asks each group again, with what is remembered of it from its output row
  refine query.failsForeseen_shape _ _ (keys.map (SortKey.family (g.outputFamilies columns)
    g.leafFamily g.callFamily)) fun entry hentry => ?_
  have hentryTyped := htyped entries hentries entry hentry
  obtain ⟨hrunFails, hrunGives⟩ := Runs.mapM (hvalue hentryTyped) entry.known hentryTyped.known
  refine ⟨hrunFails.fmap, fun values hvalues => ?_⟩
  obtain ⟨⟨_, known⟩, hrun, rfl⟩ := map_eq_ok.1 hvalues
  exact List.forall₂_map_left_iff.2 (hrunGives _ _ hrun).1

/-! ## Answers -/

/-- **A query that is read from a text is answered, or fails for a cause that is foreseen.** -/
theorem failsForeseen_run {db : Database} (hdb : db.Built) (h : query.Spoken) :
    FailsForeseen (query.run db) := by
  refine (query.refuses_source db h.join h.filter).foreseen.bind fun ⟨scope, rows⟩ hsource => ?_
  have hrows : ∀ row ∈ rows, scope.Typed row :=
    fun row hrow => (hasRow_of_source hdb hsource row hrow).typed hdb
  cases haggregated : query.isAggregated with
  | true => simpa only [haggregated, if_true] using failsForeseen_groupedListing h hrows
  | false =>
    simpa only [haggregated, Bool.false_eq_true, if_false] using
      failsForeseen_plainListing haggregated hrows

end Sql.Select

theorem Sql.Statement.Stated.spoken {query : Select} (h : Statement.Stated (.select query)) :
    query.Spoken := by
  obtain ⟨words, hwords, hstatement⟩ := h
  cases hstatement with
  | select h => exact h.spoken (List.forall_mem_cons.1 hwords).2

end RelStore
