/-
ORDER BY an aggregate.

An aggregate in ORDER BY is looked up by name: it goes by the heading of the first output column with
the same call, and stands for the first output column that has this heading in any letter case, of
which the row has the value that was set last (`Grouping.sortValue`). Whichever value this is, output
rows are those of the groups that pass HAVING, in the stable order of it, since all groups have values
of one family there, and none is `nan` (`KeepsRows.listsBy`).

So the rows are in the order of the aggregate as long as no other output column has that heading
(`Unshared`), which is always so if the heading is the text of a call (`unshared_of_text`). An alias may
be shared with another column, and then the rows are in the order of that column
(`not_ordersByAggregate_books`).
-/
import RelStore.Proofs.Query.Counting
import RelStore.Proofs.Query.Finite
import RelStore.Proofs.Query.Names
import RelStore.Proofs.Sorting.Keys

namespace RelStore

open Sql
open List (Forall₂)
open SortBy (SortedStably)
open Text (sameName)

/-! ## Sorted rows -/

namespace Sql.Select.KeepsRows

variable {query : Select} {α : Type} {columns : List String} {rowOf : α → Row}
  {sortValues : α → Except Cause (List Value)} {entries : List α} {listing : Listing}

/-- What is sorted has its values. -/
theorem exists_values (h : query.KeepsRows) (horder : query.orderBy ≠ [])
    (hshape : query.shape columns rowOf sortValues entries = .ok listing) :
    ∀ entry ∈ entries, ∃ values, sortValues entry = .ok values := by
  simp only [shape, h.distinct, Bool.false_eq_true, if_false] at hshape
  rw [if_neg (by simpa using horder)] at hshape
  obtain ⟨valued, hvalued, -⟩ := bind_eq_ok.1 hshape
  intro entry hentry
  obtain ⟨_, -, hitem⟩ := exists_right_of_mem (mapM_eq_ok.1 hvalued) hentry
  obtain ⟨values, hvalues, -⟩ := bind_eq_ok.1 hitem
  exact ⟨values, hvalues⟩

/-- Entries that have values to be sorted by are sorted. -/
theorem exists_shape (h : query.KeepsRows) (columns : List String) (rowOf : α → Row)
    (horder : query.orderBy ≠ []) (keys : List (SortBy α))
    (hkeys : keys.map (·.direction) = query.orderBy.map (·.direction))
    (hvalues : ∀ entry ∈ entries, sortValues entry = .ok (SortBy.values keys entry))
    (hadmits : SortBy.Admits keys entries) :
    ∃ sorted, SortedStably keys entries sorted ∧
      query.shape columns rowOf sortValues entries = .ok ⟨columns, sorted.map (rowOf ·.1)⟩ := by
  obtain ⟨sorted, hsorted, hitems⟩ := SortBy.exists_sortedStably hadmits
  have hvalued : (entries.mapM fun entry => return (entry, ← sortValues entry)) =
      Except.ok (entries.map fun entry => (entry, SortBy.values keys entry)) := by
    refine mapM_eq_ok.2 (List.forall₂_map_right_iff.2 (List.forall₂_same.2 fun entry hentry => ?_))
    rw [hvalues entry hentry]
    rfl
  refine ⟨sorted, hsorted, ?_⟩
  simp only [shape, h.distinct, h.limit, h.offset, Bool.false_eq_true, if_false, paginate_none]
  rw [if_neg (by simpa using horder), ← hkeys]
  refine bind_eq_ok.2 ⟨_, hvalued, bind_eq_ok.2 ⟨_, hitems, ?_⟩⟩
  rw [List.map_map]
  rfl

/-- What is sorted is in the order of its values. -/
theorem exists_sorted (h : query.KeepsRows) (horder : query.orderBy ≠ [])
    (hshape : query.shape columns rowOf sortValues entries = .ok listing) (keys : List (SortBy α))
    (hkeys : keys.map (·.direction) = query.orderBy.map (·.direction))
    (hvalues : ∀ entry ∈ entries, sortValues entry = .ok (SortBy.values keys entry))
    (hadmits : SortBy.Admits keys entries) :
    ∃ sorted, SortedStably keys entries sorted ∧ listing = ⟨columns, sorted.map (rowOf ·.1)⟩ := by
  obtain ⟨sorted, hsorted, hlisting⟩ :=
    h.exists_shape columns rowOf horder keys hkeys hvalues hadmits
  exact ⟨sorted, hsorted, Except.ok.inj (hshape.symm.trans hlisting)⟩

end Sql.Select.KeepsRows

/-! ## What is sorted by -/

namespace Grouping

/-- The value of a group that an aggregate in ORDER BY stands for. -/
def sortValue (g : Grouping) (query : Select) (columns : List String) (call : AggregateCall)
    (group : Group) : Except Cause Value :=
  match Select.outputColumn? columns (query.keyName (.aggregate call)) with
  | some heading => (g.shownRow columns group).map (·.get heading)
  | none => g.compute group call

/-- The rows of a listing are those of groups, in the stable order of a value that groups have. -/
def ListsBy (g : Grouping) (direction : Direction) (value : Group → Except Cause Value)
    (groups : List Group) (listing : Listing) : Prop :=
  ∃ (valueOf : Group → Value) (sorted : List (Group × Nat)),
    (∀ group ∈ groups, value group = .ok (valueOf group)) ∧
    SortedStably [⟨direction, valueOf⟩] groups sorted ∧
    Forall₂ (fun placed row => g.shownRow listing.columns placed.1 = .ok row) sorted listing.rows

theorem ListsBy.congr {g : Grouping} {direction : Direction} {value other : Group → Except Cause Value}
    {groups : List Group} {listing : Listing} (h : g.ListsBy direction value groups listing)
    (hvalue : ∀ group ∈ groups, ∀ v, value group = .ok v → other group = .ok v) :
    g.ListsBy direction other groups listing := by
  obtain ⟨valueOf, sorted, hvalues, hsorted, hrows⟩ := h
  exact ⟨valueOf, sorted, fun group hgroup => hvalue group hgroup _ (hvalues group hgroup), hsorted, hrows⟩

variable {g : Grouping} {query : Select} {columns : List String} {call : AggregateCall} {group : Group}

/-- What a group with its memory is sorted by is what the aggregate stands for. -/
theorem exists_sortValue {direction : Direction} {key : SortKey} (hcall : call.Plain)
    (hkey : query.sortKey columns (Select.groupKey g) ⟨.aggregate call, direction⟩ = .ok key) {row : Row}
    (hrow : g.shownRow columns group = .ok row) {known : KnownAggregates} (hknown : g.Recalls group known)
    {values : List Value}
    (hvalues : ([key].mapM (SortKey.value (g.leaves group) row)).run' known = .ok values) :
    ∃ v, values = [v] ∧ g.sortValue query columns call group = .ok v := by
  have hvalue : Mirrors (g.Recalls group) (SortKey.value (g.leaves group) row key)
      (g.sortValue query columns call group) := by
    rw [Select.sortKey] at hkey
    rw [sortValue]
    split at hkey
    next heading hheading =>
      obtain rfl := Except.ok.inj hkey
      rw [hheading, hrow]
      exact .pure _
    next hheading =>
      obtain ⟨_, -, rfl⟩ := map_eq_ok.1 hkey
      rw [hheading]
      exact mirrors_aggregate hcall
  have hall := (Mirrors.mapM (k := fun _ => g.sortValue query columns call group)
    (List.forall_mem_singleton.2 hvalue)).run'_eq hknown
  obtain _ | @⟨_, v, _, _, hv, hrest⟩ := mapM_eq_ok.1 (hall.symm.trans hvalues)
  cases hrest
  exact ⟨v, rfl, hv⟩

/-- The values that an aggregate stands for can be sorted by. -/
theorem exists_orderly {entries : List Entry} (hentries : ∀ entry ∈ entries,
      g.TypedEntry columns entry ∧ g.Finite entry.group ∧ g.shownRow columns entry.group = .ok entry.row) :
    ∃ family, ∀ entry ∈ entries, ∀ v, g.sortValue query columns call entry.group = .ok v →
      v.Orderly family := by
  simp only [sortValue]
  cases Select.outputColumn? columns (query.keyName (.aggregate call)) with
  | some heading =>
    refine ⟨g.outputFamilies columns heading, fun entry hentry v hv => ?_⟩
    obtain ⟨htyped, hfinite, hrow⟩ := hentries entry hentry
    obtain ⟨_, hsame, rfl⟩ := map_eq_ok.1 hv
    obtain rfl := Except.ok.inj (hrow.symm.trans hsame)
    exact ⟨htyped.row heading, hfinite.get_shownRow_ne_nan hrow heading⟩
  | none =>
    refine ⟨g.callFamily call, fun entry hentry v hv => ?_⟩
    obtain ⟨htyped, hfinite, -⟩ := hentries entry hentry
    obtain ⟨_, hcheck, -⟩ := bind_eq_ok.1 hv
    exact ⟨(succeeds_compute htyped.group hcheck).of_eq_ok hv, hfinite.compute_ne_nan hv⟩

end Grouping

/-! ## Groups in order -/

namespace Sql.Select.KeepsRows

variable {query : Select} {call : AggregateCall} {direction : Direction} {listing : Listing}

/-- Each group that is shown has one value to be sorted by, which its memory does not change. -/
theorem exists_valueOf (h : query.KeepsRows) (hcall : call.Plain)
    (horder : query.orderBy = [⟨.aggregate call, direction⟩]) {g : Grouping} {columns : List String}
    {key : SortKey}
    (hkey : query.sortKey columns (groupKey g) ⟨.aggregate call, direction⟩ = .ok key)
    {entries : List Grouping.Entry}
    (hentry : ∀ entry ∈ entries,
      g.Recalls entry.group entry.known ∧ g.shownRow columns entry.group = .ok entry.row)
    (hshape : query.shape columns (·.row) (fun entry => ([key].mapM
      (SortKey.value (g.leaves entry.group) entry.row)).run' entry.known) entries = .ok listing) :
    ∃ valueOf : Group → Value, ∀ entry ∈ entries,
      ([key].mapM (SortKey.value (g.leaves entry.group) entry.row)).run' entry.known =
          .ok [valueOf entry.group] ∧
        g.sortValue query columns call entry.group = .ok (valueOf entry.group) := by
  have hvalue : ∀ entry ∈ entries, ∃ v, ([key].mapM (SortKey.value (g.leaves entry.group)
      entry.row)).run' entry.known = .ok [v] ∧ g.sortValue query columns call entry.group = .ok v := by
    intro entry he
    obtain ⟨hknown, hrow⟩ := hentry entry he
    obtain ⟨values, hvalues⟩ := h.exists_values (by simp [horder]) hshape entry he
    obtain ⟨v, rfl, hv⟩ := Grouping.exists_sortValue hcall hkey hrow hknown hvalues
    exact ⟨v, hvalues, hv⟩
  -- the value is one of the group, so that it can be told from the group alone
  have hgroup : ∀ group ∈ entries.map (·.group), ∃ v, g.sortValue query columns call group = .ok v :=
    List.forall_mem_map.2 fun entry he => (hvalue entry he).imp fun _ => And.right
  choose! valueOf hvalueOf using hgroup
  refine ⟨valueOf, fun entry he => ?_⟩
  have hof := hvalueOf entry.group (List.mem_map_of_mem he)
  obtain ⟨v, hvalues, hv⟩ := hvalue entry he
  obtain rfl := Except.ok.inj (hv.symm.trans hof)
  exact ⟨hvalues, hof⟩

/-- The rows are those of the groups that pass HAVING, in the order of what the aggregate in ORDER BY
stands for. -/
theorem listsBy (h : query.KeepsRows) (hspoken : query.Spoken)
    (horder : query.orderBy = [⟨.aggregate call, direction⟩]) {scope : Scope} {rows : List Row}
    (htyped : ∀ row ∈ rows, scope.Typed row) (hfinite : ∀ row ∈ rows, scope.Finite row)
    (hlisting : query.groupedListing scope rows = .ok listing) :
    ∃ g, Grouping.ofSelect scope query = .ok g ∧ g.projections.mapM g.outputName = .ok listing.columns ∧
      g.ListsBy direction (g.sortValue query listing.columns call)
        ((g.groups rows).filter (g.Passes query.having)) listing := by
  obtain ⟨g, hg, hlisting⟩ := bind_eq_ok.1 hlisting
  obtain ⟨columns, hnames, hlisting⟩ := bind_eq_ok.1 hlisting
  obtain ⟨entries, hentries, hlisting⟩ := bind_eq_ok.1 hlisting
  obtain ⟨keys, hkeys, hshape⟩ := bind_eq_ok.1 hlisting
  obtain ⟨rfl, hprojections, hcolumns⟩ := Grouping.ofSelect_eq_ok hg
  have hplain : ∀ projection ∈ g.projections, projection.Plain := hprojections ▸ hspoken.projections
  have hbound : ∀ bound ∈ g.columns, bound ∈ g.scope.columns := fun bound hbound => by
    obtain ⟨ref, -, href⟩ := exists_left_of_mem hcolumns hbound
    exact Scope.mem_columns_of_resolve href
  have hcall : call.Plain := hspoken.orderBy ⟨.aggregate call, direction⟩ (by simp [horder]) call rfl
  rw [horder] at hkeys
  obtain _ | @⟨_, key, _, _, hkey, hnil⟩ := mapM_eq_ok.1 hkeys
  cases hnil
  obtain ⟨hgroups, hentry⟩ := Grouping.recalls_entries hplain hspoken.having hentries
  obtain ⟨valueOf, hvalueOf⟩ := h.exists_valueOf hcall horder hkey hentry hshape
  have hsortable : ∀ entry ∈ entries, g.TypedEntry columns entry ∧ g.Finite entry.group ∧
      g.shownRow columns entry.group = .ok entry.row := fun entry he =>
    ⟨(Grouping.entries_typed hplain hspoken.having columns
        (Grouping.typed_groups hbound htyped)).2 entries hentries entry he,
      Grouping.finite_groups hbound hfinite _ (Grouping.of_mem_entries hentries he).1, (hentry entry he).2⟩
  obtain ⟨family, hfamily⟩ := Grouping.exists_orderly hsortable
  let keys : List (SortBy Grouping.Entry) := [⟨direction, valueOf⟩].map (SortBy.along (·.group))
  have hadmits : SortBy.Admits keys entries :=
    List.forall_mem_singleton.2 ⟨family, fun entry he => hfamily entry he _ (hvalueOf entry he).2⟩
  obtain ⟨sorted, hsorted, rfl⟩ := h.exists_sorted (by simp [horder]) hshape keys (by rw [horder]; rfl)
    (fun entry he => (hvalueOf entry he).1) hadmits
  have hvalue : ∀ group ∈ entries.map (·.group),
      g.sortValue query columns call group = .ok (valueOf group) :=
    List.forall_mem_map.2 fun entry he => (hvalueOf entry he).2
  refine ⟨g, hg, hnames, valueOf, _, hgroups ▸ hvalue, hgroups ▸ hsorted.map, ?_⟩
  rw [List.forall₂_map_left_iff, List.forall₂_map_right_iff]
  refine List.forall₂_same.2 fun placed hplaced => ?_
  exact (hentry placed.1 (List.fst_mem_of_mem_zipIdx (hsorted.perm.subset hplaced))).2

end Sql.Select.KeepsRows

/-! ## Shared headings -/

/-- What two lists have side by side, they have from one item. -/
theorem exists_of_mem_zip {α β γ : Type} {R : γ → α → Prop} {S : γ → β → Prop} {items : List γ}
    {as : List α} {bs : List β} (has : Forall₂ R items as) (hbs : Forall₂ S items bs) {pair : α × β}
    (h : pair ∈ as.zip bs) : ∃ item ∈ items, R item pair.1 ∧ S item pair.2 := by
  induction has generalizing bs with
  | nil => cases h
  | cons ha _ ih =>
    cases hbs with
    | cons hb hbs =>
      rcases List.mem_cons.1 h with rfl | h
      · exact ⟨_, List.mem_cons_self, ha, hb⟩
      · obtain ⟨item, hitem, hboth⟩ := ih hbs h
        exact ⟨item, List.mem_cons_of_mem _ hitem, hboth⟩

namespace Sql.Select

variable {query : Select} {g : Grouping} {call : AggregateCall}

/-- The output columns that have the heading which an aggregate in ORDER BY goes by, in any letter case,
have the same call. -/
def Unshared (query : Select) (g : Grouping) (call : AggregateCall) : Prop :=
  ∀ projection ∈ g.projections, ∀ heading, g.outputName projection = .ok heading →
    sameName heading (query.keyName (.aggregate call)) = true →
      ∃ other name?, projection = .aggregate other name? ∧ sameName other.text call.text = true

/-- An aggregate that goes by a heading of its own stands for itself. -/
theorem Unshared.compute_eq_ok (h : query.Unshared g call) (hcall : call.Plain)
    (hplain : ∀ projection ∈ g.projections, projection.Plain) {columns : List String}
    (hcolumns : g.projections.mapM g.outputName = .ok columns) {group : Group} {v : Value}
    (hv : g.sortValue query columns call group = .ok v) : g.compute group call = .ok v := by
  rw [Grouping.sortValue] at hv
  split at hv
  next heading hheading =>
    have hsame := List.find?_some hheading
    obtain ⟨_, hrow, rfl⟩ := map_eq_ok.1 hv
    obtain ⟨values, hvalues, rfl⟩ := map_eq_ok.1 hrow
    have hfields : ∀ field ∈ columns.zip values, field.1 = heading →
        g.compute group call = .ok field.2 := by
      rintro field hfield rfl
      obtain ⟨projection, hprojection, hname, hshown⟩ :=
        exists_of_mem_zip (mapM_eq_ok.1 hcolumns) (mapM_eq_ok.1 hvalues) hfield
      obtain ⟨other, name?, rfl, hother⟩ := h projection hprojection _ hname hsame
      have hfolded := (hplain _ hprojection : other.Plain).folded_eq hcall (sameName_iff.1 hother)
      exact Grouping.compute_eq_ok_of_folded hfolded hshown
    have hlength : columns.length ≤ values.length :=
      ((mapM_eq_ok.1 hcolumns).length_eq.symm.trans (mapM_eq_ok.1 hvalues).length_eq).le
    obtain ⟨field, hfield, rfl⟩ : ∃ field ∈ columns.zip values, field.1 = heading := by
      have hmem := List.mem_of_find?_eq_some hheading
      rw [← List.map_fst_zip hlength] at hmem
      exact List.mem_map.1 hmem
    -- columns under one heading have one value, since it is the aggregate in each
    have hget : (Row.ofList ((columns.zip values).map fun field => (field.1, field.2))).get? field.1 =
        some field.2 := Row.get?_ofList hfield fun other hother hsame =>
      Except.ok.inj ((hfields other hother hsame).symm.trans (hfields field hfield rfl))
    rw [List.map_id'] at hget
    rw [hfields field hfield rfl, Row.get, hget, Option.getD_some]
  next => exact hv

/-- No other column has the text of a call for its heading. -/
theorem unshared_of_text (hscope : g.scope.Named) (hcall : call.Plain)
    (haliases : ∀ projection ∈ g.projections, ∀ name ∈ projection.alias?, OfWordChars name)
    (htext : sameName (query.keyName (.aggregate call)) call.text = true) : query.Unshared g call := by
  intro projection hprojection heading hheading hsame
  have hcallText : sameName heading call.text = true :=
    sameName_iff.2 ((sameName_iff.1 hsame).trans (sameName_iff.1 htext))
  by_cases hbare : ∃ other, projection = .aggregate other none
  · obtain ⟨other, rfl⟩ := hbare
    obtain rfl := Except.ok.inj hheading
    exact ⟨other, none, rfl, hcallText⟩
  · have hcolumn : IsColumnText heading := Grouping.isColumnText_outputName hscope
      (haliases projection hprojection) (fun other heq => hbare ⟨other, heq⟩) hheading
    exact absurd hcallText (Bool.eq_false_iff.1 (not_sameName_text hcolumn hcall))

end Sql.Select

/-! ## Queries -/

/-- **ORDER BY an aggregate sorts by what the aggregate stands for**, in every database that texts lead
to. For a query that is read from a text and answered, with neither DISTINCT nor paging, the output rows
are those of the groups that pass HAVING, in the stable order of the value that the aggregate stands
for. This is the aggregate over the rows of the group if only columns with its call have the heading
that it goes by, and so it is if the heading is the text of the call. -/
theorem Catalog.Reached.ordersByAggregate {catalog : Catalog} (h : catalog.Reached) {db : Database}
    (hdb : db ∈ catalog.databases) {sql : String} {query : Select}
    (hread : parse sql = .ok (.select query) ∨
      ∃ read, parseScript sql = .ok read ∧ .select query ∈ read)
    (hkeeps : query.KeepsRows) {call : AggregateCall} {direction : Direction}
    (horder : query.orderBy = [⟨.aggregate call, direction⟩]) {listing : Listing}
    (hrun : query.run db = .ok listing) :
    ∃ table rows g passing, db.table? query.table = some table ∧
      rows = (table.rows.filter fun stored =>
        table.scope.satisfies query.filter stored.row = .ok true).map (·.row) ∧
      Grouping.ofSelect table.scope query = .ok g ∧
      passing = (g.groups rows).filter (g.Passes query.having) ∧
      g.ListsBy direction (g.sortValue query listing.columns call) passing listing ∧
      (query.Unshared g call → g.ListsBy direction (g.compute · call) passing listing) ∧
      (sameName (query.keyName (.aggregate call)) call.text = true → query.Unshared g call) := by
  have hbuilt := h.built.databases db hdb
  have hstated := stated_of_read hread
  have hspoken := hstated.spoken
  have haggregated : query.isAggregated = true := by simp [Select.isAggregated, horder]
  obtain ⟨⟨scope, rows⟩, hsource, hrun⟩ := bind_eq_ok.1 hrun
  simp only [haggregated, if_true] at hrun
  have hscope := Select.named_of_scope? hbuilt (Select.scope_of_source hsource)
  obtain ⟨-, table, htable, hreached, rfl, hfiltered⟩ :=
    Grouping.exists_reached_of_source hbuilt haggregated hsource
  have hrows : ∀ row ∈ rows, table.scope.Typed row ∧ table.scope.Finite row := by
    rw [hfiltered, List.forall_mem_map]
    intro stored hstored
    have hmem := (List.mem_filter.1 hstored).1
    exact ⟨hreached.invariant.typed hmem, hreached.invariant.finite hmem⟩
  obtain ⟨g, hg, hcolumns, hlists⟩ := hkeeps.listsBy hspoken horder (fun row hrow => (hrows row hrow).1)
    (fun row hrow => (hrows row hrow).2) hrun
  obtain ⟨hsame, hprojections, -⟩ := Grouping.ofSelect_eq_ok hg
  have hcall : call.Plain := hspoken.orderBy ⟨.aggregate call, direction⟩ (by simp [horder]) call rfl
  refine ⟨table, rows, g, _, htable, hfiltered, hg, rfl, hlists, fun hunshared => ?_, fun htext => ?_⟩
  · exact hlists.congr fun group _ v hv =>
      hunshared.compute_eq_ok hcall (hprojections ▸ hspoken.projections) hcolumns hv
  · exact Select.unshared_of_text (hsame ▸ hscope) hcall (hprojections ▸ hstated.worded.aliases) htext

/-! ## Books in order -/

/-- The titles, those with an author first. -/
def byAuthors (projections : List Projection) : Select where
  distinct := false
  projections := projections
  table := "books"
  join := none
  filter := none
  groupBy := [⟨none, "title"⟩]
  having := none
  orderBy := [⟨.aggregate ⟨.count, some ⟨none, "author"⟩⟩, .desc⟩]
  limit := none
  offset := none

/-- The grouping of books by their titles. -/
def byTitle (projections : List Projection) : Grouping :=
  ⟨books.scope, projections, [⟨"title", "books", ⟨"title", .string, true, false, none⟩⟩]⟩

def beowulfGroup : Group := ⟨[.ofText "Beowulf"], [⟨[("title", .ofText "Beowulf"), ("author", none)]⟩]⟩

def emmaGroup : Group := ⟨[.ofText "Emma"], [⟨[("title", .ofText "Emma"), ("author", .ofNat 7)]⟩]⟩

theorem ordersByAggregate_books :
    let counted : AggregateCall := ⟨.count, some ⟨none, "author"⟩⟩
    let projections : List Projection := [.column ⟨none, "title"⟩ none, .aggregate counted (some "n")]
    let listing : Listing := ⟨["title", "n"], [⟨[("title", .ofText "Emma"), ("n", .ofNat 1)]⟩,
      ⟨[("title", .ofText "Beowulf"), ("n", .ofNat 0)]⟩]⟩
    parse "SELECT title, COUNT(author) AS n FROM books GROUP BY title ORDER BY COUNT(author) DESC" =
        .ok (.select (byAuthors projections)) ∧
      (byAuthors projections).run ⟨"shop", [authors, books]⟩ = .ok listing ∧
      (byAuthors projections).Unshared (byTitle projections) counted ∧
      (byTitle projections).ListsBy .desc ((byTitle projections).compute · counted)
        [beowulfGroup, emmaGroup] listing := by
  intro counted projections listing
  have hparse : parse
      "SELECT title, COUNT(author) AS n FROM books GROUP BY title ORDER BY COUNT(author) DESC" =
      .ok (.select (byAuthors projections)) := by cbv
  have hrun : (byAuthors projections).run ⟨"shop", [authors, books]⟩ = .ok listing := by decide +kernel
  have hunshared : (byAuthors projections).Unshared (byTitle projections) counted := by
    refine List.forall_mem_cons.2 ⟨fun heading hheading hsame => ?_,
      List.forall_mem_singleton.2 fun _ _ _ => ⟨counted, some "n", rfl, by decide⟩⟩
    obtain rfl : "title" = heading := Except.ok.inj hheading
    exact absurd hsame (by decide)
  obtain ⟨table, rows, g, passing, htable, rfl, hg, rfl, -, hlists, -⟩ :=
    reached_shop.ordersByAggregate (List.mem_singleton_self _) (.inl hparse) ⟨rfl, rfl, rfl⟩ rfl hrun
  have hbooks : (Database.mk "shop" [authors, books]).table? "books" = some books := by decide +kernel
  obtain rfl : books = table := Option.some.inj (hbooks.symm.trans htable)
  obtain rfl : byTitle projections = g := Except.ok.inj hg
  have hpassing : ((byTitle projections).groups ((books.rows.filter fun stored =>
      books.scope.satisfies none stored.row = .ok true).map (·.row))).filter
        ((byTitle projections).Passes none) = [beowulfGroup, emmaGroup] := by decide +kernel
  exact ⟨hparse, hrun, hunshared, hpassing ▸ hlists hunshared⟩

/-- **Two aliases that differ in letter case are taken for one**: the titles are in the order of the
first, which is the same for all, and not of the aggregate that they are to be sorted by. -/
theorem not_ordersByAggregate_books :
    let counted : AggregateCall := ⟨.count, some ⟨none, "author"⟩⟩
    let projections : List Projection :=
      [.aggregate ⟨.count, none⟩ (some "N"), .aggregate counted (some "n")]
    let listing : Listing := ⟨["N", "n"], [⟨[("N", .ofNat 1), ("n", .ofNat 0)]⟩,
      ⟨[("N", .ofNat 1), ("n", .ofNat 1)]⟩]⟩
    Catalog.Reached ⟨none, [⟨"shop", [authors, books]⟩]⟩ ∧
      parse "SELECT COUNT(*) AS N, COUNT(author) AS n FROM books GROUP BY title ORDER BY COUNT(author) DESC" =
        .ok (.select (byAuthors projections)) ∧
      (byAuthors projections).run ⟨"shop", [authors, books]⟩ = .ok listing ∧
      Grouping.ofSelect books.scope (byAuthors projections) = .ok (byTitle projections) ∧
      ((byTitle projections).groups (books.rows.map (·.row))).filter ((byTitle projections).Passes none) =
        [beowulfGroup, emmaGroup] ∧
      ¬ (byTitle projections).ListsBy .desc ((byTitle projections).compute · counted)
        [beowulfGroup, emmaGroup] listing := by
  intro counted projections listing
  refine ⟨reached_shop, by cbv, by decide +kernel, rfl, by decide +kernel, ?_⟩
  rintro ⟨valueOf, sorted, hvalues, hsorted, hrows⟩
  obtain ⟨hbeowulf, hemma, -⟩ := List.forall_mem_cons.1 hvalues |>.imp_right List.forall_mem_cons.1
  have hzero : valueOf beowulfGroup = .ofNat 0 := Except.ok.inj (hbeowulf.symm.trans (by decide +kernel))
  have hone : valueOf emmaGroup = .ofNat 1 := Except.ok.inj (hemma.symm.trans (by decide +kernel))
  -- the order asked for has the title with an author first
  have hordered : SortedStably [⟨.desc, valueOf⟩] [beowulfGroup, emmaGroup]
      [(emmaGroup, 1), (beowulfGroup, 0)] := by
    refine ⟨.swap _ _ _, List.pairwise_pair.2 (.inl (.inl ?_))⟩
    show Value.ComesBefore .desc (valueOf emmaGroup) (valueOf beowulfGroup)
    rw [hzero, hone]
    show (Binary64.ofNat 0).lt (.ofNat 1) = true
    decide +kernel
  obtain rfl := hordered.unique hsorted
  have hfirst := (List.forall₂_cons.1 hrows).1
  exact absurd hfirst (by decide +kernel)

end RelStore
