/-
Queries of groups answer as if no aggregate were remembered.

A group answers calls, in any order and letter case, as it would answer each of them alone
(`answers_eq`). The calls of a query that is read from a text are such calls, wherever they stand, so
that the listing of its groups is the one in which HAVING, the output columns and ORDER BY have every
aggregate computed anew (`freshListing`). What is left of groups in the end is only passed through
DISTINCT, ORDER BY and paging, which do not look at what is remembered (`shape_map`).
-/
import RelStore.Proofs.Query.Counting

namespace RelStore

open Sql
open List (Forall₂)

/-! ## One call after the other -/

namespace Grouping

/-- What a group answers to calls, one after the other. A call that fails leaves what is remembered as
it was. -/
def answers (g : Grouping) (group : Group) : KnownAggregates → List AggregateCall →
    List (Except Cause Value)
  | _, [] => []
  | known, call :: rest =>
    match (g.aggregate group call).run known with
    | .ok (value, after) => .ok value :: g.answers group after rest
    | .error cause => .error cause :: g.answers group known rest

theorem answers_eq {g : Grouping} {group : Group} {known : KnownAggregates}
    (hknown : g.Recalls group known) {calls : List AggregateCall} (h : ∀ call ∈ calls, call.Plain) :
    g.answers group known calls = calls.map (g.compute group) := by
  induction calls generalizing known with
  | nil => rfl
  | cons call rest ih =>
    obtain ⟨hcall, hrest⟩ := List.forall_mem_cons.1 h
    obtain ⟨hfails, hgives⟩ := mirrors_aggregate hcall known hknown
    rw [answers, List.map_cons]
    cases hrun : (g.aggregate group call).run known with
    | error cause => exact congrArg₂ List.cons (hfails cause hrun).symm (ih hknown hrest)
    | ok result =>
      obtain ⟨hvalue, hafter⟩ := hgives result.1 result.2 hrun
      exact congrArg₂ List.cons hvalue.symm (ih hafter hrest)

/-! ## Groups without memory -/

/-- The output rows of groups, in order, with their groups. -/
def freshEntries (g : Grouping) (having : Option Expr) (columns : List String) :
    List Group → Except Cause (List (Row × Group))
  | [] => .ok []
  | group :: rest => do
    let row? ← g.freshRow? having columns group
    let others ← g.freshEntries having columns rest
    return match row? with
      | some row => (row, group) :: others
      | none => others

/-- An entry without what is remembered. -/
def Entry.bare (entry : Entry) : Row × Group := (entry.row, entry.group)

section

variable {g : Grouping} (hplain : ∀ projection ∈ g.projections, projection.Plain)
  {having : Option Expr}
  (hhaving : ∀ e ∈ having, ∃ words, AllSpoken words ∧ Derives .having .expr words e)

include hplain hhaving

theorem freshEntries_eq (columns : List String) (groups : List Group) :
    g.freshEntries having columns groups =
      List.map Entry.bare <$> g.entries having columns groups := by
  induction groups with
  | nil => rfl
  | cons group rest ih =>
    have hrow : (g.outputRow? having columns group).run' [] = g.freshRow? having columns group :=
      (mirrors_outputRow? hplain hhaving columns).run'_eq recalls_nil
    rw [freshEntries, ← hrow, ih, entries]
    show (((·.1) <$> (g.outputRow? having columns group).run []) >>= _) = _
    cases (g.outputRow? having columns group).run [] with
    | error cause => rfl
    | ok result =>
      obtain ⟨row?, known⟩ := result
      cases hothers : g.entries having columns rest with
      | error cause => rfl
      | ok others => cases row? <;> rfl

end

end Grouping

theorem mirrors_sortValue {g : Grouping} (hplain : ∀ projection ∈ g.projections, projection.Plain)
    {group : Group} {row : Row} {key : SortKey} (hkey : ∀ call, key = .aggregate call → call.Plain) :
    Mirrors (g.Recalls group) (key.value (g.leaves group) row) (key.value (g.freshLeaves group) row) := by
  cases key with
  | output name => exact .pure _
  | column ref => exact Grouping.mirrors_column hplain ref
  | aggregate call => exact Grouping.mirrors_aggregate (hkey call rfl)

/-! ## Output -/

section

variable {α β : Type} {f : α → β}

theorem sortItems_map (directions : List Direction) (items : List (α × List Value)) :
    sortItems directions (items.map (Prod.map f id)) =
      List.map f <$> sortItems directions items := by
  have hplaced : ((items.map (Prod.map f id)).mapIdx fun position item =>
        Sortable.mk item.1 item.2 position) =
      (items.mapIdx fun position item => Sortable.mk item.1 item.2 position).map
        fun a => Sortable.mk (f a.item) a.values a.position := by
    rw [List.mapIdx_eq_zipIdx_map, List.mapIdx_eq_zipIdx_map, List.zipIdx_map, List.map_map, List.map_map]
    rfl
  rw [sortItems, hplaced, Sorting.sort_map, sortItems, bind_map_left, map_bind]
  -- items are compared by their values and places, which are left as they are
  refine bind_congr fun sorted => ?_
  rw [List.map_map]
  exact congrArg Except.ok (Eq.symm (List.map_map (l := sorted) (g := f)))

theorem paginate_map (offset limit : Option Binary64) (items : List α) :
    paginate offset limit (items.map f) = (paginate offset limit items).map f := by
  simp only [paginate, List.length_map, List.map_drop, List.map_take]

/-- Items that stand for others, with the values of these. -/
theorem mapM_valued {sortValues : β → Except Cause (List Value)} {sortValues' : α → Except Cause (List Value)}
    {items : List α} (h : ∀ a ∈ items, sortValues' a = sortValues (f a)) :
    (items.map f).mapM (fun b => return (b, ← sortValues b)) =
      List.map (Prod.map f id) <$> items.mapM fun a => return (a, ← sortValues' a) := by
  rw [List.mapM_map, ← mapM_map]
  induction items with
  | nil => rfl
  | cons a rest ih =>
    obtain ⟨ha, hrest⟩ := List.forall_mem_cons.1 h
    rw [List.mapM_cons, List.mapM_cons, ih hrest, Function.comp_apply, ha, map_bind]
    rfl

/-- DISTINCT, ORDER BY and paging of what entries stand for. -/
theorem Sql.Select.shape_map (query : Select) (columns : List String) (rowOf : β → Row)
    {sortValues : β → Except Cause (List Value)} {sortValues' : α → Except Cause (List Value)}
    {entries : List α} (h : ∀ entry ∈ entries, sortValues' entry = sortValues (f entry)) :
    query.shape columns (fun entry => rowOf (f entry)) sortValues' entries =
      query.shape columns rowOf sortValues (entries.map f) := by
  have hkept : (if query.distinct then distinctItems rowOf columns (entries.map f) else entries.map f) =
      (if query.distinct then distinctItems (fun entry => rowOf (f entry)) columns entries
        else entries).map f := by
    split
    · exact keepFirst_map ..
    · rfl
  have hmem : ∀ entry ∈ if query.distinct then distinctItems (fun entry => rowOf (f entry)) columns entries
      else entries, entry ∈ entries := by
    split
    · exact fun entry hentry => (firstOfEach_keepFirst _ entries).sublist.subset hentry
    · exact fun _ => id
  have hrows (sorted : List α) : (paginate query.offset query.limit (sorted.map f)).map rowOf =
      (paginate query.offset query.limit sorted).map fun entry => rowOf (f entry) := by
    rw [paginate_map, List.map_map]
    rfl
  rw [shape, shape, hkept]
  generalize (if query.distinct then distinctItems (fun entry => rowOf (f entry)) columns entries
    else entries) = kept at hmem
  by_cases hunsorted : query.orderBy.isEmpty = true
  · simp only [if_pos hunsorted, pure_bind, hrows]
  · simp only [if_neg hunsorted, mapM_valued fun entry hentry => h entry (hmem entry hentry), bind_map_left,
      sortItems_map, hrows]

end

/-! ## Queries -/

namespace Sql.Select

/-- The answer to a query of groups, with every aggregate computed anew. -/
def freshListing (query : Select) (scope : Scope) (rows : List Row) : Except Cause Listing := do
  let g ← Grouping.ofSelect scope query
  let columns ← g.projections.mapM g.outputName
  let entries ← g.freshEntries query.having columns (g.groups rows)
  let keys ← query.orderBy.mapM (query.sortKey columns (groupKey g))
  query.shape columns Prod.fst
    (fun (row, group) => keys.mapM (SortKey.value (g.freshLeaves group) row)) entries

/-- All aggregates of a query, in the SELECT list, HAVING and ORDER BY, are as they should be. -/
structure CallsHold (query : Select) (calls : AggregateCall → Prop) : Prop where
  projections : ∀ call name?, .aggregate call name? ∈ query.projections → calls call
  having : ∀ e ∈ query.having, e.LeavesHold (fun _ => True) calls
  orderBy : ∀ call direction, ⟨.aggregate call, direction⟩ ∈ query.orderBy → calls call

variable {query : Select}

theorem Spoken.callsHold (h : query.Spoken) : query.CallsHold AggregateCall.Plain where
  projections _ _ hmem := h.projections _ hmem
  having e he := by
    obtain ⟨words, hwords, hderives⟩ := h.having e he
    exact hderives.leavesHold (fun _ => trivial) (fun _ _ _ hcall hwords => hcall.plain hwords) hwords
  orderBy _ _ hmem := h.orderBy _ hmem _ rfl

/-- The listing of groups does not depend on what is remembered of them. -/
theorem Spoken.groupedListing_eq (h : query.Spoken) (scope : Scope) (rows : List Row) :
    query.groupedListing scope rows = query.freshListing scope rows := by
  refine bind_congr_of_ok fun g hg => bind_congr_of_ok fun columns _ => ?_
  obtain ⟨-, hprojections, -⟩ := Grouping.ofSelect_eq_ok hg
  have hplain : ∀ projection ∈ g.projections, projection.Plain := hprojections ▸ h.projections
  rw [Grouping.freshEntries_eq hplain h.having, bind_map_left]
  refine bind_congr_of_ok fun entries hentries => bind_congr_of_ok fun keys hkeys => ?_
  obtain ⟨-, hentry⟩ := Grouping.recalls_entries hplain h.having hentries
  refine query.shape_map (f := Grouping.Entry.bare) columns Prod.fst fun entry he => ?_
  refine Mirrors.run'_eq (.mapM fun key hkey => ?_) (hentry entry he).1
  exact mirrors_sortValue hplain (h.plain_of_mem_keys hkeys key hkey)

end Sql.Select

/-- **Groups answer as if no aggregate were remembered.** The aggregates of a query that is read from a
text are plain calls. A group answers plain calls, in any order, in any letter case and qualified or
not, as each is computed from the rows of the group, and fails for the same causes; and the listing of
the query is the one in which every aggregate is computed anew. -/
theorem Sql.Select.asksAfresh {sql : String} {query : Select}
    (hread : parse sql = .ok (.select query) ∨
      ∃ read, parseScript sql = .ok read ∧ .select query ∈ read) (scope : Scope) :
    query.CallsHold AggregateCall.Plain ∧
      (∀ (g : Grouping) (group : Group) (calls : List AggregateCall), (∀ call ∈ calls, call.Plain) →
        g.answers group [] calls = calls.map (g.compute group)) ∧
      ∀ rows, query.groupedListing scope rows = query.freshListing scope rows := by
  have hspoken : query.Spoken := (stated_of_read hread).spoken
  refine ⟨hspoken.callsHold, fun g group calls hcalls => ?_, hspoken.groupedListing_eq scope⟩
  exact Grouping.answers_eq Grouping.recalls_nil hcalls

/-! ## Books -/

def unauthoredText : String :=
  "SELECT title, MIN(author) FROM books GROUP BY title HAVING min(Books.AUTHOR) IS NULL"

/-- The titles without an author. -/
def unauthored : Select where
  distinct := false
  projections := [.column ⟨none, "title"⟩ none, .aggregate ⟨.min, some ⟨none, "author"⟩⟩ none]
  table := "books"
  join := none
  filter := none
  groupBy := [⟨none, "title"⟩]
  having := some (.isNull (.aggregate ⟨.min, some ⟨some "Books", "AUTHOR"⟩⟩) false)
  orderBy := []
  limit := none
  offset := none

/-- NULL is remembered, and what cannot be computed is not. -/
theorem asksAfresh_books :
    let g : Grouping := ⟨books.scope, unauthored.projections,
      [⟨"title", "books", ⟨"title", .string, true, false, none⟩⟩]⟩
    let group : Group := ⟨[.ofText "Beowulf"], [⟨[("title", .ofText "Beowulf"), ("author", none)]⟩]⟩
    let calls : List AggregateCall := [⟨.min, some ⟨none, "author"⟩⟩, ⟨.sum, some ⟨none, "title"⟩⟩,
      ⟨.min, some ⟨some "Books", "AUTHOR"⟩⟩, ⟨.sum, some ⟨none, "Title"⟩⟩]
    parse unauthoredText = .ok (.select unauthored) ∧
      (∀ call ∈ calls, call.Plain) ∧
      g.answers group [] calls = [.ok none, .error (.notANumericColumn .sum "title" .string "title"),
        .ok none, .error (.notANumericColumn .sum "Title" .string "title")] ∧
      unauthored.freshListing books.scope (books.rows.map (·.row)) =
        .ok ⟨["title", "MIN(author)"], [⟨[("title", .ofText "Beowulf"), ("MIN(author)", none)]⟩]⟩ := by
  intro g group calls
  have hparse : parse unauthoredText = .ok (.select unauthored) := by cbv
  obtain ⟨-, hanswers, hlisting⟩ := Sql.Select.asksAfresh (.inl hparse) books.scope
  have hplain : ∀ call ∈ calls, call.Plain := by decide +kernel
  refine ⟨hparse, hplain, (hanswers g group calls hplain).trans ?_, (hlisting _).symm.trans ?_⟩
  · decide +kernel
  · decide +kernel

end RelStore
