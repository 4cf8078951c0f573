/-
What is remembered of a group is what would be computed.

Aggregates are remembered under the text of the call in lower case, which the same call has in every
letter case, and no other call (`AggregateCall.Plain.folded_eq`). So a group that is asked for an
aggregate, whatever it was asked before, gives the aggregate of its rows (`mirrors_aggregate`). Of
HAVING and the memory it leaves, an output row shows nothing: it has the values that the group itself
has (`shownRow`), and there is one for each group that passes HAVING (`entries_eq_ok`).
-/
import RelStore.Proofs.Query.Groups

namespace RelStore

open Sql
open List (Forall₂)

namespace Grouping

/-- The value that an output column has for a group. -/
def shown (g : Grouping) (group : Group) : Projection → Except Cause Value
  | .star => .error (.ungroupedColumn "*")
  | .column ref _ => (g.position ref).map fun place => group.keys.getD place none
  | .aggregate call _ => g.compute group call

/-- The output row of a group. -/
def shownRow (g : Grouping) (columns : List String) (group : Group) : Except Cause Row :=
  (g.projections.mapM (g.shown group)).map fun values => Row.ofList (columns.zip values)

/-- Conditions over one group whose aggregates are all computed. -/
def freshLeaves (g : Grouping) (group : Group) : Leaves (Except Cause) where
  column ref :=
    match if ref.table.isNone then g.aliased? ref.column else none with
    | some projection => g.shown group projection
    | none => g.shown group (.column ref none)
  aggregate := g.compute group

/-- The output row of a group, if the group satisfies HAVING. -/
def freshRow? (g : Grouping) (having : Option Expr) (columns : List String) (group : Group) :
    Except Cause (Option Row) := do
  if ← isSatisfied (g.freshLeaves group) having then
    let values ← g.projections.mapM (g.shown group)
    return some (Row.ofList (columns.zip values))
  else return none

/-- The group passes HAVING. -/
def Passes (g : Grouping) (having : Option Expr) (group : Group) : Prop :=
  (isSatisfied (g.leaves group) having).run' [] = .ok true

instance (g : Grouping) (having : Option Expr) : DecidablePred (g.Passes having) :=
  fun _ => inferInstanceAs (Decidable (_ = _))

/-- What is remembered of a group is what would be computed. -/
def Recalls (g : Grouping) (group : Group) : KnownAggregates → Prop :=
  Remembering fun call value => g.compute group call = .ok value

section

variable {g : Grouping} {group : Group} {known : KnownAggregates}

/-- The same call in another letter case gives the same. -/
theorem compute_eq_ok_of_folded {call other : AggregateCall} (h : call.folded = other.folded)
    {value : Value} (hvalue : g.compute group call = .ok value) : g.compute group other = .ok value := by
  obtain ⟨fn, argument⟩ := call
  obtain ⟨fn', argument'⟩ := other
  obtain ⟨rfl, hargument⟩ := AggregateCall.mk.inj h
  rcases argument with _ | ref <;> rcases argument' with _ | ref'
  · exact hvalue
  · cases hargument
  · cases hargument
  · obtain ⟨_, hcheck, hvalue⟩ := bind_eq_ok.1 hvalue
    obtain ⟨bound, hbound, hvalue⟩ := bind_eq_ok.1 hvalue
    have hother := Scope.resolve_eq_ok_of_folded (Option.some.inj hargument) hbound
    have hchecked : g.checkCall ⟨fn, some ref'⟩ = .ok () := by
      obtain ⟨_, hsame, hcheck⟩ := bind_eq_ok.1 hcheck
      obtain rfl := Except.ok.inj (hbound.symm.trans hsame)
      refine bind_eq_ok.2 ⟨bound, hother, ?_⟩
      split at hcheck
      next => exact absurd hcheck throw_ne_ok
      next hnumeric => exact if_neg hnumeric
    exact bind_eq_ok.2 ⟨(), hchecked, bind_eq_ok.2 ⟨bound, hother, hvalue⟩⟩

theorem recalls_nil : g.Recalls group [] := fun _ _ _ hvalue => nomatch hvalue

/-- **A group gives the aggregates of its rows**, remembered or not. -/
theorem mirrors_aggregate {call : AggregateCall} (h : call.Plain) :
    Mirrors (g.Recalls group) (g.aggregate group call) (g.compute group call) := by
  have hsame (call other : AggregateCall) (hcall : call.Plain) (hother : other.Plain)
      (heq : Text.lower call.text = Text.lower other.text) (value : Value) :
      g.compute group call = .ok value → g.compute group other = .ok value :=
    compute_eq_ok_of_folded (hcall.folded_eq hother heq)
  exact runs_remembering hsame h (Mirrors.lift _)

theorem mirrors_project {projection : Projection} (h : projection.Plain) :
    Mirrors (g.Recalls group) (g.project group projection) (g.shown group projection) := by
  cases projection with
  | star => exact .throw _
  | column ref name? => exact (Mirrors.lift (g.position ref)).bind fun _ _ => .pure _
  | aggregate call name? => exact mirrors_aggregate h

variable (hplain : ∀ projection ∈ g.projections, projection.Plain)

include hplain

theorem mirrors_column (ref : ColumnRef) :
    Mirrors (g.Recalls group) ((g.leaves group).column ref) ((g.freshLeaves group).column ref) := by
  simp only [leaves, freshLeaves]
  cases halias : if ref.table.isNone then g.aliased? ref.column else none with
  -- a name that is no alias is read as an output column is
  | none =>
    have halone : (Projection.column ref none).Plain := trivial
    exact mirrors_project halone
  | some projection =>
    split at halias
    · exact mirrors_project (hplain projection (List.mem_of_find?_eq_some halias))
    · cases halias

variable {having : Option Expr}
  (hhaving : ∀ e ∈ having, ∃ words, AllSpoken words ∧ Derives .having .expr words e)

include hhaving

theorem mirrors_isSatisfied :
    Mirrors (g.Recalls group) (isSatisfied (g.leaves group) having)
      (isSatisfied (g.freshLeaves group) having) := by
  refine (Mirrors.correspondence (g.Recalls group)).isSatisfied fun e he => ?_
  obtain ⟨words, hwords, h⟩ := hhaving e he
  exact h.leavesHold (fun ref => mirrors_column hplain ref)
    (fun _ _ _ h hwords => mirrors_aggregate (h.plain hwords)) hwords

theorem mirrors_outputRow? (columns : List String) :
    Mirrors (g.Recalls group) (g.outputRow? having columns group) (g.freshRow? having columns group) := by
  refine (mirrors_isSatisfied hplain hhaving).bind fun satisfied _ => ?_
  cases satisfied with
  | false => exact .pure none
  | true =>
    refine Mirrors.bind (.mapM fun projection hprojection => ?_) fun values _ => .pure _
    exact mirrors_project (hplain projection hprojection)

theorem passes_iff : g.Passes having group ↔ isSatisfied (g.freshLeaves group) having = .ok true := by
  rw [Passes, (mirrors_isSatisfied hplain hhaving).run'_eq recalls_nil]

/-- The output row of a group, and the memory after it. -/
theorem recalls_outputRow? {columns : List String} {row? : Option Row}
    (h : (g.outputRow? having columns group).run [] = .ok (row?, known)) :
    g.Recalls group known ∧ match row? with
      | some row => g.Passes having group ∧ g.shownRow columns group = .ok row
      | none => ¬ g.Passes having group := by
  obtain ⟨hfresh, hknown⟩ :=
    (mirrors_outputRow? hplain hhaving columns [] recalls_nil).2 row? known h
  refine ⟨hknown, ?_⟩
  rw [passes_iff hplain hhaving]
  obtain ⟨satisfied, hsatisfied, hfresh⟩ := bind_eq_ok.1 hfresh
  cases satisfied with
  | false =>
    obtain rfl := pure_eq_ok.1 hfresh
    exact fun hpassed => Bool.false_ne_true (Except.ok.inj (hsatisfied.symm.trans hpassed))
  | true =>
    obtain ⟨values, hvalues, hfresh⟩ := bind_eq_ok.1 hfresh
    obtain rfl := pure_eq_ok.1 hfresh
    refine ⟨hsatisfied, ?_⟩
    rw [shownRow, hvalues]
    rfl

/-- **There is an output row for each group that passes HAVING**, and it shows what the group has. -/
theorem recalls_entries {columns : List String} {groups : List Group} {entries : List Entry}
    (h : g.entries having columns groups = .ok entries) :
    entries.map (·.group) = groups.filter (g.Passes having) ∧ ∀ entry ∈ entries,
      g.Recalls entry.group entry.known ∧ g.shownRow columns entry.group = .ok entry.row := by
  induction groups generalizing entries with
  | nil =>
    obtain rfl := Except.ok.inj h
    exact ⟨rfl, List.forall_mem_nil _⟩
  | cons group rest ih =>
    obtain ⟨⟨row?, known⟩, hrow, h⟩ := bind_eq_ok.1 h
    obtain ⟨others, hothers, h⟩ := bind_eq_ok.1 h
    obtain rfl := pure_eq_ok.1 h
    obtain ⟨hgroups, hall⟩ := ih hothers
    obtain ⟨hknown, hrow⟩ := recalls_outputRow? hplain hhaving hrow
    cases row? with
    | none => exact ⟨hgroups.trans (List.filter_cons_of_neg (by simpa using hrow)).symm, hall⟩
    | some row =>
      obtain ⟨hpasses, hshown⟩ := hrow
      refine ⟨?_, List.forall_mem_cons.2 ⟨⟨hknown, hshown⟩, hall⟩⟩
      rw [List.filter_cons_of_pos (by simpa using hpasses)]
      exact congrArg (group :: ·) hgroups

end

end Grouping

end RelStore
