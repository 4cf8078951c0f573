/-
Families of what groups are asked for.

The rows of a group have values of the declared types, and so each column of a group, aggregate and
output column is of one family over all groups. Aggregates are remembered under the text of the call
in lower case, which names the family of the aggregate too (`callFamily_eq`), so that what is
remembered is of the family of the call that is asked for (`Remembers`). What a group is asked for
fails for foreseen causes only, and is of its family (`runs_aggregate`, `runs_project`, `leavesHold`).
-/
import RelStore.Proofs.Query.Types
import RelStore.Proofs.Sql.Calls
import RelStore.Proofs.Query.Grouping

namespace RelStore

open Sql
open List (Forall₂)

/-! ## Aggregates -/

namespace Sql

/-- The family of an aggregate of a column of a family. -/
def AggregateFn.resultFamily (fn : AggregateFn) (family : Family) : Family :=
  match fn with
  | .min | .max => family
  | .count | .sum | .avg => .number

/-- The function adds its values up. -/
def AggregateFn.adds (fn : AggregateFn) : Prop := fn = .sum ∨ fn = .avg

section

variable {family : Family} {values : List Scalar}

theorem succeeds_sumFrom (fn : AggregateFn) (h : ∀ v ∈ values, v.family = .number) (sum : Binary64) :
    Succeeds (fun _ => True) (sumFrom fn sum values) := by
  induction values generalizing sum with
  | nil => exact .ok trivial
  | cons v rest ih =>
    obtain ⟨hv, hrest⟩ := List.forall_mem_cons.1 h
    cases v with
    | number n => exact ih hrest _
    | text s => cases hv
    | bool b => cases hv

theorem succeeds_extremeFrom (fn : AggregateFn) (wanted : Ordering) {best : Scalar}
    (hbest : best.family = family) (h : ∀ v ∈ values, v.family = family) :
    Succeeds (fun v => v.family = family) (extremeFrom fn wanted best values) := by
  induction values generalizing best with
  | nil => exact .ok hbest
  | cons v rest ih =>
    obtain ⟨hv, hrest⟩ := List.forall_mem_cons.1 h
    obtain ⟨order, horder⟩ := Scalar.exists_compare? (hv.trans hbest.symm)
    rw [extremeFrom, horder]
    refine ih ?_ hrest
    split
    · exact hv
    · exact hbest

/-- An aggregate of values of one family is of its own. What is added up must be numbers. -/
theorem AggregateFn.succeeds_ofScalars (fn : AggregateFn) (h : ∀ v ∈ values, v.family = family)
    (hnumbers : fn.adds → family = .number) :
    Succeeds (Value.Fits (fn.resultFamily family)) (fn.ofScalars values) := by
  have hcount (n : Nat) : (Value.ofNat n).Fits .number := Value.fits_some.2 rfl
  have hsum (hadds : fn.adds) : Succeeds (fun _ => True) (sumFrom fn 0 values) :=
    succeeds_sumFrom fn (hnumbers hadds ▸ h) 0
  rcases values with _ | ⟨first, rest⟩
  · cases fn
    case count => exact .ok (hcount _)
    all_goals exact .ok (Value.fits_none _)
  · have hextreme (wanted : Ordering) :
        Succeeds (Value.Fits family) ((extremeFrom fn wanted first rest).map some) := by
      obtain ⟨hfirst, hrest⟩ := List.forall_mem_cons.1 h
      exact (succeeds_extremeFrom fn wanted hfirst hrest).map fun _ hv => Value.fits_some.2 hv
    cases fn with
    | count => exact .ok (hcount _)
    | sum => exact (hsum (.inl rfl)).map fun _ _ => Value.fits_some.2 rfl
    | avg => exact (hsum (.inr rfl)).map fun _ _ => Value.fits_some.2 rfl
    | min => exact hextreme .lt
    | max => exact hextreme .gt

end

end Sql

/-! ## Families of a grouping -/

/-- The family of the column that a reference is bound to. -/
def Scope.familyOf (scope : Scope) (ref : ColumnRef) : Family :=
  match scope.resolve ref with
  | .ok bound => bound.column.type.family
  | .error _ => .number

theorem Scope.familyOf_eq {scope : Scope} {ref : ColumnRef} {bound : BoundColumn}
    (h : scope.resolve ref = .ok bound) : scope.familyOf ref = bound.column.type.family := by
  rw [familyOf, h]

theorem Scope.familyOf_folded {scope : Scope} {ref other : ColumnRef} (h : ref.folded = other.folded) :
    scope.familyOf ref = scope.familyOf other := by
  cases hbound : scope.resolve ref with
  | ok bound => rw [familyOf_eq hbound, familyOf_eq (resolve_eq_ok_of_folded h hbound)]
  | error cause =>
    have hother : ∃ cause, scope.resolve other = .error cause := by
      cases hother : scope.resolve other with
      | ok bound => rw [resolve_eq_ok_of_folded h.symm hother] at hbound; cases hbound
      | error cause => exact ⟨cause, rfl⟩
    obtain ⟨_, hother⟩ := hother
    rw [familyOf, familyOf, hbound, hother]

/-- An output column whose references have plain names, if it is an aggregate. -/
def Sql.Projection.Plain : Projection → Prop
  | .aggregate call _ => call.Plain
  | .star | .column .. => True

namespace Grouping

/-- The families of the GROUP BY columns. -/
def keyFamilies (g : Grouping) : List Family := g.columns.map fun column => column.column.type.family

/-- The family of a GROUP BY column. -/
def keyFamily (g : Grouping) (ref : ColumnRef) : Family :=
  match g.position ref with
  | .ok place => g.keyFamilies.getD place .number
  | .error _ => .number

/-- The family of an aggregate. -/
def callFamily (g : Grouping) (call : AggregateCall) : Family :=
  match call.argument with
  | none => .number
  | some ref => call.fn.resultFamily (g.scope.familyOf ref)

/-- The family of an output column. -/
def projectionFamily (g : Grouping) : Projection → Family
  | .star => .number
  | .column ref _ => g.keyFamily ref
  | .aggregate call _ => g.callFamily call

/-- The family of a reference in HAVING and ORDER BY. -/
def leafFamily (g : Grouping) (ref : ColumnRef) : Family :=
  match if ref.table.isNone then g.aliased? ref.column else none with
  | some projection => g.projectionFamily projection
  | none => g.keyFamily ref

/-- Calls that are remembered under one name are of one family. -/
theorem callFamily_eq (g : Grouping) {call other : AggregateCall} (h : call.Plain) (hother : other.Plain)
    (heq : Text.lower call.text = Text.lower other.text) : g.callFamily call = g.callFamily other := by
  obtain ⟨fn, argument⟩ := call
  obtain ⟨fn', argument'⟩ := other
  obtain ⟨rfl, hargument⟩ := AggregateCall.mk.inj (h.folded_eq hother heq)
  rcases argument with _ | ref <;> rcases argument' with _ | ref'
  · rfl
  · cases hargument
  · cases hargument
  · exact congrArg fn.resultFamily (Scope.familyOf_folded (Option.some.inj hargument))

/-! ## Groups -/

/-- A group has keys of the families of the GROUP BY columns, and rows with values of the declared
types. -/
structure Typed (g : Grouping) (group : Group) : Prop where
  keys : AllFit g.keyFamilies group.keys
  rows : ∀ row ∈ group.rows, g.scope.Typed row

section

variable {g : Grouping} {group : Group} {rows : List Row}

theorem allFit_keysOf (hcolumns : ∀ bound ∈ g.columns, bound ∈ g.scope.columns) {row : Row}
    (hrow : g.scope.Typed row) : AllFit g.keyFamilies (g.keysOf row) := by
  refine List.forall₂_map_left_iff.2 (List.forall₂_map_right_iff.2 (List.forall₂_same.2 ?_))
  exact fun bound hbound => hrow bound (hcolumns bound hbound)

theorem typed_addRow {keys : List Value} (hkeys : AllFit g.keyFamilies keys) {row : Row}
    (hrow : g.scope.Typed row) {groups : List Group} (h : ∀ group ∈ groups, g.Typed group) :
    ∀ group ∈ addRow keys row groups, g.Typed group := by
  induction groups with
  | nil => exact List.forall_mem_singleton.2 ⟨hkeys, List.forall_mem_singleton.2 hrow⟩
  | cons group rest ih =>
    obtain ⟨hgroup, hrest⟩ := List.forall_mem_cons.1 h
    rw [addRow]
    split
    · refine List.forall_mem_cons.2 ⟨⟨hgroup.keys, ?_⟩, hrest⟩
      exact List.forall_mem_append.2 ⟨hgroup.rows, List.forall_mem_singleton.2 hrow⟩
    · exact List.forall_mem_cons.2 ⟨hgroup, ih hrest⟩

theorem typed_groups (hcolumns : ∀ bound ∈ g.columns, bound ∈ g.scope.columns)
    (hrows : ∀ row ∈ rows, g.scope.Typed row) : ∀ group ∈ g.groups rows, g.Typed group := by
  rw [groups]
  split
  next hempty =>
    refine List.forall_mem_singleton.2 ⟨?_, hrows⟩
    rw [keyFamilies, List.isEmpty_iff.1 hempty]
    exact .nil
  next =>
    exact foldl_keeps (P := fun groups => ∀ group ∈ groups, g.Typed group)
      (List.forall_mem_nil _) fun groups hgroups row hrow =>
        typed_addRow (allFit_keysOf hcolumns (hrows row hrow)) (hrows row hrow) hgroups

end

/-! ## Asking a group -/

/-- What is remembered of the aggregates of a group is right. -/
def Remembering (right : AggregateCall → Value → Prop) (known : KnownAggregates) : Prop :=
  ∀ call : AggregateCall, call.Plain → ∀ value,
    known.lookup (Text.lower call.text) = some value → right call value

/-- **A group gives what is right of an aggregate**, remembered or not, if what is computed is right,
and right of all calls that are remembered under one name. -/
theorem runs_remembering {g : Grouping} {group : Group} {failing : Cause → Prop}
    {right : AggregateCall → Value → Prop}
    (hright : ∀ call other, AggregateCall.Plain call → AggregateCall.Plain other →
      Text.lower call.text = Text.lower other.text → ∀ value, right call value → right other value)
    {call : AggregateCall} (h : call.Plain)
    (hcompute : Runs (Remembering right) failing (liftM (g.compute group call)) (right call)) :
    Runs (Remembering right) failing (g.aggregate group call) (right call) := by
  refine Runs.bind .get fun known hknown => ?_
  split
  next value hvalue => exact .pure (hknown call h value hvalue)
  next =>
    -- what is added is found by every call of the same text
    refine hcompute.bind fun value hvalue => ?_
    refine Runs.bind (.modify fun known hknown other hother found hfound => ?_) fun _ _ => .pure hvalue
    rw [List.lookup_cons] at hfound
    split at hfound
    next hsame =>
      obtain rfl := Option.some.inj hfound
      exact hright call other h hother (beq_iff_eq.1 hsame).symm value hvalue
    next => exact hknown other hother found hfound

/-- What is remembered of the aggregates of a group is of their families. -/
def Remembers (g : Grouping) (known : KnownAggregates) : Prop :=
  ∀ call : AggregateCall, call.Plain → ∀ value,
    known.lookup (Text.lower call.text) = some value → value.Fits (g.callFamily call)

theorem failsForeseen_position (g : Grouping) (ref : ColumnRef) : FailsForeseen (g.position ref) := by
  refine (g.scope.refuses_resolve ref).foreseen.bind fun bound _ => ?_
  split
  · exact .pure _
  · exact .throw rfl

theorem failsForeseen_checkCall (g : Grouping) (call : AggregateCall) : FailsForeseen (g.checkCall call) := by
  rw [checkCall]
  split
  · refine (g.scope.refuses_resolve _).foreseen.bind fun bound _ => ?_
    exact .ite (fun _ => .throw rfl) fun _ => .pure _
  · exact .pure _

/-- What is checked of a call: its column is known, and is one of numbers if it is added up. -/
theorem checkCall_eq_ok {g : Grouping} {fn : AggregateFn} {ref : ColumnRef}
    (h : g.checkCall ⟨fn, some ref⟩ = .ok ()) : ∃ bound, g.scope.resolve ref = .ok bound ∧
      (fn.adds → bound.column.type.family = .number) := by
  obtain ⟨bound, hbound, h⟩ := bind_eq_ok.1 h
  refine ⟨bound, hbound, fun hadds => ?_⟩
  by_contra hfamily
  rw [if_pos (by rcases hadds with rfl | rfl <;> simp [hfamily])] at h
  exact throw_ne_ok h

section

variable {g : Grouping} {group : Group} (hgroup : g.Typed group)

include hgroup

theorem succeeds_compute {call : AggregateCall} (h : g.checkCall call = .ok ()) :
    Succeeds (Value.Fits (g.callFamily call)) (g.compute group call) := by
  obtain ⟨fn, _ | ref⟩ := call
  · rw [compute, h]
    exact .ok (Value.fits_some.2 rfl)
  · obtain ⟨bound, hbound, hnumbers⟩ := checkCall_eq_ok h
    have hvalues : ∀ v ∈ (group.rows.map fun row => row.get bound.key).filterMap id,
        v.family = bound.column.type.family := by
      intro v hv
      obtain ⟨value, hvalue, rfl⟩ := List.mem_filterMap.1 hv
      obtain ⟨row, hrow, heq⟩ := List.mem_map.1 hvalue
      exact hgroup.rows row hrow bound (Scope.mem_columns_of_resolve hbound) v heq
    rw [compute, h, callFamily]
    simp only [Scope.familyOf_eq hbound, hbound]
    exact fn.succeeds_ofScalars hvalues hnumbers

theorem runs_compute (call : AggregateCall) :
    RunsForeseen g.Remembers (g.compute group call) (Value.Fits (g.callFamily call)) := by
  have hchecked (h : g.checkCall call = .ok ()) := succeeds_compute hgroup h
  refine .lift (fun cause hcause => ?_) fun value hvalue => ?_
  · cases hcheck : g.checkCall call with
    | error other =>
      rw [compute, hcheck] at hcause
      obtain rfl : other = cause := Except.error.inj hcause
      exact g.failsForeseen_checkCall call other hcheck
    | ok _ =>
      obtain ⟨value, hvalue, -⟩ := hchecked hcheck
      rw [hvalue] at hcause
      cases hcause
  · obtain ⟨_, hcheck, -⟩ := bind_eq_ok.1 hvalue
    obtain ⟨other, hother, hfits⟩ := hchecked hcheck
    obtain rfl : value = other := Except.ok.inj (hvalue.symm.trans hother)
    exact hfits

theorem runs_aggregate {call : AggregateCall} (h : call.Plain) :
    RunsForeseen g.Remembers (g.aggregate group call) (Value.Fits (g.callFamily call)) :=
  runs_remembering (fun _ _ hcall hother heq _ hfits => g.callFamily_eq hcall hother heq ▸ hfits) h
    (runs_compute hgroup call)

theorem runs_keyValue (ref : ColumnRef) :
    RunsForeseen g.Remembers (g.keyValue group ref) (Value.Fits (g.keyFamily ref)) := by
  have hat {families : List Family} {values : List Value} (h : AllFit families values) (place : Nat) :
      (values.getD place none).Fits (families.getD place .number) := by
    induction h generalizing place with
    | nil => exact Value.fits_none _
    | cons hv _ ih =>
      cases place with
      | zero => exact hv
      | succ place => exact ih place
  have hposition : RunsForeseen g.Remembers (liftM (g.position ref)) fun place =>
      g.position ref = .ok place := .lift (g.failsForeseen_position ref) fun _ h => h
  refine hposition.bind fun place hplace => .pure ?_
  rw [keyFamily, hplace]
  exact hat hgroup.keys place

theorem runs_project {projection : Projection} (h : projection.Plain) :
    RunsForeseen g.Remembers (g.project group projection) (Value.Fits (g.projectionFamily projection)) := by
  cases projection with
  | star => exact .throw rfl
  | column ref name? => exact runs_keyValue hgroup ref
  | aggregate call name? => exact runs_aggregate hgroup h

variable (hplain : ∀ projection ∈ g.projections, projection.Plain)

include hplain

theorem runs_column (ref : ColumnRef) :
    RunsForeseen g.Remembers ((g.leaves group).column ref) (Value.Fits (g.leafFamily ref)) := by
  simp only [leaves, leafFamily]
  cases halias : if ref.table.isNone then g.aliased? ref.column else none with
  | none => exact runs_keyValue hgroup ref
  | some projection =>
    split at halias
    · exact runs_project hgroup (hplain projection (List.mem_of_find?_eq_some halias))
    · cases halias

/-- A condition that is asked over a group. -/
theorem leavesHold {words : List Word} {e : Expr} (h : Derives .having .expr words e)
    (hwords : AllSpoken words) :
    (Judgement.keeping g.Remembers admitsTypes_foreseen).LeavesOf (g.leaves group) e :=
  h.leavesHold (fun ref => (runs_column hgroup hplain ref).mono fun _ _ => trivial)
    (fun _ _ _ h hwords => (runs_aggregate hgroup (h.plain hwords)).mono fun _ _ => trivial) hwords

end

/-! ## Output rows -/

end Grouping

/-- A row has values of given families under all names. -/
def Row.Fits (families : String → Family) (row : Row) : Prop := ∀ name, (row.get name).Fits (families name)

/-- The families of a row that is set value after value. -/
def familiesOf (fields : List (String × Family)) : String → Family :=
  fields.foldl (fun families field => Function.update families field.1 field.2) fun _ => .number

theorem Row.Fits.set {families : String → Family} {row : Row} (h : row.Fits families) (name : String)
    {value : Value} {family : Family} (hvalue : value.Fits family) :
    (row.set name value).Fits (Function.update families name family) := by
  intro other
  rw [Row.get_set, Function.update_apply]
  split
  · exact hvalue
  · exact h other

/-- A row of values under names is of the families of the values, the last under each name. -/
theorem Row.fits_ofList {names : List String} {families : List Family} {values : List Value}
    (h : AllFit families values) : (Row.ofList (names.zip values)).Fits (familiesOf (names.zip families)) := by
  have hfold (row : Row) (before : String → Family) (hrow : row.Fits before) :
      ((names.zip values).foldl (fun row field => row.set field.1 field.2) row).Fits
        ((names.zip families).foldl (fun families field => Function.update families field.1 field.2)
          before) := by
    -- names that come again are set again, and so is their family
    induction h generalizing names row before with
    | nil => simpa using hrow
    | cons hvalue _ ih =>
      cases names with
      | nil => exact hrow
      | cons name names => exact ih _ _ (hrow.set name hvalue)
  exact hfold _ _ fun name => Value.fits_none _

namespace Grouping

/-- The families of output rows. -/
def outputFamilies (g : Grouping) (columns : List String) : String → Family :=
  familiesOf (columns.zip (g.projections.map g.projectionFamily))

/-- An entry of a group, with an output row and remembered aggregates of the right families. -/
structure TypedEntry (g : Grouping) (columns : List String) (entry : Entry) : Prop where
  group : g.Typed entry.group
  row : entry.row.Fits (g.outputFamilies columns)
  known : g.Remembers entry.known

section

variable {g : Grouping} (hplain : ∀ projection ∈ g.projections, projection.Plain)
  {having : Option Expr}
  (hhaving : ∀ e ∈ having, ∃ words, AllSpoken words ∧ Derives .having .expr words e)
  (columns : List String)

include hplain hhaving

theorem runs_outputRow? {group : Group} (hgroup : g.Typed group) :
    RunsForeseen g.Remembers (g.outputRow? having columns group) fun row? =>
      ∀ row ∈ row?, row.Fits (g.outputFamilies columns) := by
  have hsatisfied := (Judgement.keeping g.Remembers admitsTypes_foreseen).isSatisfied fun e he =>
    let ⟨_, hwords, h⟩ := hhaving e he
    leavesHold hgroup hplain h hwords
  refine Runs.bind hsatisfied fun satisfied _ => ?_
  refine .ite (fun _ => ?_) fun _ => .pure nofun
  refine (Runs.mapM fun projection hprojection =>
    runs_project hgroup (hplain projection hprojection)).bind fun values hvalues => .pure ?_
  rintro _ ⟨⟩
  exact Row.fits_ofList (List.forall₂_map_left_iff.2 hvalues)

/-- **Groups have output rows of one family under each name**, or are refused. -/
theorem entries_typed {groups : List Group} (hgroups : ∀ group ∈ groups, g.Typed group) :
    FailsForeseen (g.entries having columns groups) ∧
      ∀ entries, g.entries having columns groups = .ok entries →
        ∀ entry ∈ entries, g.TypedEntry columns entry := by
  induction groups with
  | nil =>
    refine ⟨.ok _, ?_⟩
    rintro _ ⟨⟩
    exact nofun
  | cons group rest ih =>
    obtain ⟨hgroup, hrest⟩ := List.forall_mem_cons.1 hgroups
    obtain ⟨hfails, hgives⟩ := ih hrest
    have hrun := runs_outputRow? hplain hhaving columns hgroup [] nofun
    refine ⟨hrun.1.bind fun _ _ => hfails.bind fun _ _ => .pure _, fun entries hentries => ?_⟩
    obtain ⟨⟨row?, known⟩, hrow, hentries⟩ := bind_eq_ok.1 hentries
    obtain ⟨others, hothers, hentries⟩ := bind_eq_ok.1 hentries
    obtain rfl := pure_eq_ok.1 hentries
    obtain ⟨hfits, hknown⟩ := hrun.2 row? known hrow
    cases row? with
    | none => exact hgives others hothers
    | some row => exact List.forall_mem_cons.2 ⟨⟨hgroup, hfits row rfl, hknown⟩, hgives others hothers⟩

end

end Grouping

end RelStore
