/-
Names that a statement must know.

Every reference of a statement is bound before a row is read, so that a name that means no column
fails whatever the tables hold (`Catalog.Reached.unknownName_refused`). HAVING is the exception: its
references are bound as groups are asked, so that without groups any name goes
(`unknownName_in_having`), and with groups only what its evaluation comes to first is sure to be
known (`Select.KnowsNames.having`).
-/
import RelStore.Proofs.Query.Words

namespace RelStore

open Sql
open List (Forall₂)
open Text (sameName)

/-! ## Names -/

/-- The table has a column that the reference can mean. -/
def Schema.answers (table : Schema) (ref : ColumnRef) : Bool :=
  ref.table.all (sameName table.name) && table.columns.any (sameName ·.name ref.column)

namespace Scope

variable {scope : Scope} {ref : ColumnRef} {bound : BoundColumn}

/-- The reference names a column in scope: without its table, a column of exactly one table. -/
def Names (scope : Scope) (ref : ColumnRef) : Prop :=
  0 < scope.tables.countP (·.answers ref) ∧
    (ref.table = none → scope.tables.countP (·.answers ref) = 1)

instance (scope : Scope) (ref : ColumnRef) : Decidable (scope.Names ref) :=
  inferInstanceAs (Decidable (_ ∧ _))

/-- What a reference is bound to, it names. -/
theorem names_of_resolve (h : scope.resolve ref = .ok bound) : scope.Names ref := by
  obtain ⟨table, htable, column, hcolumn, -, hname, hqualifier⟩ := exists_of_resolve h
  refine ⟨List.countP_pos_iff.2 ⟨table, htable, ?_⟩, fun halone => ?_⟩
  · rw [Schema.answers, Bool.and_eq_true, List.any_eq_true]
    refine ⟨?_, column, hcolumn, hname⟩
    cases hqualified : ref.table with
    | none => rfl
    | some name => exact hqualifier name hqualified
  · have hanswers (table : Schema) : table.answers ref =
        ((table.column? ref.column).map (scope.bind table)).isSome := by
      rw [Schema.answers, halone, Option.isSome_map, Schema.column?, List.isSome_find?]
      rfl
    simp only [resolve, halone] at h
    split at h
    next => cases h
    next hnamed =>
      have hlength := congrArg List.length hnamed
      rw [named, List.length_filterMap_eq_countP] at hlength
      simp only [hanswers]
      exact hlength
    next => cases h

end Scope

/-- The condition has names that a scope knows. -/
abbrev Sql.Expr.Knows (e : Expr) (scope : Scope) : Prop := e.LeavesHold scope.Names fun _ => True

theorem Scope.knows_of_check {scope : Scope} {e : Expr} (hfree : e.AggregateFree)
    (h : scope.check e = .ok ()) : e.Knows scope :=
  leavesHold_of_check (fun _ _ => names_of_resolve) e hfree h

namespace Sql

/-- What a condition reads whatever the values are. AND and OR may stop after their left operand,
and IN before its list. -/
def Expr.FirstLeaves (column : ColumnRef → Prop) (aggregate : AggregateCall → Prop) : Expr → Prop
  | .literal _ | .unknown _ => True
  | .column ref => column ref
  | .aggregate call => aggregate call
  | .comparison _ left right => left.FirstLeaves column aggregate ∧ right.FirstLeaves column aggregate
  | .and left _ | .or left _ => left.FirstLeaves column aggregate
  | .not operand | .isNull operand _ | .like operand _ _ | .inList operand _ _ =>
    operand.FirstLeaves column aggregate
  | .between operand low high _ => operand.FirstLeaves column aggregate ∧
      low.FirstLeaves column aggregate ∧ high.FirstLeaves column aggregate

/-- The column that an output column is, or is computed from. -/
def Projection.ref? : Projection → Option ColumnRef
  | .star => none
  | .column ref _ => some ref
  | .aggregate call _ => call.argument

/-- The column that a sort key is, or is computed from. -/
def OrderKey.ref? : OrderKey → Option ColumnRef
  | .column ref => some ref
  | .aggregate call => call.argument

/-- The names of what is shown for an item of the SELECT list. -/
def Projection.outputNames (scope : Scope) : Projection → List String
  | .star => scope.columns.map (·.key)
  | .column ref name? => (name?.or (scope.outputName ref).toOption).toList
  | .aggregate call name? => [name?.getD call.text]

namespace Select

/-- The tables that a query is about. -/
def scope? (query : Select) (db : Database) : Option Scope := do
  let table ← db.table? query.table
  match query.join with
  | none => return table.scope
  | some join => return .joined table.schema (← db.table? join.table).schema

/-- The names of the output columns. -/
def outputNames (query : Select) (scope : Scope) : List String :=
  query.projections.flatMap (Projection.outputNames scope)

/-- The reference is the alias of an output column. -/
def IsAlias (query : Select) (ref : ColumnRef) : Prop :=
  ref.table = none ∧
    ∃ projection ∈ query.projections, ∃ name ∈ projection.alias?, sameName name ref.column = true

/-- The references of a query name columns in scope, or in ORDER BY output columns. Of HAVING this
is so of what is read first, if there is a group to ask. -/
structure KnowsNames (query : Select) (db : Database) (scope : Scope) : Prop where
  projections : ∀ projection ∈ query.projections, ∀ ref ∈ projection.ref?, scope.Names ref
  on : ∀ join ∈ query.join, join.on.Knows scope
  filter : ∀ e ∈ query.filter, e.Knows scope
  groupBy : ∀ ref ∈ query.groupBy, scope.Names ref
  orderBy : ∀ item ∈ query.orderBy, ∀ ref ∈ item.key.ref?, scope.Names ref ∨
    item.key = .column ref ∧ ∃ name ∈ query.outputNames scope, sameName name ref.text = true
  having : ∀ rows, query.source db = .ok (scope, rows) → rows ≠ [] ∨ query.groupBy = [] →
    ∀ e ∈ query.having, e.FirstLeaves (fun ref => query.IsAlias ref ∨ scope.Names ref)
      fun call => ∀ ref ∈ call.argument, scope.Names ref

end Select

/-- The references of a statement name columns of its tables. -/
def Statement.KnowsNames (db : Database) : Statement → Prop
  | .select query => ∀ scope ∈ query.scope? db, query.KnowsNames db scope
  | .update tableName items filter => ∀ table ∈ db.table? tableName,
      (∀ item ∈ items, table.scope.Names ⟨none, item.column⟩) ∧ ∀ e ∈ filter, e.Knows table.scope
  | .delete tableName filter => ∀ table ∈ db.table? tableName, ∀ e ∈ filter, e.Knows table.scope
  | _ => True

end Sql

/-! ## Rows -/

theorem Table.knows_of_matching {table : Table} {filter : Option Expr} {rows : List StoredRow}
    (hfree : ∀ e ∈ filter, e.AggregateFree) (h : table.matching filter = .ok rows) :
    ∀ e ∈ filter, e.Knows table.scope := by
  rintro e rfl
  obtain ⟨_, hcheck, -⟩ := bind_eq_ok.1 h
  exact Scope.knows_of_check (hfree e rfl) hcheck

theorem Table.names_of_requireColumn {table : Table} {name : String} {column : Column}
    (h : table.requireColumn name = .ok column) : table.scope.Names ⟨none, name⟩ := by
  rw [requireColumn] at h
  split at h
  next found hfound =>
    have hresolve : table.scope.resolve ⟨none, name⟩ = .ok (table.scope.bind table.schema found) := by
      have hcolumn : table.schema.column? name = some found := hfound
      simp [Scope.resolve, Scope.named, Table.scope, Scope.tables, hcolumn]
    exact Scope.names_of_resolve hresolve
  next => cases h

theorem Table.names_of_bindAssignments {table : Table} {assigned : List String}
    {items : List Assignment} {values : List (String × Value)}
    (h : bindAssignments table assigned items = .ok values) :
    ∀ item ∈ items, table.scope.Names ⟨none, item.column⟩ := by
  induction items generalizing assigned values with
  | nil => exact nofun
  | cons item rest ih =>
    obtain ⟨column, hcolumn, h⟩ := bind_eq_ok.1 h
    obtain ⟨-, h⟩ := ite_bind_eq_ok.1 h
    obtain ⟨others, hothers, -⟩ := bind_eq_ok.1 h
    exact List.forall_mem_cons.2 ⟨names_of_requireColumn hcolumn, ih hothers⟩

namespace Sql.Select

variable {query : Select} {db : Database} {scope : Scope} {rows : List Row} {listing : Listing}

theorem scope_of_source (h : query.source db = .ok (scope, rows)) : query.scope? db = some scope := by
  obtain ⟨table, htable, h⟩ := bind_eq_ok.1 h
  rw [scope?, Database.requireTable_eq_ok.1 htable]
  cases hjoin : query.join with
  | none =>
    rw [hjoin] at h
    obtain ⟨_, -, h⟩ := bind_eq_ok.1 h
    exact congrArg (some ·.1) (pure_eq_ok.1 h)
  | some join =>
    rw [hjoin] at h
    obtain ⟨other, hother, h⟩ := bind_eq_ok.1 h
    obtain ⟨-, h⟩ := ite_bind_eq_ok.1 h
    obtain ⟨-, h⟩ := ite_bind_eq_ok.1 h
    obtain ⟨_, -, h⟩ := bind_eq_ok.1 h
    obtain ⟨_, -, h⟩ := bind_eq_ok.1 h
    obtain ⟨_, -, h⟩ := bind_eq_ok.1 h
    have hother := Database.requireTable_eq_ok.1 hother
    simp only [Option.bind_eq_bind, Option.bind_some, hother]
    exact congrArg (some ·.1) (pure_eq_ok.1 h)

theorem knows_of_source (hjoin : ∀ join ∈ query.join, join.on.AggregateFree)
    (hfilter : ∀ e ∈ query.filter, e.AggregateFree) (h : query.source db = .ok (scope, rows)) :
    (∀ join ∈ query.join, join.on.Knows scope) ∧ ∀ e ∈ query.filter, e.Knows scope := by
  obtain ⟨table, -, h⟩ := bind_eq_ok.1 h
  cases heq : query.join with
  | none =>
    rw [heq] at h
    obtain ⟨_, hmatching, h⟩ := bind_eq_ok.1 h
    obtain rfl : table.scope = scope := congrArg Prod.fst (pure_eq_ok.1 h)
    exact ⟨nofun, Table.knows_of_matching hfilter hmatching⟩
  | some join =>
    rw [heq] at h
    obtain ⟨other, -, h⟩ := bind_eq_ok.1 h
    obtain ⟨-, h⟩ := ite_bind_eq_ok.1 h
    obtain ⟨-, h⟩ := ite_bind_eq_ok.1 h
    obtain ⟨_, hwhere, h⟩ := bind_eq_ok.1 h
    obtain ⟨_, hjoined, h⟩ := bind_eq_ok.1 h
    obtain ⟨_, -, h⟩ := bind_eq_ok.1 h
    obtain rfl : JoinedTables.scope ⟨table, other⟩ = scope := congrArg Prod.fst (pure_eq_ok.1 h)
    constructor
    · rintro _ ⟨⟩
      obtain ⟨_, hon, -⟩ := bind_eq_ok.1 hjoined
      exact Scope.knows_of_check (hjoin join heq) hon
    · rintro e he
      rw [he] at hwhere
      exact Scope.knows_of_check (hfilter e he) hwhere

/-! ## Queries without groups -/

/-- Of each item of the SELECT list something is known, if it is shown. -/
theorem known_of_plainColumns {projection : Projection} {fields : List (String × String)}
    (h : plainColumns scope projection = .ok fields) :
    (∀ ref ∈ projection.ref?, scope.Names ref) ∧ fields.map (·.1) = projection.outputNames scope := by
  cases projection with
  | star =>
    obtain rfl := Except.ok.inj h
    exact ⟨nofun, List.map_map⟩
  | column ref name? =>
    have hshown {name : String} (h : (do return [(name, (← scope.resolve ref).key)]) = Except.ok fields) :
        scope.Names ref ∧ fields.map (·.1) = [name] := by
      obtain ⟨bound, hbound, h⟩ := bind_eq_ok.1 h
      obtain rfl := pure_eq_ok.1 h
      exact ⟨Scope.names_of_resolve hbound, rfl⟩
    have href {name : String} (h : scope.Names ref ∧ fields.map (·.1) = [name]) :
        (∀ other ∈ (Projection.column ref name?).ref?, scope.Names other) ∧ fields.map (·.1) = [name] :=
      ⟨by rintro _ ⟨⟩; exact h.1, h.2⟩
    cases name? with
    | some name => exact href (hshown h)
    | none =>
      obtain ⟨name, hname, h⟩ := bind_eq_ok.1 h
      rw [Projection.outputNames, hname]
      exact href (hshown h)
  | aggregate call name? => cases h

theorem columns_of_plan {plan : List (List (String × String))}
    (h : query.projections.mapM (plainColumns scope) = .ok plan) :
    plan.flatten.map (·.1) = query.outputNames scope := by
  rw [outputNames]
  have hplan := mapM_eq_ok.1 h
  clear h
  generalize query.projections = projections at hplan ⊢
  induction hplan with
  | nil => rfl
  | cons hfields _ ih =>
    rw [List.flatten_cons, List.map_append, List.flatMap_cons, ih, (known_of_plainColumns hfields).2]

/-- A sort key that is no output column is what `bind` makes of it. -/
theorem known_of_sortKey {bind : OrderKey → Except Cause SortKey} {item : OrderItem} {key : SortKey}
    {columns : List String} (h : query.sortKey columns bind item = .ok key) :
    (∃ name ∈ columns, sameName name (query.keyName item.key) = true) ∨ bind item.key = .ok key := by
  rw [sortKey] at h
  split at h
  next name hname =>
    have hsame := List.find?_some hname
    exact .inl ⟨name, List.mem_of_find?_eq_some hname, hsame⟩
  next => exact .inr h

theorem knowsNames_of_plainListing (haggregated : query.isAggregated = false)
    (hsource : (∀ join ∈ query.join, join.on.Knows scope) ∧ ∀ e ∈ query.filter, e.Knows scope)
    (h : query.plainListing scope rows = .ok listing) : query.KnowsNames db scope := by
  obtain ⟨plan, hplan, h⟩ := bind_eq_ok.1 h
  obtain ⟨keys, hkeys, -⟩ := bind_eq_ok.1 h
  rw [columns_of_plan hplan] at hkeys
  have haggregates := (no_aggregates haggregated).2
  simp only [isAggregated, Bool.or_eq_false_iff, Bool.not_eq_false', List.isEmpty_iff] at haggregated
  obtain ⟨⟨⟨hgroupBy, hhaving⟩, -⟩, -⟩ := haggregated
  refine ⟨fun projection hprojection => ?_, hsource.1, hsource.2, ?_, fun item hitem => ?_, ?_⟩
  · obtain ⟨fields, -, hfields⟩ := exists_right_of_mem (mapM_eq_ok.1 hplan) hprojection
    exact (known_of_plainColumns hfields).1
  · rw [hgroupBy]
    exact List.forall_mem_nil _
  · obtain ⟨key, -, hkey⟩ := exists_right_of_mem (mapM_eq_ok.1 hkeys) hitem
    cases hitemKey : item.key with
    | aggregate call => exact absurd hitemKey (haggregates item hitem call)
    | column ref =>
      rintro _ ⟨⟩
      have hfound := known_of_sortKey hkey
      rw [hitemKey] at hfound
      rcases hfound with hname | hbound
      · exact .inr ⟨rfl, hname⟩
      · obtain ⟨bound, hbound, -⟩ := map_eq_ok.1 hbound
        exact .inl (Scope.names_of_resolve hbound)
  · intro _ _ _ e he
    rw [he] at hhaving
    cases hhaving

end Sql.Select

/-! ## HAVING -/

section

variable {σ : Type} {keeps : σ → Prop} {failing : Cause → Prop} (types : AdmitsTypes failing)
  {leaves : Leaves (StateT σ (Except Cause))} {column : ColumnRef → Prop}
  {aggregate : AggregateCall → Prop}

/-- What is known before a computation that keeps the state is known after it. -/
theorem Runs.known {α : Type} {x : StateT σ (Except Cause) α} {fact : Prop}
    (h : Runs keeps failing x fun _ => True) (hfact : fact) : Runs keeps failing x fun _ => fact :=
  h.mono fun _ _ => hfact

/-- A condition that is evaluated has read its first leaves. -/
theorem Runs.firstLeaves : (e : Expr) → (Judgement.keeping keeps types).LeavesOf leaves e →
    e.LeavesHold (fun ref => Runs keeps failing (leaves.column ref) fun _ => column ref)
      (fun call => Runs keeps failing (leaves.aggregate call) fun _ => aggregate call) →
    Runs keeps failing (e.eval leaves) fun _ => e.FirstLeaves column aggregate
  | .literal value, _, _ => .pure trivial
  | .column _, _, h => h
  | .aggregate _, _, h => h
  | .comparison op left right, hall, h => by
    simp only [Expr.eval]
    refine (firstLeaves left hall.1 h.1).bind fun v hleft =>
      (firstLeaves right hall.2 h.2).bind fun w hright => Runs.known ?_ ⟨hleft, hright⟩
    let J := Judgement.keeping keeps types
    exact J.bind (J.raised (.apply types.incomparable op v w)) fun _ => J.pure _
  | .and left right, hall, h => by
    simp only [Expr.eval]
    refine (firstLeaves left hall.1 h.1).bind fun v hleft => Runs.known ?_ hleft
    let J := Judgement.keeping keeps types
    refine J.bind (J.asTruth v) fun t => ?_
    split
    · exact J.pure _
    · exact J.bind (J.eval right hall.2) fun w => J.bind (J.asTruth w) fun _ => J.pure _
  | .or left right, hall, h => by
    simp only [Expr.eval]
    refine (firstLeaves left hall.1 h.1).bind fun v hleft => Runs.known ?_ hleft
    let J := Judgement.keeping keeps types
    refine J.bind (J.asTruth v) fun t => ?_
    split
    · exact J.pure _
    · exact J.bind (J.eval right hall.2) fun w => J.bind (J.asTruth w) fun _ => J.pure _
  | .not operand, hall, h => by
    simp only [Expr.eval]
    refine (firstLeaves operand hall h).bind fun v hoperand => Runs.known ?_ hoperand
    let J := Judgement.keeping keeps types
    exact J.bind (J.asTruth v) fun _ => J.pure _
  | .isNull operand _, hall, h => by
    simp only [Expr.eval]
    exact (firstLeaves operand hall h).bind fun _ hoperand => .pure hoperand
  | .between operand low high _, hall, h => by
    simp only [Expr.eval]
    refine (firstLeaves operand hall.1 h.1).bind fun u hoperand =>
      (firstLeaves low hall.2.1 h.2.1).bind fun v hlow =>
      (firstLeaves high hall.2.2 h.2.2).bind fun w hhigh =>
      Runs.known ?_ ⟨hoperand, hlow, hhigh⟩
    let J := Judgement.keeping keeps types
    exact J.bind (J.raised (.isBetween types.incomparable u v w)) fun _ => J.pure _
  | .inList operand values _, hall, h => by
    simp only [Expr.eval]
    refine (firstLeaves operand hall.1 h.1).bind fun v hoperand => Runs.known ?_ hoperand
    let J := Judgement.keeping keeps types
    split
    · exact J.pure _
    · exact J.bind (J.evalMember _ _ values hall.2) fun _ => J.pure _
  | .like operand _ _, hall, h => by
    simp only [Expr.eval]
    refine (firstLeaves operand hall h).bind fun v hoperand => Runs.known ?_ hoperand
    let J := Judgement.keeping keeps types
    split
    · exact J.pure _
    · exact J.pure _
  | .unknown _, hall, _ => hall.elim

end

namespace Grouping

variable {g : Grouping} {group : Group}

theorem names_of_position {ref : ColumnRef} {place : Nat} (h : g.position ref = .ok place) :
    g.scope.Names ref := by
  obtain ⟨bound, -, hbound, -⟩ := position_eq_ok h
  exact Scope.names_of_resolve hbound

theorem names_of_checkCall {call : AggregateCall} (h : g.checkCall call = .ok ()) :
    ∀ ref ∈ call.argument, g.scope.Names ref := by
  obtain ⟨fn, _ | ref⟩ := call
  · exact nofun
  · rintro _ ⟨⟩
    obtain ⟨bound, hbound, -⟩ := checkCall_eq_ok h
    exact Scope.names_of_resolve hbound

/-- The argument of a call names a column whatever its letter case. -/
theorem names_of_folded {call other : AggregateCall} (hfolded : call.folded = other.folded)
    (h : g.checkCall call = .ok ()) : ∀ ref ∈ other.argument, g.scope.Names ref := by
  obtain ⟨fn, argument⟩ := call
  obtain ⟨fn', _ | ref'⟩ := other
  · exact nofun
  · rintro _ ⟨⟩
    obtain ⟨ref, rfl, href⟩ := Option.map_eq_some_iff.1 (AggregateCall.mk.inj hfolded).2
    obtain ⟨bound, hbound, -⟩ := checkCall_eq_ok h
    exact Scope.names_of_resolve (Scope.resolve_eq_ok_of_folded href hbound)

/-- The aggregates that are known of a group are of columns in scope. -/
def KnowsCalls (g : Grouping) (known : KnownAggregates) : Prop :=
  ∀ call : AggregateCall, call.Plain → (known.lookup (Text.lower call.text)).isSome = true →
    ∀ ref ∈ call.argument, g.scope.Names ref

abbrev RunsKnowing {α : Type} (g : Grouping) (x : InGroup α) (given : α → Prop) : Prop :=
  Runs g.KnowsCalls (fun _ => True) x given

theorem knowing_aggregate {call : AggregateCall} (h : call.Plain) :
    g.RunsKnowing (g.aggregate group call) fun _ => ∀ ref ∈ call.argument, g.scope.Names ref := by
  refine Runs.bind .get fun known hknown => ?_
  split
  next value hvalue => exact .pure (hknown call h (hvalue ▸ rfl))
  next =>
    have hcheck : g.RunsKnowing (liftM (g.compute group call)) fun _ => g.checkCall call = .ok () :=
      .lift (fun _ _ => trivial) fun _ hvalue => (bind_eq_ok.1 hvalue).choose_spec.1
    refine hcheck.bind fun value hcheck => ?_
    refine Runs.bind (.modify fun known hknown other hother hfound => ?_) fun _ _ =>
      .pure (names_of_checkCall hcheck)
    rw [List.lookup_cons] at hfound
    split at hfound
    next hsame => exact names_of_folded (h.folded_eq hother (beq_iff_eq.1 hsame).symm) hcheck
    next => exact hknown other hother hfound

theorem knowing_keyValue (ref : ColumnRef) :
    g.RunsKnowing (g.keyValue group ref) fun _ => g.scope.Names ref := by
  have hposition : g.RunsKnowing (liftM (g.position ref)) fun _ => g.scope.Names ref :=
    .lift (fun _ _ => trivial) fun _ h => names_of_position h
  exact hposition.bind fun _ hnames => .pure hnames

theorem knowing_project {projection : Projection} (h : projection.Plain) :
    g.RunsKnowing (g.project group projection) fun _ => True := by
  cases projection with
  | star => exact .throw trivial
  | column ref name? => exact (knowing_keyValue ref).mono fun _ _ => trivial
  | aggregate call name? => exact (knowing_aggregate h).mono fun _ _ => trivial

variable {query : Select} (hprojections : g.projections = query.projections)
  (hplain : ∀ projection ∈ query.projections, projection.Plain)

include hprojections hplain

theorem knowing_column (ref : ColumnRef) : g.RunsKnowing ((g.leaves group).column ref)
    fun _ => query.IsAlias ref ∨ g.scope.Names ref := by
  simp only [leaves]
  cases halias : if ref.table.isNone then g.aliased? ref.column else none with
  | none => exact (knowing_keyValue ref).mono fun _ hnames => .inr hnames
  | some projection =>
    split at halias
    next halone =>
      rw [aliased?] at halias
      have hmem := hprojections ▸ List.mem_of_find?_eq_some halias
      have hany : projection.alias?.any (sameName · ref.column) = true := by
        simpa using List.find?_some halias
      obtain ⟨_, hsame⟩ := (Option.any_eq_true_iff_get _ _).1 hany
      have hknown : query.IsAlias ref :=
        ⟨Option.isNone_iff_eq_none.1 halone, projection, hmem, _, Option.get_mem _, hsame⟩
      exact Runs.known (knowing_project (hplain projection hmem)) (.inl hknown)
    next => cases halias

/-- A group that is asked knows what HAVING reads first. -/
theorem firstLeaves_of_entries {e : Expr} {words : List Word} (hwords : AllSpoken words)
    (he : Derives .having .expr words e) {columns : List String} {rest : List Group}
    {entries : List Entry} (h : g.entries (some e) columns (group :: rest) = .ok entries) :
    e.FirstLeaves (fun ref => query.IsAlias ref ∨ g.scope.Names ref)
      fun call => ∀ ref ∈ call.argument, g.scope.Names ref := by
  have htypes : AdmitsTypes fun _ => True := ⟨fun _ => trivial, fun _ _ => trivial⟩
  have hcolumn (ref : ColumnRef) : g.RunsKnowing ((g.leaves group).column ref)
      fun _ => query.IsAlias ref ∨ g.scope.Names ref := knowing_column hprojections hplain ref
  have hruns : g.RunsKnowing (e.eval (g.leaves group)) _ := Runs.firstLeaves htypes e
    (he.leavesHold (fun ref => (hcolumn ref).mono fun _ _ => trivial)
      (fun _ _ _ hcall hspoken => (knowing_aggregate (hcall.plain hspoken)).mono fun _ _ => trivial) hwords)
    (he.leavesHold hcolumn (fun _ _ _ hcall hspoken => knowing_aggregate (hcall.plain hspoken)) hwords)
  obtain ⟨⟨row?, known⟩, hrow, -⟩ := bind_eq_ok.1 h
  obtain ⟨⟨satisfied, known⟩, hsatisfied, -⟩ := bind_eq_ok.1 hrow
  obtain ⟨⟨truth, known⟩, htruth, -⟩ := bind_eq_ok.1 hsatisfied
  obtain ⟨⟨value, known⟩, hvalue, -⟩ := bind_eq_ok.1 htruth
  exact ((hruns [] fun _ _ hnone => by cases hnone).2 value known hvalue).1

end Grouping

/-! ## Queries with groups -/

namespace Sql.Select

variable {query : Select} {db : Database} {scope : Scope} {rows : List Row} {listing : Listing}
  {g : Grouping}

theorem checked_of_ofSelect (h : Grouping.ofSelect scope query = .ok g) :
    ∀ projection ∈ query.projections, g.checkProjection projection = .ok () := by
  obtain ⟨columns, -, h⟩ := bind_eq_ok.1 h
  obtain ⟨_, hchecked, h⟩ := bind_eq_ok.1 h
  obtain rfl := pure_eq_ok.1 h
  exact forM_eq_ok.1 hchecked

theorem names_of_checkProjection {projection : Projection}
    (h : g.checkProjection projection = .ok ()) : ∀ ref ∈ projection.ref?, g.scope.Names ref := by
  cases projection with
  | star => exact nofun
  | column ref name? =>
    rintro _ ⟨⟩
    obtain ⟨place, hplace, -⟩ := map_eq_ok.1 h
    exact Grouping.names_of_position hplace
  | aggregate call name? => exact Grouping.names_of_checkCall h

theorem columns_of_outputName {columns : List String} (hprojections : g.projections = query.projections)
    (h : g.projections.mapM g.outputName = .ok columns) : columns = query.outputNames g.scope := by
  rw [outputNames, ← hprojections]
  have hcolumns := mapM_eq_ok.1 h
  clear h hprojections
  generalize g.projections = projections at hcolumns ⊢
  induction hcolumns with
  | nil => rfl
  | @cons projection name _ _ hname _ ih =>
    have hone : projection.outputNames g.scope = [name] := by
      rcases projection with _ | ⟨ref, _ | other⟩ | ⟨call, name?⟩
      · cases hname
      · rw [Projection.outputNames, show g.scope.outputName ref = .ok name from hname]
        rfl
      · obtain rfl := Except.ok.inj hname
        rfl
      · obtain rfl := Except.ok.inj hname
        rfl
    rw [List.flatMap_cons, hone, List.singleton_append, ih]

theorem groups_ne_nil
    (hcolumns : Forall₂ (fun ref bound => scope.resolve ref = .ok bound) query.groupBy g.columns)
    (h : rows ≠ [] ∨ query.groupBy = []) : g.groups rows ≠ [] := by
  by_cases hnil : g.columns = []
  · rw [Grouping.groups, hnil]
    exact List.cons_ne_nil _ _
  · have hrows : rows ≠ [] := h.resolve_right fun hgroupBy => by
      rw [hgroupBy, List.forall₂_nil_left_iff] at hcolumns
      exact hnil hcolumns
    rw [Grouping.groups_eq hnil]
    cases rows with
    | nil => exact absurd rfl hrows
    | cons row rest => simp [keepFirst]

/-- A call in ORDER BY goes by an output column with the same call, or else by its text. -/
theorem keyName_aggregate (query : Select) (call : AggregateCall) :
    (∃ other name?, .aggregate other name? ∈ query.projections ∧
      sameName other.text call.text = true ∧ query.keyName (.aggregate call) = name?.getD other.text) ∨
    (∀ other name?, .aggregate other name? ∈ query.projections → sameName other.text call.text = false) ∧
      query.keyName (.aggregate call) = call.text := by
  simp only [keyName]
  cases hfound : List.findSome? _ query.projections with
  | some name =>
    obtain ⟨projection, hprojection, hname⟩ := List.exists_of_findSome?_eq_some hfound
    split at hname
    next other name? =>
      split at hname
      next hsame => exact .inl ⟨other, name?, hprojection, hsame, (Option.some.inj hname).symm⟩
      next => cases hname
    next => cases hname
  | none =>
    refine .inr ⟨fun other name? hprojection => Bool.eq_false_iff.2 fun hsame => ?_, rfl⟩
    have hnone := List.findSome?_eq_none_iff.1 hfound _ hprojection
    dsimp only at hnone
    rw [if_pos hsame] at hnone
    cases hnone

/-- A call in ORDER BY is of a column in scope, also where it goes by an output column. -/
theorem names_of_sortKey_aggregate (hscope : g.scope.Named) (hworded : query.Worded)
    (hprojections : g.projections = query.projections)
    (hchecked : ∀ projection ∈ query.projections, g.checkProjection projection = .ok ())
    {columns : List String} (hcolumns : g.projections.mapM g.outputName = .ok columns)
    {item : OrderItem} {call : AggregateCall} (hitem : item.key = .aggregate call) (hcall : call.Plain)
    {key : SortKey} (h : query.sortKey columns (groupKey g) item = .ok key) :
    ∀ ref ∈ call.argument, g.scope.Names ref := by
  rcases known_of_sortKey h with ⟨name, hname, hsame⟩ | hbound
  · rw [hitem] at hsame
    rcases keyName_aggregate query call with ⟨other, name?, hmem, hother, -⟩ | ⟨hnone, hkey⟩
    · have hplain : other.Plain := hworded.spoken.projections _ hmem
      exact Grouping.names_of_folded (hplain.folded_eq hcall (sameName_iff.1 hother)) (hchecked _ hmem)
    · -- no output column goes by the text of the call
      obtain ⟨projection, hprojection, hname⟩ := exists_left_of_mem (mapM_eq_ok.1 hcolumns) hname
      rw [hprojections] at hprojection
      rw [hkey] at hsame
      have htext : IsColumnText name := by
        refine Grouping.isColumnText_outputName hscope (hworded.aliases projection hprojection) ?_ hname
        rintro other rfl
        obtain rfl := Except.ok.inj hname
        exact Bool.eq_false_iff.1 (hnone other none hprojection) hsame
      exact absurd hsame (Bool.eq_false_iff.1 (not_sameName_text htext hcall))
  · rw [hitem] at hbound
    obtain ⟨_, hcheck, -⟩ := map_eq_ok.1 hbound
    exact Grouping.names_of_checkCall hcheck

theorem knowsNames_of_groupedListing (hscope : scope.Named) (hworded : query.Worded)
    (hread : query.source db = .ok (scope, rows))
    (hsource : (∀ join ∈ query.join, join.on.Knows scope) ∧ ∀ e ∈ query.filter, e.Knows scope)
    (h : query.groupedListing scope rows = .ok listing) : query.KnowsNames db scope := by
  obtain ⟨g, hg, h⟩ := bind_eq_ok.1 h
  obtain ⟨columns, hcolumns, h⟩ := bind_eq_ok.1 h
  obtain ⟨entries, hentries, h⟩ := bind_eq_ok.1 h
  obtain ⟨keys, hkeys, -⟩ := bind_eq_ok.1 h
  obtain ⟨rfl, hprojections, hgroupBy⟩ := Grouping.ofSelect_eq_ok hg
  have hchecked := checked_of_ofSelect hg
  refine ⟨fun projection hprojection => names_of_checkProjection (hchecked projection hprojection),
    hsource.1, hsource.2, fun ref href => ?_, fun item hitem => ?_, fun others hothers hgroup e he => ?_⟩
  · obtain ⟨bound, -, hbound⟩ := exists_right_of_mem hgroupBy href
    exact Scope.names_of_resolve hbound
  · obtain ⟨key, -, hkey⟩ := exists_right_of_mem (mapM_eq_ok.1 hkeys) hitem
    cases hitemKey : item.key with
    | aggregate call =>
      intro ref href
      exact .inl (names_of_sortKey_aggregate hscope hworded hprojections hchecked hcolumns hitemKey
        (hworded.spoken.orderBy item hitem call hitemKey) hkey ref href)
    | column ref =>
      rintro _ ⟨⟩
      have hfound := known_of_sortKey hkey
      rw [hitemKey, columns_of_outputName hprojections hcolumns] at hfound
      rcases hfound with hname | hbound
      · exact .inr ⟨rfl, hname⟩
      · obtain ⟨place, hplace, -⟩ := map_eq_ok.1 hbound
        exact .inl (Grouping.names_of_position hplace)
  · obtain rfl : others = rows := congrArg Prod.snd (Except.ok.inj (hothers.symm.trans hread))
    obtain ⟨words, hwords, hderives⟩ := hworded.spoken.having e he
    cases hgroups : g.groups others with
    | nil => exact absurd hgroups (groups_ne_nil hgroupBy hgroup)
    | cons group rest =>
      rw [hgroups, he] at hentries
      exact Grouping.firstLeaves_of_entries hprojections hworded.spoken.projections hwords hderives hentries

theorem named_of_scope? (hdb : db.Built) (h : query.scope? db = some scope) : scope.Named := by
  have hnamed {name : String} {table : Table} (h : db.table? name = some table) : table.schema.Named :=
    hdb.named table (List.mem_of_find?_eq_some h)
  rw [scope?] at h
  obtain ⟨table, htable, h⟩ := Option.bind_eq_some_iff.1 h
  split at h
  · obtain rfl := Option.some.inj h
    exact List.forall_mem_singleton.2 (hnamed htable)
  · obtain ⟨other, hother, h⟩ := Option.bind_eq_some_iff.1 h
    obtain rfl := Option.some.inj h
    exact List.forall_mem_cons.2 ⟨hnamed htable, List.forall_mem_singleton.2 (hnamed hother)⟩

/-- **A query that is answered knows its names.** -/
theorem knowsNames_of_run (hdb : db.Built) (hstated : Statement.Stated (.select query))
    (h : query.run db = .ok listing) : (Statement.select query).KnowsNames db := by
  obtain ⟨⟨scope, rows⟩, hsource, h⟩ := bind_eq_ok.1 h
  have hscope := scope_of_source hsource
  obtain ⟨hjoin, hfilter⟩ := hstated.regular
  have hknows := knows_of_source hjoin hfilter hsource
  rintro other hother
  obtain rfl := Option.some.inj (hscope.symm.trans hother)
  cases haggregated : query.isAggregated with
  | true =>
    simp only [haggregated, if_true] at h
    exact knowsNames_of_groupedListing (named_of_scope? hdb hscope) hstated.worded hsource hknows h
  | false =>
    simp only [haggregated, Bool.false_eq_true, if_false] at h
    exact knowsNames_of_plainListing haggregated hknows h

end Sql.Select

/-! ## Statements -/

theorem Catalog.knowsNames_of_plan {catalog : Catalog} {session : Session} {clock : String}
    {db : Database} (hdb : db.Built) (hselected : catalog.selected session = .ok db)
    {statement : Statement} (hstated : statement.Stated) {plan : Plan}
    (h : catalog.plan session clock statement = .ok plan) : statement.KnowsNames db := by
  have hregular := hstated.regular
  cases statement with
  | select query =>
    obtain ⟨_, hother, h⟩ := bind_eq_ok.1 h
    obtain rfl := Except.ok.inj (hselected.symm.trans hother)
    obtain ⟨listing, hlisting, -⟩ := bind_eq_ok.1 h
    exact Select.knowsNames_of_run hdb hstated hlisting
  | update tableName items filter =>
    obtain ⟨_, hother, h⟩ := bind_eq_ok.1 h
    obtain rfl := Except.ok.inj (hselected.symm.trans hother)
    obtain ⟨table, htable, h⟩ := bind_eq_ok.1 h
    obtain ⟨values, hvalues, h⟩ := bind_eq_ok.1 h
    obtain ⟨rows, hrows, -⟩ := bind_eq_ok.1 h
    rintro other hother
    obtain rfl := Option.some.inj ((Database.requireTable_eq_ok.1 htable).symm.trans hother)
    exact ⟨Table.names_of_bindAssignments hvalues, Table.knows_of_matching hregular hrows⟩
  | delete tableName filter =>
    obtain ⟨_, hother, h⟩ := bind_eq_ok.1 h
    obtain rfl := Except.ok.inj (hselected.symm.trans hother)
    obtain ⟨table, htable, h⟩ := bind_eq_ok.1 h
    obtain ⟨rows, hrows, -⟩ := bind_eq_ok.1 h
    rintro other hother
    obtain rfl := Option.some.inj ((Database.requireTable_eq_ok.1 htable).symm.trans hother)
    exact Table.knows_of_matching hregular hrows
  | _ => trivial

/-- **A statement with a name that it does not know fails, and changes nothing**, whatever rows the
tables have. Names in HAVING count where a group comes to them first. -/
theorem Catalog.Reached.unknownName_refused {w : Workspace} (h : w.engine.catalog.Reached) {sql : String}
    {statement : Statement} (hparse : parse sql = .ok statement) {db : Database}
    (hselected : w.engine.catalog.selected w.session = .ok db) (hunknown : ¬ statement.KnowsNames db) :
    ∃ cause, w.execute sql = (w, .error ⟨cause, some sql⟩) := by
  have hdb := h.built.databases db (Catalog.mem_of_selected hselected)
  cases hplan : w.engine.catalog.plan w.session w.engine.disk.clock statement with
  | error cause =>
    refine ⟨cause, ?_⟩
    simp only [Workspace.execute, hparse, Workspace.runAs, Workspace.run, hplan]
  | ok plan => exact absurd (Catalog.knowsNames_of_plan hdb hselected (stated_of_parse hparse) hplan) hunknown

/-- A query of which the first condition is never satisfied, and the second is of no column. -/
def pricedBooks : Select where
  distinct := false
  projections := [.column ⟨none, "title"⟩ none]
  table := "books"
  join := none
  filter := some (.and (.comparison .eq (.literal (Value.ofText "a")) (.literal (Value.ofText "b")))
    (.isNull (.column ⟨none, "price"⟩) false))
  groupBy := []
  having := none
  orderBy := []
  limit := none
  offset := none

theorem unknownName_refused_shop :
    let sql := "SELECT title FROM books WHERE 'a' = 'b' AND price IS NULL"
    let db : Database := ⟨"shop", [authors, books]⟩
    let w : Workspace := ⟨⟨⟨none, [db]⟩, ⟨.root, [], "", []⟩⟩, ⟨some "shop"⟩⟩
    w.engine.catalog.Reached ∧ parse sql = .ok (.select pricedBooks) ∧
      w.engine.catalog.selected w.session = .ok db ∧ ¬ (Statement.select pricedBooks).KnowsNames db ∧
      ∃ cause, w.execute sql = (w, .error ⟨cause, some sql⟩) := by
  intro sql db w
  have hparse : parse sql = .ok (.select pricedBooks) := by cbv
  have hselected : w.engine.catalog.selected w.session = .ok db := by decide +kernel
  have hunknown : ¬ (Statement.select pricedBooks).KnowsNames db := fun h =>
    have hprice : books.scope.Names ⟨none, "price"⟩ := ((h books.scope rfl).filter _ rfl).2
    absurd hprice (by decide)
  exact ⟨reached_shop, hparse, hselected, hunknown,
    Catalog.Reached.unknownName_refused reached_shop hparse hselected hunknown⟩

/-- A table without rows. -/
def bare : Table where
  schema := ⟨"t", [⟨"id", .int, true, false, none⟩]⟩
  primaryKey := ⟨"id", .int, true, false, none⟩
  rows := []
  nextId := 1
  indexes := [⟨"id", []⟩]

/-- A query of which HAVING is of no column. -/
def nopeGroups : Select where
  distinct := false
  projections := [.column ⟨none, "id"⟩ none]
  table := "t"
  join := none
  filter := none
  groupBy := [⟨none, "id"⟩]
  having := some (.isNull (.column ⟨none, "nope"⟩) false)
  orderBy := []
  limit := none
  offset := none

/-- **HAVING can have any name** where no group is asked. -/
theorem unknownName_in_having :
    let sql := "SELECT id FROM t GROUP BY id HAVING nope IS NULL"
    let w : Workspace := ⟨⟨⟨none, [⟨"d", [bare]⟩]⟩, ⟨.root, [], "", []⟩⟩, ⟨some "d"⟩⟩
    w.engine.catalog.Reached ∧ parse sql = .ok (.select nopeGroups) ∧
      w.engine.catalog.selected w.session = .ok ⟨"d", [bare]⟩ ∧
      nopeGroups.scope? ⟨"d", [bare]⟩ = some bare.scope ∧ ¬ bare.scope.Names ⟨none, "nope"⟩ ∧
      ¬ nopeGroups.IsAlias ⟨none, "nope"⟩ ∧ (w.execute sql).2 = .ok (.rows ⟨["id"], []⟩) := by
  intro sql w
  have hreached : Catalog.Reached ⟨none, [⟨"d", [bare]⟩]⟩ := by
    have hbare : (Workspace.executeAll ⟨⟨.inMemory, ⟨.root, [], "", []⟩⟩, {}⟩
        ["CREATE DATABASE d", "USE d", "CREATE TABLE t (id INT PRIMARY KEY)"]).engine.catalog =
        ⟨none, [⟨"d", [bare]⟩]⟩ := by
      decide +kernel
    exact hbare ▸ Catalog.Reached.executeAll (.new none) _
  have halias : ¬ nopeGroups.IsAlias ⟨none, "nope"⟩ := by
    rintro ⟨-, projection, hprojection, name, hname, -⟩
    obtain rfl := List.mem_singleton.1 hprojection
    cases hname
  exact ⟨hreached, by cbv, by decide +kernel, rfl, by decide, halias, by decide +kernel⟩

end RelStore
