/-
Queries and their names in lower case.

Groups are asked for the same, since what is known of a group is held under texts in lower case, and
they answer the same (`answers_leaves`). So a query under names in lower case has the same answer but
for its headings (`paired_run`).
-/
import RelStore.Proofs.Query.Headings
import RelStore.Proofs.Query.Names

namespace RelStore

open Sql
open List (Forall₂)
open Text (sameName lower lowerLetters)

/-- The values of an answer, row by row and column by column. -/
def Listing.values (listing : Listing) : List (List Value) :=
  listing.rows.map fun row => listing.columns.map row.get

/-- The same values at all places, under headings that differ in letter case at most. -/
structure Listing.Recased (listing other : Listing) : Prop where
  columns : Forall₂ SameHeading listing.columns other.columns
  values : listing.values = other.values

/-! ## Rows -/

namespace Sql.Select

variable {columns columns' : List String}

theorem paired_recased {x y : Except Cause Listing} (hcolumns : Forall₂ SameHeading columns columns')
    (h : Paired Cause.SameCode (fun listing listing' => listing.columns = columns ∧
      listing'.columns = columns' ∧ Forall₂ (SameFields columns columns') listing.rows listing'.rows) x y) :
    Paired Cause.SameCode Listing.Recased x y := by
  refine h.mono ?_
  rintro ⟨_, rows⟩ ⟨_, rows'⟩ ⟨rfl, rfl, hrows⟩
  exact ⟨hcolumns, map_eq_map hrows fun _ _ hrow => hrow.map_get_eq⟩

theorem agree_plainColumns (scope : Scope) (projection : Projection) :
    Agree (plainColumns scope projection) (plainColumns scope (projection.renamed lowerLetters)) := by
  cases projection with
  | star => exact .refl _
  | aggregate call name? => exact .error ⟨rfl, rfl⟩
  | column ref name? =>
    cases name? with
    | some name => exact (scope.agree_resolve ref).use fun _ => .refl _
    | none => exact (scope.agree_outputName ref).use fun _ => (scope.agree_resolve ref).use fun _ => .refl _

theorem told_sourceKey (scope : Scope) (key : OrderKey) : Paired Cause.SameCode (SortKey.Told columns columns')
    (sourceKey scope key) (sourceKey scope (key.renamed lowerLetters)) := by
  cases key with
  | aggregate call => exact .error ⟨rfl, rfl⟩
  | column ref => exact (scope.agree_resolve ref).map fun _ _ _ => .column ref

theorem paired_orderBy (query : Select) (hcolumns : Forall₂ SameHeading columns columns')
    {bind bind' : OrderKey → Except Cause SortKey}
    (hbind : ∀ key, Paired Cause.SameCode (SortKey.Told columns columns') (bind key)
      (bind' (key.renamed lowerLetters))) :
    Paired Cause.SameCode (Forall₂ (SortKey.Told columns columns'))
      (query.orderBy.mapM (query.sortKey columns bind))
      ((query.renamed lowerLetters).orderBy.mapM ((query.renamed lowerLetters).sortKey columns' bind')) := by
  have hitems : Forall₂ (fun item item' => OrderItem.renamed lowerLetters item = item') query.orderBy
      (query.renamed lowerLetters).orderBy :=
    List.forall₂_map_right_iff.2 (List.forall₂_same.2 fun _ _ => rfl)
  let := Lockstep.codes
  exact Lockstep.mapM (m := Except Cause) hitems fun item _ heq =>
    heq ▸ query.paired_sortKey hcolumns hbind item

theorem paired_plainListing (query : Select) (scope : Scope) (rows : List Row) :
    Paired Cause.SameCode Listing.Recased (query.plainListing scope rows)
      ((query.renamed lowerLetters).plainListing scope rows) := by
  refine Paired.use (Paired.each (agree_plainColumns scope) query.projections) fun plan => ?_
  have hcolumns : Forall₂ SameHeading (plan.flatten.map (·.1)) (plan.flatten.map (·.1)) :=
    List.forall₂_same.2 fun _ _ => .inl rfl
  refine (query.paired_orderBy hcolumns (told_sourceKey scope)).bind fun keys keys' hkeys => ?_
  refine paired_recased hcolumns (query.paired_shape
    (R := fun a b => a = b ∧ SameFields (plan.flatten.map (·.1)) (plan.flatten.map (·.1)) a.1 a.1)
    ?_ (fun _ _ h => h.1 ▸ h.2) ?_)
  · rw [List.forall₂_map_left_iff, List.forall₂_map_right_iff]
    exact List.forall₂_same.2 fun source _ => ⟨rfl, sameFields_ofList fun _ _ => .inl fun _ _ => Iff.rfl⟩
  · rintro ⟨row, source⟩ _ ⟨rfl, hrow⟩
    let := Lockstep.codes
    have hvalues := Lockstep.mapM (m := Except Cause) hkeys fun key key' h =>
      h.inStep_value (scope.leaves source) (scope.leaves source) (scope.agree_read source)
        (fun call => Paired.error ⟨rfl, rfl⟩) hrow
    exact hvalues.mono fun _ _ hall => (List.forall₂_eq_eq_eq ▸ hall :)

end Sql.Select

/-! ## Groups -/

/-- A grouping under other names of what is shown. -/
def Grouping.renamed (rename : String → String) (g : Grouping) : Grouping :=
  { g with projections := g.projections.map (Projection.renamed rename) }

theorem Sql.Projection.alias?_renamed (rename : String → String) (projection : Projection) :
    (projection.renamed rename).alias? = projection.alias? := by
  cases projection <;> rfl

namespace Grouping

variable (g : Grouping) (group : Group)

theorem agree_position (ref : ColumnRef) :
    Agree (g.position ref) ((g.renamed lowerLetters).position (ref.renamed lowerLetters)) := by
  refine (g.scope.agree_resolve ref).use fun bound => ?_
  simp only [renamed]
  split
  · exact .refl _
  · exact .error ⟨rfl, rfl⟩

theorem agree_checkCall (call : AggregateCall) :
    Agree (g.checkCall call) ((g.renamed lowerLetters).checkCall (call.renamed lowerLetters)) := by
  obtain ⟨fn, _ | ref⟩ := call
  · exact .refl _
  refine (g.scope.agree_resolve ref).use fun bound => ?_
  exact .ite Iff.rfl (fun _ => .error ⟨rfl, rfl⟩) fun _ => .refl _

theorem agree_compute (call : AggregateCall) :
    Agree (g.compute group call) ((g.renamed lowerLetters).compute group (call.renamed lowerLetters)) := by
  refine (g.agree_checkCall call).use fun _ => ?_
  obtain ⟨fn, _ | ref⟩ := call
  · exact .refl _
  · exact (g.scope.agree_resolve ref).use fun _ => .refl _

theorem answers_aggregate (call : AggregateCall) : Answers (· = ·) (g.aggregate group call)
    ((g.renamed lowerLetters).aggregate group (call.renamed lowerLetters)) := by
  have hget : Answers (· = ·) (get : InGroup KnownAggregates) get := fun _ => .ok ⟨rfl, rfl⟩
  rw [aggregate, aggregate, lower_text_renamed]
  refine hget.use fun known => ?_
  split
  · exact .pure rfl
  · exact (Answers.lift (g.agree_compute group call)).use fun _ _ => .ok ⟨rfl, rfl⟩

theorem answers_keyValue (ref : ColumnRef) : Answers (· = ·) (g.keyValue group ref)
    ((g.renamed lowerLetters).keyValue group (ref.renamed lowerLetters)) :=
  (Answers.lift (g.agree_position ref)).use fun _ => .pure rfl

theorem answers_project (projection : Projection) : Answers (· = ·) (g.project group projection)
    ((g.renamed lowerLetters).project group (projection.renamed lowerLetters)) := by
  cases projection with
  | star => exact .throw (.refl _)
  | column ref name? => exact g.answers_keyValue group ref
  | aggregate call name? => exact g.answers_aggregate group call

theorem aliased?_renamed (name : String) : (g.renamed lowerLetters).aliased? (lowerLetters name) =
    (g.aliased? name).map (Projection.renamed lowerLetters) := by
  simp only [aliased?, renamed, List.find?_map, Function.comp_def, Projection.alias?_renamed,
    sameName_lowerLetters]

theorem answers_column (ref : ColumnRef) : Answers (· = ·) ((g.leaves group).column ref)
    (((g.renamed lowerLetters).leaves group).column (ref.renamed lowerLetters)) := by
  obtain ⟨_ | table, column⟩ := ref
  · have hkey := g.answers_keyValue group ⟨none, column⟩
    simp only [leaves, ColumnRef.renamed, Option.map_none, Option.isNone_none, if_true, aliased?_renamed]
      at hkey ⊢
    cases g.aliased? column with
    | none => exact hkey
    | some projection => exact g.answers_project group projection
  · exact g.answers_keyValue group ⟨some table, column⟩

theorem answers_isSatisfied (condition : Option Expr) : Answers (· = ·)
    (isSatisfied (g.leaves group) condition)
    (isSatisfied ((g.renamed lowerLetters).leaves group) (condition.map (Expr.renamed lowerLetters))) := by
  have halike {x y : InGroup Value} (h : Answers (· = ·) x y) : Answers Value.Alike x y :=
    fun known => (h known).mono fun _ _ hboth => ⟨hboth.1 ▸ .refl _, hboth.2⟩
  rw [isSatisfied_renamed]
  let := Lockstep.groupCodes
  exact inStep_isSatisfied (m := InGroup)
    ⟨fun ref => halike (g.answers_column group ref), fun call => halike (g.answers_aggregate group call)⟩ condition

/-! ### What is known of a group -/

/-- What is known stays known. -/
def Extends (known known' : KnownAggregates) : Prop :=
  ∀ name value, known.lookup name = some value → known'.lookup name = some value

variable {g group}

/-- A group that was asked for an aggregate knows it. -/
theorem knows_of_run_aggregate {call : AggregateCall} {known known' : KnownAggregates} {value : Value}
    (h : (g.aggregate group call).run known = .ok (value, known')) :
    Extends known known' ∧ known'.lookup (lower call.text) = some value := by
  rw [aggregate, StateT.run_bind] at h
  obtain ⟨⟨_, _⟩, hget, h⟩ := bind_eq_ok.1 h
  obtain ⟨rfl, rfl⟩ := Prod.mk.inj (Except.ok.inj hget)
  split at h
  next found hfound =>
    obtain ⟨rfl, rfl⟩ := Prod.mk.inj (Except.ok.inj h)
    exact ⟨fun _ _ h => h, hfound⟩
  next hnew =>
    rw [StateT.run_bind] at h
    obtain ⟨⟨computed, _⟩, hcomputed, h⟩ := bind_eq_ok.1 h
    obtain ⟨_, -, hlift⟩ := bind_eq_ok.1 hcomputed
    obtain ⟨rfl, rfl⟩ := Prod.mk.inj (Except.ok.inj hlift)
    obtain ⟨rfl, rfl⟩ := Prod.mk.inj (Except.ok.inj h)
    refine ⟨fun name value hvalue => ?_, List.lookup_cons_self⟩
    have hname : (name == lower call.text) = false := beq_false_of_ne fun heq => by
      rw [heq, hnew] at hvalue
      cases hvalue
    rwa [List.lookup_cons, hname]

theorem knows_of_run_project {projection : Projection} {known known' : KnownAggregates} {value : Value}
    (h : (g.project group projection).run known = .ok (value, known')) :
    Extends known known' ∧
      ∀ call name?, projection = .aggregate call name? → known'.lookup (lower call.text) = some value := by
  cases projection with
  | star => cases h
  | aggregate call name? =>
    obtain ⟨hextends, hknown⟩ := knows_of_run_aggregate h
    refine ⟨hextends, ?_⟩
    rintro _ _ ⟨⟩
    exact hknown
  | column ref name? =>
    obtain ⟨⟨place, _⟩, hplace, h⟩ := bind_eq_ok.1 h
    obtain ⟨_, -, hlift⟩ := bind_eq_ok.1 hplace
    obtain ⟨rfl, rfl⟩ := Prod.mk.inj (Except.ok.inj hlift)
    obtain ⟨rfl, rfl⟩ := Prod.mk.inj (Except.ok.inj h)
    exact ⟨fun _ _ h => h, nofun⟩

theorem knows_of_run_mapM {projections : List Projection} {known known' : KnownAggregates}
    {values : List Value} (h : (projections.mapM (g.project group)).run known = .ok (values, known')) :
    Extends known known' ∧ Forall₂ (fun projection value => ∀ call name?,
      projection = .aggregate call name? → known'.lookup (lower call.text) = some value) projections values := by
  induction projections generalizing known values with
  | nil =>
    rw [List.mapM_nil] at h
    obtain ⟨rfl, rfl⟩ := Prod.mk.inj (Except.ok.inj h)
    exact ⟨fun _ _ h => h, .nil⟩
  | cons projection rest ih =>
    rw [List.mapM_cons, StateT.run_bind] at h
    obtain ⟨⟨value, between⟩, hvalue, h⟩ := bind_eq_ok.1 h
    rw [StateT.run_bind] at h
    obtain ⟨⟨others, _⟩, hothers, h⟩ := bind_eq_ok.1 h
    obtain ⟨rfl, rfl⟩ := Prod.mk.inj (Except.ok.inj h)
    obtain ⟨hfirst, hknows⟩ := knows_of_run_project hvalue
    obtain ⟨hextends, hrest⟩ := ih hothers
    exact ⟨fun name v hv => hextends _ _ (hfirst _ _ hv),
      .cons (fun call name? heq => hextends _ _ (hknows call name? heq)) hrest⟩

/-! ### Headings -/

/-- What an output column is called, and what under names in lower case. -/
def Headed (projection : Projection) (name name' : String) : Prop :=
  name = name' ∧ IsColumnText name ∨
    ∃ call, projection = .aggregate call none ∧ name = call.text ∧ name' = (call.renamed lowerLetters).text

theorem Headed.sameHeading {projection : Projection} {name name' : String}
    (h : Headed projection name name') : SameHeading name name' := by
  rcases h with ⟨rfl, -⟩ | ⟨call, -, rfl, rfl⟩
  · exact .inl rfl
  · exact .inr ⟨call, _, rfl, rfl, sameName_iff.2 (lower_text_renamed call).symm⟩

theorem paired_outputName (hscope : g.scope.Named) {projection : Projection}
    (halias : ∀ name ∈ projection.alias?, OfWordChars name) :
    Paired Cause.SameCode (Headed projection) (g.outputName projection)
      ((g.renamed lowerLetters).outputName (projection.renamed lowerLetters)) := by
  by_cases hcall : ∃ call, projection = .aggregate call none
  · obtain ⟨call, rfl⟩ := hcall
    exact .ok (.inr ⟨call, rfl, rfl, rfl⟩)
  have hcall' : ∀ call, projection ≠ .aggregate call none := fun call h => hcall ⟨call, h⟩
  have hsame : Agree (g.outputName projection)
      ((g.renamed lowerLetters).outputName (projection.renamed lowerLetters)) := by
    rcases projection with _ | ⟨ref, _ | name⟩ | ⟨call, _ | name⟩
    · exact .error (.refl _)
    · exact g.scope.agree_outputName ref
    · exact .refl _
    · exact absurd rfl (hcall' call)
    · exact .refl _
  have hnamed := hsame.and_ok (fun _ => isColumnText_outputName hscope halias hcall') fun _ _ => trivial
  exact hnamed.mono fun _ _ h => .inl ⟨h.1, h.2.1⟩

/-- The name of an output column that has one. -/
def heading (g : Grouping) (projection : Projection) : String := (g.outputName projection).toOption.getD ""

theorem map_heading {projections : List Projection} {columns : List String}
    (h : projections.mapM g.outputName = .ok columns) : columns = projections.map g.heading := by
  have hcolumns := mapM_eq_ok.1 h
  clear h
  induction hcolumns with
  | nil => rfl
  | cons hname _ ih => rw [List.map_cons, ← ih, heading, hname]; rfl

/-- **Rows of groups have the same values** under headings that are spelled in another way. -/
theorem sameFields_of_run (hscope : g.scope.Named)
    (halias : ∀ projection ∈ g.projections, ∀ name ∈ projection.alias?, OfWordChars name)
    {columns columns' : List String} (hcolumns : g.projections.mapM g.outputName = .ok columns)
    (hcolumns' : (g.renamed lowerLetters).projections.mapM (g.renamed lowerLetters).outputName = .ok columns')
    {known known' : KnownAggregates} {values : List Value}
    (hrun : (g.projections.mapM (g.project group)).run known = .ok (values, known')) :
    SameFields columns columns' (Row.ofList (columns.zip values)) (Row.ofList (columns'.zip values)) := by
  let heading' (projection : Projection) := (g.renamed lowerLetters).heading (projection.renamed lowerLetters)
  have hheaded : ∀ projection ∈ g.projections, Headed projection (g.heading projection) (heading' projection) := by
    intro projection hprojection
    obtain ⟨name, -, hname⟩ := exists_right_of_mem (mapM_eq_ok.1 hcolumns) hprojection
    obtain ⟨name', -, hname'⟩ := exists_right_of_mem (mapM_eq_ok.1 hcolumns')
      (List.mem_map_of_mem (f := Projection.renamed lowerLetters) hprojection)
    have hpaired := paired_outputName hscope (halias projection hprojection)
    simp only [heading, heading', hname, hname'] at hpaired ⊢
    cases hpaired with
    | ok h => exact h
  obtain ⟨-, hknows⟩ := knows_of_run_mapM hrun
  have hmap (f : Projection → String) : g.projections.map f = (g.projections.zip values).map fun i => f i.1 := by
    rw [← Function.comp_def, ← List.map_map, List.map_fst_zip hknows.length_eq.le]
  have hzip (f : Projection → String) : (g.projections.map f).zip values =
      (g.projections.zip values).map fun i => (f i.1, i.2) := List.zip_map_left
  have hcolumns' : columns' = g.projections.map heading' := (map_heading hcolumns').trans List.map_map
  rw [map_heading hcolumns, hcolumns', hzip, hzip, hmap, hmap heading']
  have hitem (i : Projection × Value) (hi : i ∈ g.projections.zip values) :
      Headed i.1 (g.heading i.1) (heading' i.1) := hheaded i.1 (List.of_mem_zip hi).1
  refine sameFields_ofList fun i hi => ?_
  rcases hitem i hi with ⟨hsame, htext⟩ | ⟨call, hcall, hname, hname'⟩
  · -- no column goes by the text of an aggregate
    refine .inl fun j hj => ?_
    rcases hitem j hj with ⟨hsame', -⟩ | ⟨other, -, hother, hother'⟩
    · rw [hsame, hsame']
    · rw [← hsame, hother, hother']
      exact iff_of_false (htext.ne_text other).symm (htext.ne_text _).symm
  · -- what goes by the same text was known already
    refine .inr fun j hj hnames => ?_
    rcases hitem j hj with ⟨hsame, htext⟩ | ⟨other, hprojection, hother, hother'⟩
    · rw [← hsame, hname, hname'] at hnames
      exact (hnames.elim (htext.ne_text call) (htext.ne_text _)).elim
    · have hlower : lower other.text = lower call.text := by
        rw [hname, hother, hname', hother'] at hnames
        rcases hnames with heq | heq
        · rw [heq]
        · rw [← lower_text_renamed other, heq, lower_text_renamed]
      have hj := List.forall₂_zip hknows hj other none hprojection
      have hi := List.forall₂_zip hknows hi call none hcall
      rw [hlower] at hj
      exact Option.some.inj (hj.symm.trans hi)

/-! ### Output -/

/-- Entries of one group, with the same values under both headings. -/
structure Entry.Told (columns columns' : List String) (entry entry' : Entry) : Prop where
  row : SameFields columns columns' entry.row entry'.row
  group : entry.group = entry'.group
  known : entry.known = entry'.known

section

variable (hscope : g.scope.Named)
  (halias : ∀ projection ∈ g.projections, ∀ name ∈ projection.alias?, OfWordChars name)
  {columns columns' : List String} (hcolumns : g.projections.mapM g.outputName = .ok columns)
  (hcolumns' : (g.renamed lowerLetters).projections.mapM (g.renamed lowerLetters).outputName = .ok columns')

include hscope halias hcolumns hcolumns'

theorem answers_outputRow? (having : Option Expr) (group : Group) :
    Answers (Option.Rel (SameFields columns columns')) (g.outputRow? having columns group)
      ((g.renamed lowerLetters).outputRow? (having.map (Expr.renamed lowerLetters)) columns' group) := by
  refine (g.answers_isSatisfied group having).use fun holds => ?_
  cases holds with
  | false => exact .pure .none
  | true =>
    have hprojections : Answers (Forall₂ (· = ·)) (g.projections.mapM (g.project group))
        ((g.renamed lowerLetters).projections.mapM ((g.renamed lowerLetters).project group)) := by
      let := Lockstep.groupCodes
      exact Lockstep.mapM (m := InGroup)
        (List.forall₂_map_right_iff.2 (List.forall₂_same.2 fun _ _ => rfl))
        fun projection _ (heq : projection.renamed lowerLetters = _) => heq ▸ g.answers_project group projection
    intro known
    refine ((hprojections known).and_ok (fun _ hrun => hrun) fun _ _ => trivial).bind ?_
    rintro ⟨values, known'⟩ ⟨_, _⟩ ⟨⟨hvalues, rfl⟩, hrun, -⟩
    obtain rfl := List.forall₂_eq_eq_eq ▸ hvalues
    exact .ok ⟨.some (sameFields_of_run hscope halias hcolumns hcolumns' hrun), rfl⟩

theorem paired_entries (having : Option Expr) (groups : List Group) :
    Paired Cause.SameCode (Forall₂ (Entry.Told columns columns')) (g.entries having columns groups)
      ((g.renamed lowerLetters).entries (having.map (Expr.renamed lowerLetters)) columns' groups) := by
  induction groups with
  | nil => exact .ok .nil
  | cons group rest ih =>
    refine (answers_outputRow? hscope halias hcolumns hcolumns' having group []).bind ?_
    rintro ⟨row?, known⟩ ⟨row'?, _⟩ ⟨hrow, rfl⟩
    refine ih.bind fun others others' hothers => .ok ?_
    cases hrow with
    | none => exact hothers
    | some hrow => exact .cons ⟨hrow, rfl, rfl⟩ hothers

end

end Grouping

namespace Sql.Select

variable {query : Select} {scope : Scope} {columns columns' : List String}

theorem agree_checkProjection (g : Grouping) (projection : Projection) : Agree (g.checkProjection projection)
    ((g.renamed lowerLetters).checkProjection (projection.renamed lowerLetters)) := by
  cases projection with
  | star => exact .refl _
  | column ref name? => exact (g.agree_position ref).map fun _ _ _ => rfl
  | aggregate call name? => exact g.agree_checkCall call

theorem paired_ofSelect (query : Select) (scope : Scope) :
    Paired Cause.SameCode (fun g g' => g' = g.renamed lowerLetters) (Grouping.ofSelect scope query)
      (Grouping.ofSelect scope (query.renamed lowerLetters)) := by
  refine (Paired.each scope.agree_resolve query.groupBy).use fun columns => ?_
  let g : Grouping := ⟨scope, query.projections, columns⟩
  exact (Paired.forEach (agree_checkProjection g) query.projections).use fun _ => .ok rfl

theorem told_groupKey (g : Grouping) (key : OrderKey) : Paired Cause.SameCode (SortKey.Told columns columns')
    (groupKey g key) (groupKey (g.renamed lowerLetters) (key.renamed lowerLetters)) := by
  cases key with
  | aggregate call => exact (g.agree_checkCall call).map fun _ _ _ => .aggregate call
  | column ref => exact (g.agree_position ref).map fun _ _ _ => .column ref

theorem paired_groupedListing (hscope : scope.Named)
    (halias : ∀ projection ∈ query.projections, ∀ name ∈ projection.alias?, OfWordChars name)
    (rows : List Row) : Paired Cause.SameCode Listing.Recased (query.groupedListing scope rows)
      ((query.renamed lowerLetters).groupedListing scope rows) := by
  refine ((query.paired_ofSelect scope).and_ok (fun _ => Grouping.ofSelect_eq_ok) fun _ _ => trivial).bind ?_
  rintro g _ ⟨rfl, ⟨rfl, hprojections, -⟩, -⟩
  rw [← hprojections] at halias
  have hcolumns : Paired Cause.SameCode (Forall₂ SameHeading) (g.projections.mapM g.outputName)
      ((g.renamed lowerLetters).projections.mapM (g.renamed lowerLetters).outputName) := by
    let := Lockstep.codes
    refine Lockstep.mapM (m := Except Cause) (R := fun p q => p ∈ g.projections ∧ p.renamed lowerLetters = q)
      (List.forall₂_map_right_iff.2 (List.forall₂_same.2 fun _ h => ⟨h, rfl⟩)) ?_
    rintro projection _ ⟨hprojection, rfl⟩
    exact (Grouping.paired_outputName hscope (halias projection hprojection)).mono
      fun _ _ h => h.sameHeading
  refine (hcolumns.and_ok (fun _ h => h) fun _ h => h).bind fun columns columns' ⟨hheadings, hok, hok'⟩ => ?_
  refine (Grouping.paired_entries hscope halias hok hok' query.having (g.groups rows)).bind
    fun entries entries' hentries => ?_
  refine (query.paired_orderBy hheadings (told_groupKey g)).bind fun keys keys' hkeys => ?_
  refine paired_recased hheadings (query.paired_shape hentries (fun _ _ h => h.row) ?_)
  rintro entry ⟨row', _, _⟩ ⟨hrow, rfl, rfl⟩
  have hvalues : Answers (Forall₂ (· = ·)) (keys.mapM (SortKey.value (g.leaves entry.group) entry.row))
      (keys'.mapM (SortKey.value ((g.renamed lowerLetters).leaves entry.group) row')) := by
    let := Lockstep.groupCodes
    exact Lockstep.mapM (m := InGroup) hkeys fun key key' h =>
      h.inStep_value (g.leaves entry.group) _ (g.answers_column entry.group) (g.answers_aggregate entry.group) hrow
  exact (hvalues entry.known).map fun _ _ h => (List.forall₂_eq_eq_eq ▸ h.1 :)

/-- **A query has the same answer in any letter case of names**, but for the letters of headings. -/
theorem paired_run {db : Database} (hdb : db.Built) (hworded : query.Worded) :
    Paired Cause.SameCode Listing.Recased (query.run db) ((query.renamed lowerLetters).run db) := by
  refine ((query.agree_source db).and_ok (fun _ h => h) fun _ _ => trivial).bind ?_
  rintro ⟨scope, rows⟩ _ ⟨rfl, hsource, -⟩
  simp only [isAggregated_renamed]
  split
  · exact paired_groupedListing (named_of_scope? hdb (scope_of_source hsource)) hworded.aliases rows
  · exact query.paired_plainListing scope rows

end Sql.Select

end RelStore
