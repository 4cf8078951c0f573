/-
Joins through an index, and joins that ask every pair of rows.

A joined row has the values of both rows under `table.column`. Names have no dot, so that no two
columns share a key, and a reference reads what the row of its own table holds
(`scope_read_combine`). An index leaves out the right rows that do not hold the left value, and of
these pairs the condition is false or unknown, but never an error (`join_eq`).
-/
import Mathlib.Data.List.ProdSigma
import RelStore.Proofs.Reached
import RelStore.Proofs.Sql.Calls

namespace RelStore

open Sql
open Text (sameName)

/-! ## Items that are asked under another form -/

theorem keepPassing_map {α β : Type} (test : β → Except Cause Bool) (f : α → β) (items : List α) :
    keepPassing test (items.map f) = (keepPassing (fun item => test (f item)) items).map (·.map f) := by
  induction items with
  | nil => rfl
  | cons item rest ih =>
    rw [List.map_cons, keepPassing, keepPassing, ih]
    rcases test (f item) with _ | passes
    · rfl
    rcases keepPassing (fun item => test (f item)) rest with _ | kept
    · rfl
    cases passes <;> rfl

/-- A test that fails on some item fails. -/
theorem exists_keepPassing_error {α : Type} {test : α → Except Cause Bool} {items : List α}
    {item : α} {cause : Cause} (hmem : item ∈ items) (hfails : test item = .error cause) :
    ∃ first other, other ∈ items ∧ keepPassing test items = .error first ∧
      test other = .error first := by
  cases hkept : keepPassing test items with
  | ok kept =>
    obtain ⟨passes, hpasses⟩ := (keepPassing_eq_ok.1 hkept).1 item hmem
    rw [hfails] at hpasses
    cases hpasses
  | error first =>
    obtain ⟨before, other, after, rfl, -, hother⟩ := keepPassing_eq_error.1 hkept
    exact ⟨first, other, by simp, rfl, hother⟩

theorem Row.get_ofList {fields : List (String × Value)} {name : String} {value : Value}
    (hnodup : (fields.map (·.1)).Nodup) (hmem : (name, value) ∈ fields) :
    (ofList fields).get name = value := by
  suffices hset : ∀ row : Row,
      (fields.foldl (fun row field => row.set field.1 field.2) row).get name = value from hset empty
  induction fields with
  | nil => cases hmem
  | cons field rest ih =>
    rw [List.map_cons, List.nodup_cons] at hnodup
    intro row
    rcases List.mem_cons.1 hmem with rfl | hmem
    · -- the names that follow are others
      have hne : ∀ field ∈ rest, name ≠ field.1 :=
        fun field hf heq => hnodup.1 (List.mem_map.2 ⟨field, hf, heq.symm⟩)
      rw [List.foldl_cons]
      refine foldl_keeps (P := fun row : Row => row.get name = value) ?_ fun row hrow field hf => ?_
      · rw [get_set, if_pos rfl]
      · rw [get_set, if_neg (hne field hf), hrow]
    · exact ih hnodup.2 hmem _

/-! ## Names and references -/

theorem Sql.dot_notMem_of_checkName {kind : NameKind} {name : String}
    (h : checkName kind name = .ok ()) (hkind : kind ≠ .database) : '.' ∉ name.toList :=
  (ofWordChars_of_checkName h hkind).not_mem (by decide)

namespace Scope

variable {scope : Scope} {ref : ColumnRef} {bound : BoundColumn}

/-- A reference is bound to a column of its name, in the table that it names. -/
theorem exists_of_resolve (h : scope.resolve ref = .ok bound) : ∃ table ∈ scope.tables,
    ∃ column ∈ table.columns, bound = scope.bind table column ∧
      sameName column.name ref.column = true ∧
      ∀ name, ref.table = some name → sameName table.name name = true := by
  rw [resolve] at h
  split at h
  next tableName htable =>
    rw [resolveIn] at h
    split at h
    next => cases h
    next table hfound =>
      split at h
      next => cases h
      next column hcolumn =>
        refine ⟨table, List.mem_of_find?_eq_some hfound, column, List.mem_of_find?_eq_some hcolumn,
          (Except.ok.inj h).symm, by simpa using List.find?_some hcolumn, fun name hname => ?_⟩
        obtain rfl := Option.some.inj (htable.symm.trans hname)
        simpa using List.find?_some hfound
  next htable =>
    split at h
    next => cases h
    next named hnamed =>
      obtain rfl := Except.ok.inj h
      obtain ⟨table, hmem, hbound⟩ := List.mem_filterMap.1 (hnamed ▸ List.mem_singleton_self named)
      obtain ⟨column, hcolumn, rfl⟩ := Option.map_eq_some_iff.1 hbound
      refine ⟨table, hmem, column, List.mem_of_find?_eq_some hcolumn, rfl,
        by simpa using List.find?_some hcolumn, fun name hname => ?_⟩
      rw [htable] at hname
      cases hname
    next => cases h

theorem exists_resolve_of_check (h : scope.check (.column ref) = .ok ()) :
    ∃ bound, scope.resolve ref = .ok bound := by
  rw [check, discard, Functor.mapConst] at h
  cases hresolve : scope.resolve ref with
  | error cause =>
    rw [hresolve] at h
    cases h
  | ok bound => exact ⟨bound, rfl⟩

/-- Different columns of tables that are named have different keys in a join. -/
theorem key_joined_inj {left right table other : Schema} {column another : Column}
    (htable : table.Named) (hcolumn : column ∈ table.columns)
    (h : (joined left right).key table column = (joined left right).key other another) :
    table.name = other.name ∧ column.name = another.name := by
  have hchars : table.name.toList ++ '.' :: column.name.toList =
      other.name.toList ++ '.' :: another.name.toList := by
    simpa [key, toString] using congrArg String.toList h
  obtain ⟨htables, -, hcolumns⟩ := (List.append_cons_inj_of_notMem
    (Sql.dot_notMem_of_checkName htable.table nofun)
    (Sql.dot_notMem_of_checkName (htable.columns column hcolumn) nofun)).1 hchars
  exact ⟨String.toList_inj.1 htables, String.toList_inj.1 hcolumns⟩

/-- Conditions over columns whose values are known. -/
def leavesOf (scope : Scope) (valueOf : BoundColumn → Value) : Leaves (Except Cause) where
  column ref := (scope.resolve ref).map valueOf
  aggregate call := .error (.aggregateOutsideGroup call.text)

end Scope

/-! ## Errors of conditions -/

/-- A computation that can fail for wrong types only. -/
def FailsByType {α : Type} (x : Except Cause α) : Prop :=
  ∀ cause, x = .error cause → cause.kind = .typeMismatch

theorem admitsTypes_typeMismatch : AdmitsTypes (·.kind = .typeMismatch) :=
  ⟨fun _ => rfl, fun _ _ => rfl⟩

section

variable {scope : Scope} {valueOf : BoundColumn → Value} {left right : Expr}

theorem check_both {x : Except Cause Unit} {y : Unit → Except Cause Unit} (h : x >>= y = .ok ()) :
    x = .ok () ∧ y () = .ok () := by
  obtain ⟨⟨⟩, hx, hy⟩ := bind_eq_ok.1 h
  exact ⟨hx, hy⟩

section

variable {column : ColumnRef → Prop} {aggregate : AggregateCall → Prop}

mutual

/-- The references of a condition that is checked are bound. -/
theorem leavesHold_of_check (hcolumn : ∀ ref bound, scope.resolve ref = .ok bound → column ref) :
    (e : Expr) → e.AggregateFree → scope.check e = .ok () → e.LeavesHold column aggregate
  | .literal _, _, _ => trivial
  | .column ref, _, hcheck => by
    obtain ⟨bound, hbound⟩ := Scope.exists_resolve_of_check hcheck
    exact hcolumn ref bound hbound
  | .aggregate _, hfree, _ => hfree.elim
  | .comparison _ left right, hfree, hcheck | .and left right, hfree, hcheck
  | .or left right, hfree, hcheck =>
    ⟨leavesHold_of_check hcolumn left hfree.1 (check_both hcheck).1,
      leavesHold_of_check hcolumn right hfree.2 (check_both hcheck).2⟩
  | .not operand, hfree, hcheck | .isNull operand _, hfree, hcheck
  | .like operand _ _, hfree, hcheck => leavesHold_of_check hcolumn operand hfree hcheck
  | .between operand low high _, hfree, hcheck => by
    obtain ⟨hoperand, hbounds⟩ := check_both hcheck
    obtain ⟨hlow, hhigh⟩ := check_both hbounds
    exact ⟨leavesHold_of_check hcolumn operand hfree.1 hoperand,
      leavesHold_of_check hcolumn low hfree.2.1 hlow,
      leavesHold_of_check hcolumn high hfree.2.2 hhigh⟩
  | .inList operand values _, hfree, hcheck =>
    ⟨leavesHold_of_check hcolumn operand hfree.1 (check_both hcheck).1,
      allLeavesHold_of_checkAll hcolumn values hfree.2 (check_both hcheck).2⟩
  | .unknown _, _, hcheck => by cases hcheck

theorem allLeavesHold_of_checkAll
    (hcolumn : ∀ ref bound, scope.resolve ref = .ok bound → column ref) : (values : List Expr) →
    AllAggregateFree values → scope.checkAll values = .ok () → AllLeavesHold column aggregate values
  | [], _, _ => trivial
  | value :: rest, hfree, hcheck =>
    ⟨leavesHold_of_check hcolumn value hfree.1 (check_both hcheck).1,
      allLeavesHold_of_checkAll hcolumn rest hfree.2 (check_both hcheck).2⟩

end

end

/-- A condition without aggregates whose references are bound fails for wrong types only. -/
theorem failsByType_isSatisfied {on : Expr} (hfree : on.AggregateFree)
    (hcheck : scope.check on = .ok ()) :
    FailsByType (isSatisfied (scope.leavesOf valueOf) (some on)) := by
  refine (Judgement.failsOnly admitsTypes_typeMismatch).isSatisfied ?_
  rintro _ ⟨⟩
  refine leavesHold_of_check (fun ref bound hbound => ?_) on hfree hcheck
  simp only [Scope.leavesOf, hbound]
  exact FailsOnly.ok _

/-- Values that are not NULL and equal are so on both sides. -/
theorem Value.equal_comm (v w : Value) : (!v.isNone && w.same v) = (!w.isNone && v.same w) := by
  rcases v with _ | a <;> rcases w with _ | b <;> try rfl
  exact Scalar.same_comm b a

/-- An equality of two columns is true of equal values, and of nothing with NULL. -/
theorem isSatisfied_equality {ref other : ColumnRef} {a b : BoundColumn}
    (ha : scope.resolve ref = .ok a) (hb : scope.resolve other = .ok b) :
    isSatisfied (scope.leavesOf valueOf) (some (.comparison .eq (.column ref) (.column other))) =
      .ok (!(valueOf a).isNone && (valueOf b).same (valueOf a)) := by
  have heval : Expr.eval (scope.leavesOf valueOf) (.comparison .eq (.column ref) (.column other)) =
      (do return (← raised (CompareOp.apply .eq (valueOf a) (valueOf b))).toValue) := by
    simp only [Expr.eval, Scope.leavesOf, ha, hb]
    rfl
  rw [isSatisfied, Expr.truth, heval, CompareOp.apply_eq, Value.same_comm]
  rcases valueOf a with _ | v <;> rcases valueOf b with _ | w <;> try rfl
  cases hsame : Scalar.same w v <;> simp [Value.same, hsame] <;> rfl

end

/-! ## Pairs of rows -/

namespace JoinedTables

variable {tables : JoinedTables} {pair : StoredRow × StoredRow} {ref : ColumnRef}
  {bound : BoundColumn} {on : Expr}

/-- All pairs of rows: by left row and then by right row. -/
def pairs (tables : JoinedTables) : List (StoredRow × StoredRow) :=
  tables.left.rows.product tables.right.rows

/-- The value of a column in a pair of rows: that in the row of its own table. -/
def valueIn (tables : JoinedTables) (pair : StoredRow × StoredRow) (bound : BoundColumn) : Value :=
  if bound.table = tables.left.name then pair.1.row.get bound.column.name
  else pair.2.row.get bound.column.name

/-- Whether a condition is true of a pair of rows. -/
def holds (tables : JoinedTables) (on : Expr) (pair : StoredRow × StoredRow) : Except Cause Bool :=
  isSatisfied (tables.scope.leavesOf (tables.valueIn pair)) (some on)

/-- A column that a reference is bound to is one of the left table or one of the right. -/
theorem cases_of_resolve (h : tables.scope.resolve ref = .ok bound) :
    (bound.column ∈ tables.left.columns ∧
      bound = tables.scope.bind tables.left.schema bound.column) ∨
    (bound.column ∈ tables.right.columns ∧
      bound = tables.scope.bind tables.right.schema bound.column) := by
  obtain ⟨schema, hschema, column, hcolumn, rfl, -, -⟩ := Scope.exists_of_resolve h
  rw [scope, Scope.tables, List.mem_pair] at hschema
  rcases hschema with rfl | rfl
  · exact .inl ⟨hcolumn, rfl⟩
  · exact .inr ⟨hcolumn, rfl⟩

/-- Two built tables of different names. -/
structure Apart (tables : JoinedTables) : Prop where
  left : tables.left.Invariant
  right : tables.right.Invariant
  leftNamed : tables.left.schema.Named
  rightNamed : tables.right.schema.Named
  names : tables.left.name ≠ tables.right.name

/-! ### Reading -/

theorem nodup_keys (h : tables.Apart) (pair : StoredRow × StoredRow) :
    ((tables.keyed tables.left pair.1.row ++ tables.keyed tables.right pair.2.row).map (·.1)).Nodup := by
  have hkeyed {table : Table} (hinv : table.Invariant) (hnamed : table.schema.Named) (row : Row) :
      ((tables.keyed table row).map (·.1)).Nodup := by
    rw [keyed, List.map_map]
    refine List.Nodup.map_on (fun column hc another ha hkey => ?_) hinv.shaped.nodup_names.of_map
    obtain ⟨-, hname⟩ := @Scope.key_joined_inj tables.left.schema tables.right.schema _ _ _ _ hnamed
      hc hkey
    exact hinv.shaped.columns.eq_of_name_eq hc ha hname
  rw [List.map_append, List.nodup_append]
  refine ⟨hkeyed h.left h.leftNamed _, hkeyed h.right h.rightNamed _, ?_⟩
  simp only [keyed, List.map_map, List.mem_map, Function.comp_apply]
  rintro _ ⟨column, hc, rfl⟩ _ ⟨another, -, rfl⟩ hkey
  exact h.names (Scope.key_joined_inj h.leftNamed hc hkey).1

/-- **A joined row has the value of each column that the row of its own table has.** -/
theorem get_combine (h : tables.Apart) (hbound : tables.scope.resolve ref = .ok bound)
    (pair : StoredRow × StoredRow) :
    (tables.combine pair.1 pair.2).get bound.key = tables.valueIn pair bound := by
  refine Row.get_ofList (nodup_keys h pair) (List.mem_append.2 ?_)
  rcases cases_of_resolve hbound with ⟨hcolumn, heq⟩ | ⟨hcolumn, heq⟩
  · have htable : bound.table = tables.left.name := congrArg BoundColumn.table heq
    refine .inl (List.mem_map.2 ⟨bound.column, hcolumn, ?_⟩)
    rw [valueIn, if_pos htable]
    exact Prod.ext (congrArg BoundColumn.key heq).symm rfl
  · have htable : bound.table ≠ tables.left.name :=
      fun hleft => h.names (hleft.symm.trans (congrArg BoundColumn.table heq))
    refine .inr (List.mem_map.2 ⟨bound.column, hcolumn, ?_⟩)
    rw [valueIn, if_neg htable]
    exact Prod.ext (congrArg BoundColumn.key heq).symm rfl

theorem read_combine (h : tables.Apart) (ref : ColumnRef) (pair : StoredRow × StoredRow) :
    tables.scope.read (tables.combine pair.1 pair.2) ref =
      (tables.scope.resolve ref).map (tables.valueIn pair) := by
  rw [Scope.read]
  cases hbound : tables.scope.resolve ref with
  | error cause => rfl
  | ok bound => exact congrArg Except.ok (get_combine h hbound pair)

/-- A condition is true of a joined row if it is true of the pair of rows. -/
theorem satisfies_combine (h : tables.Apart) (on : Expr) (pair : StoredRow × StoredRow) :
    tables.scope.satisfies (some on) (tables.combine pair.1 pair.2) = tables.holds on pair := by
  have hleaves : tables.scope.leaves (tables.combine pair.1 pair.2) =
      tables.scope.leavesOf (tables.valueIn pair) := by
    rw [Scope.leaves, Scope.leavesOf]
    congr 1
    exact funext fun ref => read_combine h ref pair
  rw [Scope.satisfies, hleaves, holds]

/-! ### Finding partners -/

theorem equalColumns?_eq_some {a b : BoundColumn} (h : tables.equalColumns? on = .ok (some (a, b))) :
    ∃ ref other x y, on = .comparison .eq (.column ref) (.column other) ∧
      tables.scope.resolve ref = .ok x ∧ tables.scope.resolve other = .ok y ∧
      (x = a ∧ y = b ∨ x = b ∧ y = a) ∧ a.table = tables.left.name ∧ b.table = tables.right.name := by
  unfold equalColumns? at h
  split at h
  next ref other =>
    obtain ⟨x, hx, h⟩ := bind_eq_ok.1 h
    obtain ⟨y, hy, h⟩ := bind_eq_ok.1 h
    refine ⟨ref, other, x, y, rfl, hx, hy, ?_⟩
    split at h
    next hsides =>
      rw [Bool.and_eq_true, beq_iff_eq, beq_iff_eq] at hsides
      obtain ⟨rfl, rfl⟩ := Prod.mk.inj (Option.some.inj (pure_eq_ok.1 h))
      exact ⟨.inl ⟨rfl, rfl⟩, hsides⟩
    split at h
    next hsides =>
      rw [Bool.and_eq_true, beq_iff_eq, beq_iff_eq] at hsides
      obtain ⟨rfl, rfl⟩ := Prod.mk.inj (Option.some.inj (pure_eq_ok.1 h))
      exact ⟨.inr ⟨rfl, rfl⟩, hsides⟩
    next => cases h
  next => cases h

theorem exists_partnerIndex (hcheck : tables.scope.check on = .ok ()) :
    ∃ index?, tables.partnerIndex? on = .ok index? := by
  have hcolumns : ∃ columns?, tables.equalColumns? on = .ok columns? := by
    unfold equalColumns?
    split
    next ref other =>
      obtain ⟨hleft, hright⟩ := check_both hcheck
      obtain ⟨a, ha⟩ := Scope.exists_resolve_of_check hleft
      obtain ⟨b, hb⟩ := Scope.exists_resolve_of_check hright
      simp only [ha, hb, bind, Except.bind]
      split
      · exact ⟨_, rfl⟩
      split
      · exact ⟨_, rfl⟩
      · exact ⟨_, rfl⟩
    next => exact ⟨_, rfl⟩
  obtain ⟨columns?, hcolumns⟩ := hcolumns
  rw [partnerIndex?, hcolumns]
  rcases columns? with _ | ⟨a, b⟩
  · exact ⟨_, rfl⟩
  · exact ⟨_, rfl⟩

/-- The rows that an index finds for a left row, and all others make the equality false. -/
theorem partners_eq (h : tables.Apart) {index? : Option (BoundColumn × Index)}
    (hindex : tables.partnerIndex? on = .ok index?) : ∃ keep : StoredRow × StoredRow → Bool,
      (∀ left, tables.partners index? left =
        tables.right.rows.filter fun right => keep (left, right)) ∧
      ∀ pair, keep pair = false → tables.holds on pair = .ok false := by
  rw [partnerIndex?] at hindex
  obtain ⟨columns?, hcolumns, hindex⟩ := bind_eq_ok.1 hindex
  have hall : ∃ keep : StoredRow × StoredRow → Bool,
      (∀ left, tables.partners none left =
        tables.right.rows.filter fun right => keep (left, right)) ∧
      ∀ pair, keep pair = false → tables.holds on pair = .ok false :=
    ⟨fun _ => true, fun _ => (List.filter_true _).symm, nofun⟩
  rcases columns? with _ | ⟨a, b⟩
  · obtain rfl := pure_eq_ok.1 hindex
    exact hall
  obtain rfl := pure_eq_ok.1 hindex
  cases hfound : tables.right.index? b.column.name with
  | none => exact hall
  | some index =>
    obtain ⟨ref, other, x, y, rfl, hx, hy, hsides, ha, hb⟩ := equalColumns?_eq_some hcolumns
    have hbound {ref : ColumnRef} (hr : tables.scope.resolve ref = .ok b) :
        b.column ∈ tables.right.columns := by
      rcases cases_of_resolve hr with ⟨-, heq⟩ | ⟨hcolumn, -⟩
      · exact absurd ((congrArg BoundColumn.table heq).symm.trans hb) h.names
      · exact hcolumn
    have hcolumn : b.column ∈ tables.right.columns := by
      rcases hsides with ⟨-, rfl⟩ | ⟨rfl, -⟩
      · exact hbound hy
      · exact hbound hx
    have hleft (pair : StoredRow × StoredRow) :
        tables.valueIn pair a = pair.1.row.get a.column.name := if_pos ha
    have hright (pair : StoredRow × StoredRow) :
        tables.valueIn pair b = pair.2.row.get b.column.name :=
      if_neg fun heq => h.names (heq.symm.trans hb)
    refine ⟨fun pair => !(tables.valueIn pair a).isNone &&
      (tables.valueIn pair b).same (tables.valueIn pair a), fun left => ?_, fun pair hno => ?_⟩
    · simp only [hleft, hright]
      exact h.right.rowsWith_eq hfound hcolumn (Text.sameName_refl _)
    · refine Eq.trans ?_ (congrArg Except.ok hno)
      rcases hsides with ⟨rfl, rfl⟩ | ⟨rfl, rfl⟩
      · exact isSatisfied_equality hx hy
      · exact (isSatisfied_equality hx hy).trans (congrArg Except.ok (Value.equal_comm _ _))

/-! ### The nested loop -/

/-- **A join asks its condition of every pair of rows**, however it finds them. -/
theorem join_eq (h : tables.Apart) (hcheck : tables.scope.check on = .ok ()) :
    tables.join on = (keepPassing (tables.holds on) tables.pairs).map
      (·.map fun pair => tables.combine pair.1 pair.2) := by
  obtain ⟨index?, hindex⟩ := exists_partnerIndex hcheck
  obtain ⟨keep, hpartners, hleft⟩ := partners_eq h hindex
  have hpairs : (tables.left.rows.flatMap fun left =>
      (tables.partners index? left).map (tables.combine left)) =
      (tables.pairs.filter keep).map fun pair => tables.combine pair.1 pair.2 := by
    simp only [pairs, List.product, List.filter_flatMap, List.map_flatMap, hpartners,
      List.filter_map, List.map_map, Function.comp_def]
  calc tables.join on
      = keepPassing (tables.scope.satisfies (some on))
          ((tables.pairs.filter keep).map fun pair => tables.combine pair.1 pair.2) := by
        rw [join, hcheck, hindex, ← hpairs]
        rfl
    _ = (keepPassing (tables.holds on) (tables.pairs.filter keep)).map
          (·.map fun pair => tables.combine pair.1 pair.2) := by
        simp only [keepPassing_map, satisfies_combine h]
    _ = _ := by rw [keepPassing_filter fun pair _ hno => hleft pair hno]

/-- A join of two tables gives what a loop over all pairs of rows gives. -/
structure NestedLoop (tables : JoinedTables) (on : Expr) : Prop where
  /-- What is joined are the pairs on which the condition is true, by left and then by right row. -/
  found : ∀ rows, tables.join on = .ok rows ↔
    (∀ pair ∈ tables.pairs, ∃ passes, tables.holds on pair = .ok passes) ∧
      rows = (tables.pairs.filter fun pair => tables.holds on pair = .ok true).map fun pair =>
        tables.combine pair.1 pair.2
  /-- What fails is the first pair that makes the condition fail. -/
  fails : ∀ cause, tables.join on = .error cause ↔ ∃ before pair after,
    tables.pairs = before ++ pair :: after ∧
      (∀ other ∈ before, ∃ passes, tables.holds on other = .ok passes) ∧
      tables.holds on pair = .error cause
  /-- Without aggregates, it fails for wrong types where some pair does. -/
  mismatch : on.AggregateFree →
    ((∃ cause, tables.join on = .error cause ∧ cause.kind = .typeMismatch) ↔
      ∃ pair ∈ tables.pairs, ∃ cause, tables.holds on pair = .error cause ∧
        cause.kind = .typeMismatch)
  /-- A reference means a column of its name in one of the tables, and in the table that it names
  if it names one, and a joined row has for it what the row of this table has. -/
  reads : ∀ ref bound, tables.scope.resolve ref = .ok bound →
    ((bound.table = tables.left.name ∧ bound.column ∈ tables.left.columns ∧
        ∀ pair : StoredRow × StoredRow, tables.scope.read (tables.combine pair.1 pair.2) ref =
          .ok (pair.1.row.get bound.column.name)) ∨
      (bound.table = tables.right.name ∧ bound.column ∈ tables.right.columns ∧
        ∀ pair : StoredRow × StoredRow, tables.scope.read (tables.combine pair.1 pair.2) ref =
          .ok (pair.2.row.get bound.column.name))) ∧
    sameName bound.column.name ref.column = true ∧
    ∀ name, ref.table = some name → sameName bound.table name = true

theorem Apart.joinsNested (h : tables.Apart) (hcheck : tables.scope.check on = .ok ()) :
    tables.NestedLoop on := by
  have hjoin := join_eq h hcheck
  have hfails : ∀ cause, tables.join on = .error cause ↔
      keepPassing (tables.holds on) tables.pairs = .error cause := by
    intro cause
    rw [hjoin]
    cases keepPassing (tables.holds on) tables.pairs <;> simp [Except.map]
  constructor
  case found =>
    intro rows
    rw [hjoin]
    constructor
    · intro hrows
      obtain ⟨kept, hkept, rfl⟩ := map_eq_ok.1 hrows
      obtain ⟨hall, rfl⟩ := keepPassing_eq_ok.1 hkept
      exact ⟨hall, rfl⟩
    · rintro ⟨hall, rfl⟩
      exact map_eq_ok.2 ⟨_, keepPassing_eq_ok.2 ⟨hall, rfl⟩, rfl⟩
  case fails => exact fun cause => (hfails cause).trans keepPassing_eq_error
  case mismatch =>
    intro hfree
    simp only [hfails]
    constructor
    · rintro ⟨cause, hcause, hkind⟩
      obtain ⟨before, pair, after, hpairs, -, hpair⟩ := keepPassing_eq_error.1 hcause
      exact ⟨pair, by simp [hpairs], cause, hpair, hkind⟩
    · rintro ⟨pair, hmem, cause, hpair, -⟩
      obtain ⟨first, other, -, hfirst, hother⟩ := exists_keepPassing_error hmem hpair
      exact ⟨first, hfirst, failsByType_isSatisfied hfree hcheck first hother⟩
  case reads =>
    intro ref bound hbound
    have hread (pair : StoredRow × StoredRow) :
        tables.scope.read (tables.combine pair.1 pair.2) ref = .ok (tables.valueIn pair bound) := by
      rw [read_combine h, hbound]
      rfl
    obtain ⟨schema, hschema, column, hcolumn, rfl, hname, htable⟩ := Scope.exists_of_resolve hbound
    refine ⟨?_, hname, htable⟩
    rw [scope, Scope.tables, List.mem_pair] at hschema
    rcases hschema with rfl | rfl
    · exact .inl ⟨rfl, hcolumn, fun pair => (hread pair).trans (congrArg Except.ok (if_pos rfl))⟩
    · refine .inr ⟨rfl, hcolumn, fun pair => (hread pair).trans (congrArg Except.ok (if_neg ?_))⟩
      exact fun heq => h.names heq.symm

end JoinedTables

/-- **Two tables are joined as a loop over all pairs of their rows joins them**, whether or not an
index finds the partners of a row, in every database that texts lead to. A condition that is read
from a text has no aggregates, so that it fails as `NestedLoop.mismatch` says. -/
theorem Catalog.Reached.nestedLoop {catalog : Catalog} (h : catalog.Reached) {db : Database}
    (hdb : db ∈ catalog.databases) {left right : Table} (hleft : left ∈ db.tables)
    (hright : right ∈ db.tables) (hne : left ≠ right) {on : Expr}
    (hcheck : (JoinedTables.mk left right).scope.check on = .ok ()) :
    JoinedTables.NestedLoop ⟨left, right⟩ on ∧
      ∀ sql query join, parse sql = .ok (.select query) → query.join = some join →
        join.on.AggregateFree := by
  have hbuilt := h.built.databases db hdb
  have hapart : JoinedTables.Apart ⟨left, right⟩ := {
    left := (hbuilt.reached left hleft).invariant
    right := (hbuilt.reached right hright).invariant
    leftNamed := hbuilt.named left hleft
    rightNamed := hbuilt.named right hright
    names := fun hname => hne (hbuilt.distinct.eq_of_name_eq hleft hright hname) }
  refine ⟨hapart.joinsNested hcheck, fun sql query join hparse hjoin => ?_⟩
  exact (regular_of_parse hparse).1 join hjoin

/-- The index of the authors finds the author of the book that has one. -/
theorem nestedLoop_shop :
    let on : Expr := .comparison .eq (.column ⟨some "AUTHORS", "id"⟩) (.column ⟨none, "Author"⟩)
    authors ≠ books ∧ (JoinedTables.mk books authors).scope.check on = .ok () ∧
      (JoinedTables.mk books authors).join on = .ok
        [⟨[("books.title", .ofText "Emma"), ("books.author", .ofNat 7), ("authors.id", .ofNat 7)]⟩] ∧
      JoinedTables.NestedLoop ⟨books, authors⟩ on := by
  intro on
  have hne : authors ≠ books := by decide +kernel
  have hcheck : (JoinedTables.mk books authors).scope.check on = .ok () := by decide +kernel
  have hjoined := Catalog.Reached.nestedLoop reached_shop (List.mem_singleton_self _)
    (List.mem_cons_of_mem _ List.mem_cons_self) List.mem_cons_self hne.symm hcheck
  exact ⟨hne, hcheck, by decide +kernel, hjoined.1⟩

end RelStore
