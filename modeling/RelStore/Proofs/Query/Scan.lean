/-
Rows that an index finds, and rows that are found by asking each of them.

The rows that an index gives for a value are those of the table that hold it, in their order
(`Invariant.rowsWith_eq`), and a row that does not hold the literal of `column = literal` makes the
condition false or unknown, but never an error. What is left out by going through an index is
therefore left out by the condition too, and nothing depends on whether there is an index.
-/
import RelStore.Engine
import RelStore.Proofs.Database.Integrity
import RelStore.Proofs.Table.Consistency

namespace RelStore

open Sql
open Text (sameName)

/-! ## Items that pass a test -/

section

variable {α : Type} {test : α → Except Cause Bool} {items found : List α} {cause : Cause}

theorem keepPassing_eq_ok : keepPassing test items = .ok found ↔
    (∀ item ∈ items, ∃ passes, test item = .ok passes) ∧
      found = items.filter fun item => test item = .ok true := by
  induction items generalizing found with
  | nil => simp [keepPassing, eq_comm]
  | cons item rest ih =>
    simp only [keepPassing, bind_eq_ok, pure_eq_ok, ih, List.forall_mem_cons, List.filter_cons,
      decide_eq_true_eq]
    constructor
    · rintro ⟨passes, hitem, kept, ⟨hrest, rfl⟩, rfl⟩
      refine ⟨⟨⟨passes, hitem⟩, hrest⟩, ?_⟩
      simp [hitem]
    · rintro ⟨⟨⟨passes, hitem⟩, hrest⟩, rfl⟩
      refine ⟨passes, hitem, _, ⟨hrest, rfl⟩, ?_⟩
      simp [hitem]

/-- What fails is the first test that does. -/
theorem keepPassing_eq_error : keepPassing test items = .error cause ↔
    ∃ before item after, items = before ++ item :: after ∧
      (∀ other ∈ before, ∃ passes, test other = .ok passes) ∧ test item = .error cause := by
  induction items with
  | nil => simp [keepPassing]
  | cons item rest ih =>
    simp only [keepPassing]
    cases hitem : test item with
    | error other =>
      constructor
      · intro h
        obtain rfl : other = cause := Except.error.inj h
        exact ⟨[], item, rest, rfl, List.forall_mem_nil _, hitem⟩
      · rintro ⟨before, failing, after, hsplit, hbefore, hfailing⟩
        cases before with
        | nil =>
          obtain ⟨rfl, -⟩ := List.cons.inj hsplit
          exact congrArg (fun e => e >>= _) (hitem.symm.trans hfailing)
        | cons first others =>
          obtain ⟨rfl, -⟩ := List.cons.inj hsplit
          obtain ⟨passes, hpasses⟩ := hbefore item List.mem_cons_self
          rw [hitem] at hpasses
          cases hpasses
    | ok passes =>
      have hstep : (do
          let passes ← (Except.ok passes : Except Cause Bool)
          let kept ← keepPassing test rest
          return if passes then item :: kept else kept) = .error cause ↔
          keepPassing test rest = .error cause := by
        cases keepPassing test rest <;> simp [bind, Except.bind, pure, Except.pure]
      rw [hstep, ih]
      constructor
      · rintro ⟨before, failing, after, rfl, hbefore, hfailing⟩
        exact ⟨item :: before, failing, after, rfl,
          List.forall_mem_cons.2 ⟨⟨passes, hitem⟩, hbefore⟩, hfailing⟩
      · rintro ⟨before, failing, after, hsplit, hbefore, hfailing⟩
        cases before with
        | nil =>
          obtain ⟨rfl, -⟩ := List.cons.inj hsplit
          rw [hitem] at hfailing
          cases hfailing
        | cons first others =>
          obtain ⟨rfl, rfl⟩ := List.cons.inj hsplit
          exact ⟨others, failing, after, rfl, (List.forall_mem_cons.1 hbefore).2, hfailing⟩

/-- Items that do not pass can be left out beforehand. -/
theorem keepPassing_filter {keep : α → Bool}
    (h : ∀ item ∈ items, keep item = false → test item = .ok false) :
    keepPassing test (items.filter keep) = keepPassing test items := by
  induction items with
  | nil => rfl
  | cons item rest ih =>
    obtain ⟨hitem, hrest⟩ := List.forall_mem_cons.1 h
    cases hkeep : keep item with
    | true => simp only [List.filter_cons, hkeep, if_true, keepPassing, ih hrest]
    | false =>
      have hnone : keepPassing test (item :: rest) = keepPassing test rest := by
        rw [keepPassing, hitem hkeep]
        cases keepPassing test rest <;> rfl
      rw [List.filter_cons_of_neg (by simp [hkeep]), ih hrest, hnone]

end

/-! ## Equality of a column and a literal -/

theorem Scalar.same_comm (a b : Scalar) : a.same b = b.same a := by
  rcases a with (_ | ⟨s, r⟩) | s | b₁ <;> rcases b with (_ | ⟨t, q⟩) | t | b₂ <;>
    simp [Scalar.same, Binary64.eq, Bool.beq_comm]

theorem Value.same_comm (v w : Value) : v.same w = w.same v := by
  rcases v with _ | a <;> rcases w with _ | b <;> try rfl
  exact Scalar.same_comm a b

/-- An equality is true of equal scalars only, and NULL is equal to nothing. -/
theorem Sql.CompareOp.apply_eq (v w : Value) :
    CompareOp.apply .eq v w = .ok (if v.isNone || w.isNone then none else some (v.same w)) := by
  rcases v with _ | a <;> rcases w with _ | b <;> rfl

namespace Table

variable {table : Table} {index : Index} {column : Column} {name : String} {condition : Expr}
  {filter : Option Expr} {row : Row} {ref : ColumnRef} {value : Value} {bound : BoundColumn}

/-- A condition that asks a column to be equal to a literal is true of the rows that hold it. -/
theorem satisfies_of_equality (hshape : equalityWithLiteral? condition = some (ref, value))
    (hbound : table.scope.resolve ref = .ok bound) : table.scope.satisfies (some condition) row =
      .ok (!value.isNone && (row.get bound.key).same value) := by
  have hread : table.scope.read row ref = .ok (row.get bound.key) := by
    rw [Scope.read, hbound]
    rfl
  have hsatisfied (v w : Value) (heval : condition.eval (table.scope.leaves row) =
      (do return (← raised (CompareOp.apply .eq v w)).toValue)) :
      table.scope.satisfies (some condition) row =
        .ok (!v.isNone && !w.isNone && v.same w) := by
    rw [Scope.satisfies, isSatisfied, Expr.truth, heval, CompareOp.apply_eq]
    rcases v with _ | a <;> rcases w with _ | b <;> try rfl
    cases hsame : Scalar.same a b <;> simp [Value.same, hsame] <;> rfl
  unfold equalityWithLiteral? at hshape
  split at hshape
  next _ literal =>
    obtain ⟨rfl, rfl⟩ := Prod.mk.inj (Option.some.inj hshape)
    rw [hsatisfied (row.get bound.key) literal]
    · rcases row.get bound.key with _ | a <;> rcases literal with _ | b <;> rfl
    · simp only [Expr.eval, Scope.leaves, hread]
      rfl
  next literal _ =>
    obtain ⟨rfl, rfl⟩ := Prod.mk.inj (Option.some.inj hshape)
    rw [hsatisfied literal (row.get bound.key), Value.same_comm literal]
    · rcases row.get bound.key with _ | a <;> rcases literal with _ | b <;> rfl
    · simp only [Expr.eval, Scope.leaves, hread]
      rfl
  next => cases hshape

/-! ## Rows of a table -/

/-- Ids of some of the rows, in their order, lead back to these rows. -/
theorem rowsOf_map_id (h : (table.rows.map (·.id)).Pairwise (· < ·)) {rows : List StoredRow}
    (hsub : rows.Sublist table.rows) : table.rowsOf (rows.map (·.id)) = rows := by
  have hsorted : (rows.map (·.id)).Pairwise (· ≤ ·) :=
    (h.sublist (hsub.map _)).imp Nat.le_of_lt
  rw [rowsOf, List.mergeSort_of_pairwise (hsorted.imp fun hle => by simpa using hle),
    List.filterMap_map]
  refine (List.filterMap_congr fun stored hs => ?_).trans List.filterMap_some
  exact (row?_eq_some_iff h).2 ⟨hsub.subset hs, rfl⟩

/-- **An index finds the rows that hold a value**, and none for NULL. -/
theorem Invariant.rowsWith_eq (h : table.Invariant) (hi : table.index? name = some index)
    (hc : column ∈ table.columns) (hn : sameName column.name name = true) :
    table.rowsWith index value =
      table.rows.filter fun stored => !value.isNone && (stored.row.get column.name).same value := by
  obtain ⟨hm, other, ho, -, he, hon⟩ := h.shaped.index?_eq_some hi
  obtain rfl : other = column :=
    h.shaped.columns.eq_of_sameName ho hc (Text.sameName_trans hon (Text.sameName_comm _ _ ▸ hn))
  have htells := h.tells hc (he ▸ h.represented index hm)
  rw [rowsWith]
  cases value with
  | none => simp
  | some scalar =>
    rw [htells.lookup]
    exact rowsOf_map_id h.ascending List.filter_sublist

/-- What a reference of a query of one table is bound to is a column of the table, under its
name. -/
theorem mem_of_resolve (h : table.scope.resolve ref = .ok bound) :
    bound.column ∈ table.columns ∧ bound.key = bound.column.name := by
  have hbind {column : Column} (hcolumn : table.schema.column? ref.column = some column)
      (hbound : table.scope.bind table.schema column = bound) :
      bound.column ∈ table.columns ∧ bound.key = bound.column.name := by
    rw [← hbound]
    exact ⟨List.mem_of_find?_eq_some hcolumn, rfl⟩
  rw [Scope.resolve] at h
  split at h
  next tableName _ =>
    rw [Scope.resolveIn] at h
    split at h
    next => cases h
    next found hfound =>
      obtain rfl : found = table.schema := List.mem_singleton.1 (List.mem_of_find?_eq_some hfound)
      split at h
      next => cases h
      next column hcolumn => exact hbind hcolumn (Except.ok.inj h)
  next =>
    split at h
    next => cases h
    next named hnamed =>
      cases hcolumn : table.schema.column? ref.column with
      | none => simp [Scope.named, Scope.tables, Table.scope, hcolumn] at hnamed
      | some column =>
        refine hbind hcolumn ((?_ : _ = named).trans (Except.ok.inj h))
        simpa [Scope.named, Scope.tables, Table.scope, hcolumn] using hnamed
    next => cases h

/-! ## Finding by a scan -/

/-- The rows that satisfy a condition, when each row is asked. -/
def scanned (table : Table) (filter : Option Expr) : Except Cause (List StoredRow) := do
  filter.forM table.scope.check
  keepPassing (fun stored => table.scope.satisfies filter stored.row) table.rows

/-- What is left out of the candidates does not satisfy the condition. -/
theorem Invariant.keepPassing_candidates (h : table.Invariant) {rows : List StoredRow}
    (hrows : table.candidates condition = .ok rows) :
    keepPassing (fun stored => table.scope.satisfies (some condition) stored.row) rows =
      keepPassing (fun stored => table.scope.satisfies (some condition) stored.row) table.rows := by
  rw [candidates] at hrows
  split at hrows
  next =>
    obtain rfl := Except.ok.inj hrows
    rfl
  next ref value hshape =>
    obtain ⟨bound, hbound, hrows⟩ := bind_eq_ok.1 hrows
    obtain ⟨hc, hkey⟩ := mem_of_resolve hbound
    split at hrows
    next index hindex =>
      obtain rfl := pure_eq_ok.1 hrows
      rw [h.rowsWith_eq hindex hc (Text.sameName_refl _)]
      refine keepPassing_filter fun stored _ hno => ?_
      rw [satisfies_of_equality hshape hbound, hkey, hno]
    next =>
      obtain rfl := pure_eq_ok.1 hrows
      rfl

/-- A condition whose references are bound has candidates. -/
theorem exists_candidates (hcheck : table.scope.check condition = .ok ()) :
    ∃ rows, table.candidates condition = .ok rows := by
  have hbound {ref : ColumnRef} (h : table.scope.check (.column ref) = .ok ()) :
      ∃ bound, table.scope.resolve ref = .ok bound := by
    rw [Scope.check, discard, Functor.mapConst] at h
    cases hresolve : table.scope.resolve ref with
    | error cause => rw [hresolve] at h; cases h
    | ok bound => exact ⟨bound, rfl⟩
  rw [candidates]
  split
  next => exact ⟨_, rfl⟩
  next ref value hshape =>
    obtain ⟨bound, hresolve⟩ : ∃ bound, table.scope.resolve ref = .ok bound := by
      unfold equalityWithLiteral? at hshape
      split at hshape
      next =>
        obtain ⟨rfl, rfl⟩ := Prod.mk.inj (Option.some.inj hshape)
        obtain ⟨⟨⟩, hleft, -⟩ := bind_eq_ok.1 hcheck
        exact hbound hleft
      next =>
        obtain ⟨rfl, rfl⟩ := Prod.mk.inj (Option.some.inj hshape)
        obtain ⟨⟨⟩, -, hright⟩ := bind_eq_ok.1 hcheck
        exact hbound hright
      next => cases hshape
    simp only [hresolve, bind, Except.bind]
    split
    · exact ⟨_, rfl⟩
    · exact ⟨_, rfl⟩

theorem Invariant.matching_eq_scanned (h : table.Invariant) (filter : Option Expr) :
    table.matching filter = table.scanned filter := by
  cases filter with
  | none =>
    have hall : ∀ stored ∈ table.rows, table.scope.satisfies none stored.row = .ok true :=
      fun _ _ => rfl
    refine Eq.symm ((keepPassing_eq_filter hall).trans ?_)
    rw [List.filter_true]
    rfl
  | some condition =>
    rw [matching, scanned, Option.forM]
    cases hcheck : table.scope.check condition with
    | error cause => rfl
    | ok _ =>
      obtain ⟨rows, hrows⟩ := exists_candidates hcheck
      refine Eq.trans ?_ (h.keepPassing_candidates hrows)
      rw [hrows]
      rfl

theorem scanned_eq_ok {found : List StoredRow} : table.scanned filter = .ok found ↔
    filter.forM table.scope.check = .ok () ∧
      (∀ stored ∈ table.rows, ∃ passes, table.scope.satisfies filter stored.row = .ok passes) ∧
      found = table.rows.filter fun stored => table.scope.satisfies filter stored.row = .ok true := by
  rw [scanned, bind_eq_ok]
  simp only [keepPassing_eq_ok]
  exact ⟨fun ⟨_, h⟩ => h, fun h => ⟨(), h⟩⟩

theorem Invariant.matching_eq_ok_iff (h : table.Invariant) {found : List StoredRow} :
    table.matching filter = .ok found ↔ filter.forM table.scope.check = .ok () ∧
      (∀ stored ∈ table.rows, ∃ passes, table.scope.satisfies filter stored.row = .ok passes) ∧
      found = table.rows.filter fun stored => table.scope.satisfies filter stored.row = .ok true := by
  rw [h.matching_eq_scanned filter]
  exact scanned_eq_ok

theorem scanned_eq_error {cause : Cause} : table.scanned filter = .error cause ↔
    filter.forM table.scope.check = .error cause ∨
      filter.forM table.scope.check = .ok () ∧ ∃ before stored after,
        table.rows = before ++ stored :: after ∧
        (∀ other ∈ before, ∃ passes, table.scope.satisfies filter other.row = .ok passes) ∧
        table.scope.satisfies filter stored.row = .error cause := by
  rw [scanned]
  cases hcheck : filter.forM table.scope.check with
  | error other => simp [bind, Except.bind]
  | ok _ =>
    simp only [reduceCtorEq, false_or, true_and]
    exact keepPassing_eq_error

/-! ## Tables that are reached -/

/-- A table that is made of some schema and then changed by calls. -/
def Reached (table : Table) : Prop :=
  ∃ schema start calls, create schema = .ok start ∧ table = start.run calls

theorem Reached.invariant (h : table.Reached) : table.Invariant := by
  obtain ⟨schema, start, calls, hcreate, rfl⟩ := h
  exact (invariant_create hcreate).run calls

theorem Reached.perform (h : table.Reached) (call : Call) {next : Table}
    (hnext : table.perform call = .ok next) : next.Reached := by
  obtain ⟨schema, start, calls, hcreate, rfl⟩ := h
  refine ⟨schema, start, calls ++ [call], hcreate, ?_⟩
  have hafter : (start.run calls).after call = next := by rw [after, hnext]
  rw [run, List.foldl_append]
  exact hafter.symm

end Table

namespace Database

variable {db next : Database} {name : String} {table : Table}

theorem reached_of_mem_setTable (h : ∀ table ∈ db.tables, table.Reached) (hnew : table.Reached) :
    ∀ other ∈ (db.setTable table).tables, other.Reached := by
  intro other hother
  obtain ⟨old, hold, rfl⟩ := List.mem_map.1 hother
  split
  · exact hnew
  · exact h old hold

/-- What a call that goes through does: a table is made, one goes, or a call changes the rows of one
that is known. -/
theorem perform_cases {call : Call} (hc : db.perform call = .ok next) :
    (∃ schema table, call = .create schema ∧ db.createTable schema = .ok (next, table)) ∨
    (∃ name, call = .drop name ∧ db.dropTable name = .ok next) ∨
    ∃ table ∈ db.tables, ∃ rows written, table.perform rows = .ok written ∧
      next = db.setTable written := by
  cases call with
  | create schema =>
    obtain ⟨⟨made, table⟩, hm, rfl⟩ := map_eq_ok.1 hc
    exact .inl ⟨schema, table, rfl, hm⟩
  | drop name => exact .inr (.inl ⟨name, rfl, hc⟩)
  | insert name values listed =>
    obtain ⟨result, hr, rfl⟩ := map_eq_ok.1 hc
    obtain ⟨table, row, ht, hrow, -, rfl⟩ := insertRow_eq_ok.1 hr
    exact .inr (.inr ⟨table, List.mem_of_find?_eq_some ht, .insert values listed, _,
      Table.perform_insert hrow, rfl⟩)
  | update name ids assignments =>
    obtain ⟨result, hr, rfl⟩ := map_eq_ok.1 hc
    obtain ⟨table, pending, -, ht, hpending, -, -, rfl⟩ := updateRows_eq_ok.1 hr
    refine .inr (.inr ⟨table, List.mem_of_find?_eq_some ht, .update ids assignments, _, ?_, rfl⟩)
    rw [Table.perform, hpending]
    rfl
  | delete name ids =>
    obtain ⟨result, hr, rfl⟩ := map_eq_ok.1 hc
    obtain ⟨table, ht, -, rfl⟩ := deleteRows_eq_ok.1 hr
    refine .inr (.inr ⟨table, List.mem_of_find?_eq_some ht,
      .delete ((table.rowsOf ids).map (·.id)), (table.delete _).1, ?_, rfl⟩)
    rw [Table.perform]
    rfl

theorem reached_of_perform (h : ∀ table ∈ db.tables, table.Reached) {call : Call}
    (hc : db.perform call = .ok next) : ∀ table ∈ next.tables, table.Reached := by
  obtain ⟨schema, table, -, hmade⟩ | ⟨name, -, hdropped⟩ |
    ⟨table, htable, rows, written, hwritten, rfl⟩ := perform_cases hc
  · obtain ⟨-, hcreate, -, rfl⟩ := createTable_eq_ok.1 hmade
    intro other hother
    rcases List.mem_append.1 hother with hother | hother
    · exact h other hother
    · rw [List.mem_singleton.1 hother]
      exact ⟨schema, table, [], hcreate, rfl⟩
  · obtain ⟨-, -, -, rfl⟩ := dropTable_eq_ok.1 hdropped
    exact fun other hother => h other (List.mem_of_mem_filter hother)
  · exact reached_of_mem_setTable h ((h table htable).perform rows hwritten)

/-- The tables of a database that is reached are reached. -/
theorem reached_of_mem_run (calls : List Call) :
    ∀ table ∈ ((empty name).run calls).tables, table.Reached := by
  refine foldl_keeps (P := fun db : Database => ∀ table ∈ db.tables, table.Reached) nofun ?_
  intro db h call _
  rw [after]
  split
  next next hnext => exact reached_of_perform h hnext
  next => exact h

end Database

/-! ## Statements -/

namespace Table

variable {table : Table}

/-- A condition finds rows of a table as a scan does, in every statement. -/
structure FoundByScan (table : Table) (filter : Option Expr) : Prop where
  /-- What is found are the rows of which the condition is true, in the order of the table. -/
  found : ∀ rows, table.matching filter = .ok rows ↔
    filter.forM table.scope.check = .ok () ∧
      (∀ stored ∈ table.rows, ∃ passes, table.scope.satisfies filter stored.row = .ok passes) ∧
      rows = table.rows.filter fun stored => table.scope.satisfies filter stored.row = .ok true
  /-- What fails is the binding of the condition, or else the first row that makes it fail. -/
  fails : ∀ cause, table.matching filter = .error cause ↔
    filter.forM table.scope.check = .error cause ∨
      filter.forM table.scope.check = .ok () ∧ ∃ before stored after,
        table.rows = before ++ stored :: after ∧
        (∀ other ∈ before, ∃ passes, table.scope.satisfies filter other.row = .ok passes) ∧
        table.scope.satisfies filter stored.row = .error cause
  select : ∀ (query : Select) (db : Database), query.join = none → query.filter = filter →
    db.table? query.table = some table →
    query.source db = do return (table.scope, (← table.scanned filter).map (·.row))
  update : ∀ (catalog : Catalog) (session : Session) (clock name : String)
    (items : List Assignment) (db : Database), catalog.selected session = .ok db →
    db.table? name = some table →
    catalog.planUpdate session clock name items filter = do
      let assignments ← bindAssignments table Record.memberNames items
      let targets ← table.scanned filter
      let (next, count) ←
        db.updateRows table.name (targets.map (·.id)) (Record.inOrder assignments)
      return catalog.replacing session clock next count (rowsAffected count "updated")
  delete : ∀ (catalog : Catalog) (session : Session) (clock name : String) (db : Database),
    catalog.selected session = .ok db → db.table? name = some table →
    catalog.planDelete session clock name filter = do
      let targets ← table.scanned filter
      let (next, count) ← db.deleteRows table.name (targets.map (·.id))
      return catalog.replacing session clock next count (rowsAffected count "deleted")

/-- **Whether an index answers a condition or not, the same rows are found**, in the order of the
table, and the same condition fails on the same row. -/
theorem Reached.foundByScan (h : table.Reached) (filter : Option Expr) :
    table.FoundByScan filter := by
  have hscan := h.invariant.matching_eq_scanned filter
  constructor
  case found =>
    intro rows
    rw [hscan]
    exact scanned_eq_ok
  case fails =>
    intro cause
    rw [hscan]
    exact scanned_eq_error
  case select =>
    rintro query db hjoin rfl htable
    rw [Select.source, Database.requireTable_eq_ok.2 htable, hjoin, ← hscan]
    rfl
  case update =>
    intro catalog session clock name items db hselected htable
    rw [Catalog.planUpdate, hselected, ← hscan]
    simp only [Database.requireTable_eq_ok.2 htable, bind, Except.bind]
  case delete =>
    intro catalog session clock name db hselected htable
    rw [Catalog.planDelete, hselected, ← hscan]
    simp only [Database.requireTable_eq_ok.2 htable, bind, Except.bind]

/-- The second of the people is found by an index, for a literal before the column. -/
theorem foundByScan_people : ∃ start, create people = .ok start ∧
    (start.run peopleCalls).FoundByScan
      (some (.comparison .eq (.literal (.ofNat 2)) (.column ⟨none, "ID"⟩))) ∧
    (start.run peopleCalls).matching
      (some (.comparison .eq (.literal (.ofNat 2)) (.column ⟨none, "ID"⟩))) =
      .ok [⟨2, ⟨[("id", .ofNat 2), ("address", .ofText "there"), ("friend", .ofNat 1)]⟩⟩] := by
  have hcreate : create people = .ok ⟨people, ⟨"id", .int, true, false, none⟩, [], 1,
      [.empty "id", .empty "address", .empty "friend"]⟩ := by
    decide +kernel
  exact ⟨_, hcreate, Reached.foundByScan ⟨people, _, peopleCalls, hcreate, rfl⟩ _,
    by decide +kernel⟩

end Table

end RelStore
