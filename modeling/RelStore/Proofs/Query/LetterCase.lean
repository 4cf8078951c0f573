/-
Names in lower case, in conditions and in the rows they are about.

Names are compared in lower case wherever they are looked up, so that what a statement finds under its
names it finds under the same names in lower case.
-/
import RelStore.Engine
import RelStore.Proofs.LetterCase
import RelStore.Proofs.Lockstep.Codes
import RelStore.Proofs.Sql.Renaming

namespace RelStore

open Sql
open List (Forall₂)
open Text (sameName lower lowerLetters)

/-! ## Names -/

@[simp] theorem sameName_lowerLetters (a b : String) : sameName a (lowerLetters b) = sameName a b :=
  sameName_congr (Text.sameName_of_sameLetters (Text.sameLetters_lowerLetters b)) a

@[simp] theorem Schema.column?_lowerLetters (schema : Schema) (name : String) :
    schema.column? (lowerLetters name) = schema.column? name := by
  simp only [column?, sameName_lowerLetters]

theorem Database.agree_requireTable (db : Database) (name : String) :
    Agree (db.requireTable name) (db.requireTable (lowerLetters name)) := by
  have htable : db.table? (lowerLetters name) = db.table? name := by
    simp only [table?, sameName_lowerLetters]
  rw [requireTable, requireTable, htable]
  split
  · exact .refl _
  · exact .error ⟨rfl, rfl⟩

theorem Catalog.agree_requireDatabase (catalog : Catalog) (name : String) :
    Agree (catalog.requireDatabase name) (catalog.requireDatabase (lowerLetters name)) := by
  have hdb : catalog.database? (lowerLetters name) = catalog.database? name := by
    simp only [database?, sameName_lowerLetters]
  rw [requireDatabase, requireDatabase, hdb]
  split
  · exact .refl _
  · exact .error ⟨rfl, rfl⟩

theorem Table.agree_requireColumn (table : Table) (name : String) :
    Agree (table.requireColumn name) (table.requireColumn (lowerLetters name)) := by
  rw [requireColumn, requireColumn, column?, column?, Schema.column?_lowerLetters]
  split
  · exact .refl _
  · exact .error ⟨rfl, rfl⟩

/-! ## References -/

namespace Scope

theorem agree_resolve (scope : Scope) (ref : ColumnRef) :
    Agree (scope.resolve ref) (scope.resolve (ref.renamed lowerLetters)) := by
  obtain ⟨_ | table, column⟩ := ref
  · have hnamed : scope.named (lowerLetters column) = scope.named column := by
      simp only [named, Schema.column?_lowerLetters]
    simp only [resolve, ColumnRef.renamed, Option.map_none, hnamed]
    split
    · cases scope <;> exact .error ⟨rfl, rfl⟩
    · exact .refl _
    · exact .error ⟨rfl, rfl⟩
  · simp only [resolve, resolveIn, ColumnRef.renamed, Option.map_some, sameName_lowerLetters,
      Schema.column?_lowerLetters]
    split
    · exact .error ⟨rfl, rfl⟩
    · split
      · exact .error ⟨rfl, rfl⟩
      · exact .refl _

mutual

theorem agree_check (scope : Scope) : (e : Expr) → Agree (scope.check e) (scope.check (e.renamed lowerLetters))
  | .literal _ | .aggregate _ => .refl _
  | .unknown _ => .error ⟨rfl, rfl⟩
  | .column ref => by
    simp only [check, Expr.renamed]
    exact (scope.agree_resolve ref).map fun _ _ _ => rfl
  | .comparison _ left right | .and left right | .or left right => by
    simp only [check, Expr.renamed]
    exact (scope.agree_check left).use fun _ => scope.agree_check right
  | .not operand | .isNull operand _ | .like operand _ _ => by
    simp only [check, Expr.renamed]
    exact scope.agree_check operand
  | .between operand low high _ => by
    simp only [check, Expr.renamed]
    exact (scope.agree_check operand).use fun _ => (scope.agree_check low).use fun _ => scope.agree_check high
  | .inList operand values _ => by
    simp only [check, Expr.renamed]
    exact (scope.agree_check operand).use fun _ => scope.agree_checkAll values

theorem agree_checkAll (scope : Scope) : (values : List Expr) →
    Agree (scope.checkAll values) (scope.checkAll (renamedAll lowerLetters values))
  | [] => .refl _
  | value :: rest => by
    simp only [checkAll, renamedAll]
    exact (scope.agree_check value).use fun _ => scope.agree_checkAll rest

end

theorem agree_outputName (scope : Scope) (ref : ColumnRef) :
    Agree (scope.outputName ref) (scope.outputName (ref.renamed lowerLetters)) := by
  have hqualified : (ref.renamed lowerLetters).table.isSome = ref.table.isSome := Option.isSome_map
  rw [outputName, outputName, hqualified]
  exact (scope.agree_resolve ref).map fun _ _ hbound => by rw [hbound]

end Scope

/-! ## Conditions -/

namespace Sql

section

variable {m : Type → Type} [Monad m] [MonadExcept Cause m] (rename : String → String) (leaves : Leaves m)

/-- The leaves that are read under other names. -/
def Leaves.renamed : Leaves m where
  column ref := leaves.column (ref.renamed rename)
  aggregate call := leaves.aggregate (call.renamed rename)

mutual

/-- A condition under other names is the condition over leaves that are read under these. -/
theorem Expr.eval_renamed : (e : Expr) → (e.renamed rename).eval leaves = e.eval (leaves.renamed rename)
  | .literal _ | .column _ | .aggregate _ | .unknown _ => rfl
  | .comparison _ left right | .and left right | .or left right => by
    simp only [Expr.renamed, Expr.eval, left.eval_renamed, right.eval_renamed]
  | .not operand | .isNull operand _ | .like operand _ _ => by
    simp only [Expr.renamed, Expr.eval, operand.eval_renamed]
  | .between operand low high _ => by
    simp only [Expr.renamed, Expr.eval, operand.eval_renamed, low.eval_renamed, high.eval_renamed]
  | .inList operand values _ => by
    simp only [Expr.renamed, Expr.eval, operand.eval_renamed, evalMember_renamed]

theorem evalMember_renamed (probe : Scalar) (sawNull : Bool) : (values : List Expr) →
    evalMember leaves probe sawNull (renamedAll rename values) =
      evalMember (leaves.renamed rename) probe sawNull values
  | [] => rfl
  | value :: rest => by
    simp only [renamedAll, evalMember, value.eval_renamed, evalMember_renamed]

end

theorem isSatisfied_renamed (condition : Option Expr) :
    isSatisfied leaves (condition.map (Expr.renamed rename)) = isSatisfied (leaves.renamed rename) condition := by
  cases condition with
  | none => rfl
  | some e => simp only [Option.map_some, isSatisfied, Expr.truth, e.eval_renamed]

end

end Sql

/-! ## Rows -/

namespace Scope

theorem agree_read (scope : Scope) (row : Row) (ref : ColumnRef) :
    Agree (scope.read row ref) (scope.read row (ref.renamed lowerLetters)) :=
  (scope.agree_resolve ref).map fun _ _ hbound => by rw [hbound]

theorem agree_satisfies (scope : Scope) (condition : Option Expr) (row : Row) :
    Agree (scope.satisfies condition row)
      (scope.satisfies (condition.map (Expr.renamed lowerLetters)) row) := by
  rw [satisfies, satisfies, isSatisfied_renamed]
  let := Lockstep.codes
  refine inStep_isSatisfied (m := Except Cause) ⟨fun ref => ?_, fun call => Paired.error ⟨rfl, rfl⟩⟩ condition
  exact (scope.agree_read row ref).mono fun _ _ hvalue => hvalue ▸ .refl _

end Scope

theorem agree_keepPassing {α : Type} {test other : α → Except Cause Bool}
    (h : ∀ item, Agree (test item) (other item)) (items : List α) :
    Agree (keepPassing test items) (keepPassing other items) := by
  induction items with
  | nil => exact .refl _
  | cons item rest ih => exact (h item).use fun _ => ih.use fun _ => .refl _

theorem equalityWithLiteral?_renamed (rename : String → String) (e : Expr) :
    equalityWithLiteral? (e.renamed rename) =
      (equalityWithLiteral? e).map fun found => (found.1.renamed rename, found.2) := by
  cases e with
  | comparison op left right =>
    cases op with
    | eq => cases left <;> cases right <;> rfl
    | _ => rfl
  | _ => rfl

namespace Table

theorem agree_candidates (table : Table) (e : Expr) :
    Agree (table.candidates e) (table.candidates (e.renamed lowerLetters)) := by
  rw [candidates, candidates, equalityWithLiteral?_renamed]
  cases equalityWithLiteral? e with
  | none => exact .refl _
  | some found => exact (table.scope.agree_resolve found.1).use fun _ => .refl _

theorem agree_matching (table : Table) (filter : Option Expr) :
    Agree (table.matching filter) (table.matching (filter.map (Expr.renamed lowerLetters))) := by
  cases filter with
  | none => exact .refl _
  | some e =>
    refine (table.scope.agree_check e).use fun _ => (table.agree_candidates e).use fun rows => ?_
    exact agree_keepPassing (fun stored => table.scope.agree_satisfies (some e) stored.row) rows

end Table

namespace JoinedTables

variable (tables : JoinedTables)

theorem agree_equalColumns? (on : Expr) :
    Agree (tables.equalColumns? on) (tables.equalColumns? (on.renamed lowerLetters)) := by
  have hresolve (ref other : ColumnRef) : Agree
      (tables.equalColumns? (.comparison .eq (.column ref) (.column other)))
      (tables.equalColumns? ((Expr.comparison .eq (.column ref) (.column other)).renamed lowerLetters)) :=
    (tables.scope.agree_resolve ref).use fun _ => (tables.scope.agree_resolve other).use fun _ => .refl _
  cases on with
  | comparison op left right =>
    cases op with
    | eq =>
      cases left with
      | column ref =>
        cases right with
        | column other => exact hresolve ref other
        | _ => exact .refl _
      | _ => exact .refl _
    | _ => exact .refl _
  | _ => exact .refl _

theorem agree_join (on : Expr) : Agree (tables.join on) (tables.join (on.renamed lowerLetters)) := by
  refine (tables.scope.agree_check on).use fun _ => ?_
  refine Paired.use ((tables.agree_equalColumns? on).use fun _ => .refl _) fun index? => ?_
  exact agree_keepPassing (tables.scope.agree_satisfies (some on)) _

end JoinedTables

namespace Sql.Select

theorem isAggregated_renamed (rename : String → String) (query : Select) :
    (query.renamed rename).isAggregated = query.isAggregated := by
  simp only [isAggregated, renamed, List.isEmpty_map, Option.isSome_map, List.any_map]
  congr 2
  · congr 1
    funext projection
    cases projection <;> rfl
  · funext item
    obtain ⟨key, _⟩ := item
    cases key <;> rfl

theorem agree_joinedRows (query : Select) (db : Database) (table : Table) (join : Join) :
    Agree (query.joinedRows db table join)
      ((query.renamed lowerLetters).joinedRows db table (join.renamed lowerLetters)) := by
  refine (db.agree_requireTable join.table).use fun other => ?_
  rw [isAggregated_renamed]
  refine .ite Iff.rfl (fun _ => .refl _) fun _ => .ite Iff.rfl (fun _ => .refl _) fun _ => ?_
  let tables : JoinedTables := ⟨table, other⟩
  have hchecked : Agree (query.filter.forM tables.scope.check)
      ((query.filter.map (Expr.renamed lowerLetters)).forM tables.scope.check) := by
    cases query.filter with
    | none => exact .refl _
    | some e => exact tables.scope.agree_check e
  refine hchecked.use fun _ => (tables.agree_join join.on).use fun rows => ?_
  exact (agree_keepPassing (tables.scope.agree_satisfies query.filter) rows).use fun _ => .refl _

/-- **A query is about the same rows** under names in other letters. -/
theorem agree_source (query : Select) (db : Database) :
    Agree (query.source db) ((query.renamed lowerLetters).source db) := by
  refine (db.agree_requireTable query.table).use fun table => ?_
  simp only [renamed]
  cases query.join with
  | none => exact (table.agree_matching query.filter).use fun _ => .refl _
  | some join => exact query.agree_joinedRows db table join

end Sql.Select

end RelStore
