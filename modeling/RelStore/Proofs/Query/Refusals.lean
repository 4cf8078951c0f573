/-
What rows of queries and writes fail for.

A condition of a text fails for foreseen causes wherever its references do. So the rows that a query
or a write starts from are found, or refused for a cause that is no defect.
-/
import RelStore.Proofs.Database.Refusals
import RelStore.Proofs.Sql.Parsed
import RelStore.Query

namespace RelStore

open Sql

/-! ## Conditions -/

theorem admitsTypes_refusal : AdmitsTypes (·.isRefusal = true) := ⟨fun _ => rfl, fun _ _ => rfl⟩

theorem admitsTypes_foreseen : AdmitsTypes (·.isForeseen = true) := ⟨fun _ => rfl, fun _ _ => rfl⟩

/-- A condition of rows: words that can be written stand for it as WHERE or ON. -/
def Sql.Expr.OfRows (e : Expr) : Prop :=
  ∃ clause words, clause ≠ Clause.having ∧ AllSpoken words ∧ Derives clause .expr words e

theorem Sql.Expr.OfRows.leavesHold {e : Expr} (h : e.OfRows) {column : ColumnRef → Prop}
    {aggregate : AggregateCall → Prop} (hcolumn : ∀ ref, column ref) :
    e.LeavesHold column aggregate := by
  obtain ⟨_, _, hclause, hwords, hderives⟩ := h
  exact hderives.leavesHold hcolumn (fun hhaving => absurd hhaving hclause) hwords

/-! ## References -/

namespace Scope

variable (scope : Scope)

theorem refuses_resolve (ref : ColumnRef) : Refuses (scope.resolve ref) := by
  rw [resolve]
  split
  · rw [resolveIn]
    split
    · exact .error rfl
    · split
      · exact .error rfl
      · exact .ok _
  · split
    · refine .error ?_
      cases scope <;> rfl
    · exact .ok _
    · exact .error rfl

section

variable {column : ColumnRef → Prop} {aggregate : AggregateCall → Prop}

mutual

theorem refuses_check : (e : Expr) → e.LeavesHold column aggregate →
    Refuses (scope.check e)
  | .literal _, _ | .aggregate _, _ => .ok ()
  | .column ref, _ => (scope.refuses_resolve ref).map
  | .comparison _ left right, h | .and left right, h | .or left right, h =>
    (refuses_check left h.1).bind fun _ _ => refuses_check right h.2
  | .not operand, h | .isNull operand _, h | .like operand _ _, h => refuses_check operand h
  | .between operand low high _, h => (refuses_check operand h.1).bind fun _ _ =>
      (refuses_check low h.2.1).bind fun _ _ => refuses_check high h.2.2
  | .inList operand values _, h =>
    (refuses_check operand h.1).bind fun _ _ => refuses_checkAll values h.2
  | .unknown _, h => h.elim

theorem refuses_checkAll : (values : List Expr) → AllLeavesHold column aggregate values →
    Refuses (scope.checkAll values)
  | [], _ => .ok ()
  | value :: rest, h =>
    (refuses_check value h.1).bind fun _ _ => refuses_checkAll rest h.2

end

end

end Scope

/-! ## Rows -/

theorem failsOnly_keepPassing {α : Type} {failing : Cause → Prop} {test : α → Except Cause Bool}
    {items : List α} (h : ∀ item ∈ items, FailsOnly failing (test item)) :
    FailsOnly failing (keepPassing test items) := by
  induction items with
  | nil => exact .ok _
  | cons item rest ih =>
    obtain ⟨hitem, hrest⟩ := List.forall_mem_cons.1 h
    exact hitem.bind fun _ _ => (ih hrest).bind fun _ _ => .pure _

theorem Scope.refuses_satisfies (scope : Scope) {condition : Option Expr}
    (h : ∀ e ∈ condition, e.OfRows) (row : Row) : Refuses (scope.satisfies condition row) :=
  (Judgement.failsOnly admitsTypes_refusal).isSatisfied fun e he =>
    (h e he).leavesHold fun ref => (scope.refuses_resolve ref).map

theorem Sql.Expr.OfRows.refuses_check {e : Expr} (h : e.OfRows) (scope : Scope) :
    Refuses (scope.check e) := by
  have hleaves : e.LeavesHold (fun _ => True) fun _ => True := h.leavesHold fun _ => trivial
  exact scope.refuses_check e hleaves

theorem Table.refuses_matching (table : Table) {filter : Option Expr}
    (h : ∀ e ∈ filter, e.OfRows) : Refuses (table.matching filter) := by
  cases filter with
  | none => exact .ok _
  | some e =>
    refine ((h e rfl).refuses_check _).bind fun _ _ => FailsOnly.bind ?_ fun rows _ =>
      failsOnly_keepPassing fun stored _ => table.scope.refuses_satisfies h stored.row
    rw [Table.candidates]
    split
    · exact .ok _
    · refine (table.scope.refuses_resolve _).bind fun _ _ => ?_
      split
      · exact .pure _
      · exact .pure _

theorem JoinedTables.refuses_join (tables : JoinedTables) {on : Expr} (h : on.OfRows) :
    Refuses (tables.join on) := by
  have hequal : Refuses (tables.equalColumns? on) := by
    unfold equalColumns?
    split
    · exact (tables.scope.refuses_resolve _).bind fun _ _ =>
        (tables.scope.refuses_resolve _).bind fun _ _ =>
          .ite (fun _ => .pure _) fun _ => .ite (fun _ => .pure _) fun _ => .pure _
    · exact .ok _
  have hindex : Refuses (tables.partnerIndex? on) := by
    refine hequal.bind fun pair? _ => ?_
    split
    · exact .pure _
    · exact .pure _
  refine (h.refuses_check _).bind fun _ _ => hindex.bind fun _ _ =>
    failsOnly_keepPassing fun row _ => tables.scope.refuses_satisfies ?_ row
  rintro _ ⟨⟩
  exact h

theorem Sql.Select.refuses_source {query : Select} (db : Database)
    (hjoin : ∀ join ∈ query.join, join.on.OfRows) (hfilter : ∀ e ∈ query.filter, e.OfRows) :
    Refuses (query.source db) := by
  refine (db.refuses_requireTable _).bind fun table _ => ?_
  split
  next join heq =>
    refine (db.refuses_requireTable _).bind fun other _ => ?_
    refine .ite (fun _ => .error rfl) fun _ => .ite (fun _ => .error rfl) fun _ => FailsOnly.bind ?_ ?_
    · cases hwhere : query.filter with
      | none => exact .pure _
      | some e => exact (hfilter e hwhere).refuses_check _
    · intro _ _
      refine (JoinedTables.refuses_join _ (hjoin join heq)).bind fun rows _ => ?_
      exact (failsOnly_keepPassing fun row _ => Scope.refuses_satisfies _ hfilter row).bind
        fun _ _ => .pure _
  next => exact (table.refuses_matching hfilter).bind fun _ _ => .pure _

end RelStore
