/-
What statements fail for.

In a catalog that texts build, the plan of a statement that is read from a text fails for foreseen
causes only (`failsForeseen_plan`), and carrying it out fails only where a file is not saved. So no
text comes upon a defect of the engine (`NoDefect`), in whatever session and on whatever disk.
-/
import RelStore.Proofs.Query.Answers
import RelStore.Proofs.Sql.Refusals
import RelStore.Proofs.Unchanged

namespace RelStore

open Sql

/-! ## Planning -/

theorem failsForeseen_bindAssignments (table : Table) (assigned : List String)
    (items : List Assignment) : FailsForeseen (bindAssignments table assigned items) := by
  induction items generalizing assigned with
  | nil => exact .ok _
  | cons item rest ih =>
    refine (table.refuses_requireColumn _).foreseen.bind fun column _ => ?_
    exact .ite (fun _ => .error rfl) fun _ => (ih _).bind fun _ _ => .pure _

theorem Sql.Statement.Stated.ofRows_update {table : String} {items : List Assignment}
    {filter : Option Expr} (h : (Statement.update table items filter).Stated) :
    ∀ e ∈ filter, e.OfRows := by
  obtain ⟨words, hwords, hstatement⟩ := h
  cases hstatement with
  | update table _ hfilter =>
    have hfilterWords := (List.forall_mem_append.1 (List.forall_mem_cons.1 (List.forall_mem_cons.1
      (List.forall_mem_cons.1 hwords).2).2).2).2
    exact (hfilter.spoken hfilterWords).forall fun _ _ h => h.2.ofRows h.1

namespace Catalog

variable (catalog : Catalog) {session : Session} {clock : String}

theorem failsForeseen_requireDatabase (name : String) : FailsForeseen (catalog.requireDatabase name) := by
  rw [requireDatabase]
  split
  · exact .ok _
  · exact .error rfl

theorem failsForeseen_selected (session : Session) : FailsForeseen (catalog.selected session) := by
  rw [selected]
  split
  · exact catalog.failsForeseen_requireDatabase _
  · exact .error rfl

theorem failsForeseen_createDatabase (name clock : String) :
    FailsForeseen (catalog.createDatabase name clock) :=
  (failsForeseen_checkName .database name).bind fun _ _ =>
    .ite (fun _ => .error rfl) fun _ => .pure _

theorem failsForeseen_planUpdate (table : String) (items : List Assignment) {filter : Option Expr}
    (hfilter : ∀ e ∈ filter, e.OfRows) :
    FailsForeseen (catalog.planUpdate session clock table items filter) := by
  refine (catalog.failsForeseen_selected session).bind fun db _ => ?_
  refine (db.refuses_requireTable _).foreseen.bind fun table _ => ?_
  refine (failsForeseen_bindAssignments table _ _).bind fun _ _ => ?_
  refine (table.refuses_matching hfilter).foreseen.bind fun _ _ => ?_
  exact (db.refuses_updateRows _ _ _).foreseen.bind fun _ _ => .pure _

theorem failsForeseen_planDelete (table : String) {filter : Option Expr}
    (hfilter : ∀ e ∈ filter, e.OfRows) :
    FailsForeseen (catalog.planDelete session clock table filter) := by
  refine (catalog.failsForeseen_selected session).bind fun db _ => ?_
  refine (db.refuses_requireTable _).foreseen.bind fun table _ => ?_
  refine (table.refuses_matching hfilter).foreseen.bind fun _ _ => ?_
  exact (db.refuses_deleteRows _ _).foreseen.bind fun _ _ => .pure _

/-- **The plan of a statement that is read from a text fails for foreseen causes only.** -/
theorem failsForeseen_plan (h : catalog.Built) {statement : Statement} (hstated : statement.Stated) :
    FailsForeseen (catalog.plan session clock statement) := by
  have hselected := catalog.failsForeseen_selected session
  obtain ⟨words, hwords, hstatement⟩ := id hstated
  cases hstatement with
  | createDatabase _ => exact (catalog.failsForeseen_createDatabase _ _).bind fun _ _ => .pure _
  | createTable _ _ =>
    exact hselected.bind fun db _ => (db.refuses_createTable _).foreseen.bind fun _ _ => .pure _
  | dropDatabase name =>
    refine (catalog.failsForeseen_requireDatabase name).bind fun db _ => FailsOnly.bind ?_ fun _ _ => .pure _
    exact (catalog.failsForeseen_requireDatabase _).bind fun _ _ => .pure _
  | dropTable name =>
    exact hselected.bind fun db _ => (db.refuses_requireTable _).foreseen.bind fun _ _ =>
      (db.refuses_dropTable _).foreseen.bind fun _ _ => .pure _
  | useDatabase name => exact (catalog.failsForeseen_requireDatabase name).bind fun _ _ => .pure _
  | showDatabases => exact .ok _
  | showTables => exact hselected.bind fun _ _ => .pure _
  | describe table =>
    exact hselected.bind fun db _ => (db.refuses_requireTable _).foreseen.bind fun _ _ => .pure _
  | insert table _ _ =>
    exact hselected.bind fun db _ => (db.refuses_insertRow _ _ _).foreseen.bind fun _ _ => .pure _
  | update _ _ _ => exact catalog.failsForeseen_planUpdate _ _ hstated.ofRows_update
  | delete table hfilter =>
    have hfilterWords := (List.forall_mem_cons.1 (List.forall_mem_cons.1
      (List.forall_mem_cons.1 hwords).2).2).2
    exact catalog.failsForeseen_planDelete _
      ((hfilter.spoken hfilterWords).forall fun _ _ h => h.2.ofRows h.1)
  | select _ =>
    exact hselected.bind fun db hdb =>
      (Select.failsForeseen_run (h.databases db (mem_of_selected hdb)) hstated.spoken).bind
        fun _ _ => .pure _

end Catalog

/-! ## Running -/

/-- An outcome that is no defect of the engine. -/
def Outcome.NoDefect (outcome : Outcome) : Prop :=
  ∀ failure, outcome = .error failure → failure.cause.kind ≠ .internal

namespace Workspace

variable {w : Workspace} {statement : Statement}

theorem kind_of_run (h : w.engine.catalog.Built) (hstated : statement.Stated) {after : Workspace}
    {cause : Cause} (hrun : w.run statement = (after, .error cause)) : cause.kind ≠ .internal := by
  rcases run_eq_error hrun with ⟨hplan, -⟩ | hkind
  · exact Cause.kind_ne_internal (w.engine.catalog.failsForeseen_plan h hstated cause hplan)
  · rw [hkind]
    nofun

theorem noDefect_runAs (h : w.engine.catalog.Built) (hstated : statement.Stated)
    (text : Option String) : (w.runAs text statement).2.NoDefect := by
  rw [runAs]
  split
  next => rintro _ ⟨⟩
  next hrun =>
    rintro _ ⟨⟩
    exact kind_of_run h hstated hrun

theorem noDefect_runAll {statements : List Statement} (h : w.engine.catalog.Built)
    (hstated : ∀ statement ∈ statements, statement.Stated) :
    ∀ outcome ∈ (w.runAll statements).2, outcome.NoDefect := by
  induction statements generalizing w with
  | nil => exact List.forall_mem_nil _
  | cons statement rest ih =>
    obtain ⟨hfirst, hrest⟩ := List.forall_mem_cons.1 hstated
    have houtcome := noDefect_runAs h hfirst none
    have hbuilt := Catalog.keptByPlans_built.runAs h hfirst.regular none
    rw [runAll]
    split
    next hresult =>
      rw [hresult] at houtcome
      exact List.forall_mem_singleton.2 houtcome
    next hresult =>
      rw [hresult] at houtcome hbuilt
      exact List.forall_mem_cons.2 ⟨houtcome, ih hbuilt hrest⟩

end Workspace

/-! ## Texts -/

/-- The conditions of a statement that are asked of rows: WHERE and ON. -/
def Sql.Statement.rowConditions : Statement → List Expr
  | .update _ _ filter | .delete _ filter => filter.toList
  | .select query => (query.join.map (·.on)).toList ++ query.filter.toList
  | _ => []

theorem Sql.Statement.Regular.aggregateFree {statement : Statement} (h : statement.Regular) :
    ∀ e ∈ statement.rowConditions, e.AggregateFree := by
  intro e he
  cases statement with
  | update table items filter => exact h e (Option.mem_toList.1 he)
  | delete table filter => exact h e (Option.mem_toList.1 he)
  | select query =>
    rcases List.mem_append.1 he with he | he
    · obtain ⟨join, hjoin, rfl⟩ := Option.map_eq_some_iff.1 (Option.mem_toList.1 he)
      exact h.1 join hjoin
    · exact h.2 e (Option.mem_toList.1 he)
  | _ => cases he

/-- **No text comes upon a defect of the engine**, in a catalog that texts lead to, whatever the
session and the disk are: neither as a statement nor as a script does it fail with an internal
error. In what is read from it there are no aggregates in WHERE and ON. -/
theorem Catalog.Reached.noDefect {w : Workspace} (h : w.engine.catalog.Reached) (sql : String) :
    (w.execute sql).2.NoDefect ∧ (∀ outcome ∈ (w.executeScript sql).2, outcome.NoDefect) ∧
    ∀ statement, (parse sql = .ok statement ∨
        ∃ read, parseScript sql = .ok read ∧ statement ∈ read) →
      ∀ e ∈ statement.rowConditions, e.AggregateFree := by
  refine ⟨?_, ?_, ?_⟩
  · rw [Workspace.execute]
    split
    next cause hparse =>
      rintro _ ⟨⟩
      exact Cause.kind_ne_internal (failsForeseen_parse sql cause hparse)
    next statement hparse => exact Workspace.noDefect_runAs h.built (stated_of_parse hparse) _
  · rw [Workspace.executeScript]
    split
    next cause hparse =>
      refine List.forall_mem_singleton.2 ?_
      rintro _ ⟨⟩
      exact Cause.kind_ne_internal (failsForeseen_parseScript sql cause hparse)
    next statements hparse => exact Workspace.noDefect_runAll h.built (stated_of_parseScript hparse)
  · rintro statement (hparse | ⟨read, hparse, hmem⟩)
    · exact (regular_of_parse hparse).aggregateFree
    · exact (regular_of_parseScript hparse statement hmem).aggregateFree

/-- An aggregate in WHERE is a mistake of the text, and a sum of titles one of the query. -/
theorem noDefect_shop :
    let shop : Workspace := ⟨⟨⟨none, [⟨"shop", [authors, books]⟩]⟩, ⟨.root, [], "", []⟩⟩, ⟨some "shop"⟩⟩
    shop.engine.catalog.Reached ∧
    (shop.execute "SELECT title FROM books WHERE COUNT(*) > 1").2.NoDefect ∧
    (shop.execute "SELECT SUM(title) FROM books ORDER BY title").2.NoDefect :=
  ⟨reached_shop, (Catalog.Reached.noDefect reached_shop _).1, (Catalog.Reached.noDefect reached_shop _).1⟩

end RelStore
