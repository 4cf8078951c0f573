/-
Which updates are refused because a column is assigned more than once.

The assigned columns are collected by their declared names, and a name that is there already is
refused. Before the first, the names of the members that every record has are there. So an update
that repeats a column is refused, but so is every update of a column that is declared with the name
of a member (`Catalog.Reached.assignedTwice_iff`).
-/
import RelStore.Proofs.Engine.Refusals
import RelStore.Proofs.Table.Meaning

namespace RelStore

open Sql
open Text (sameName)

/-- Two items assign one column, in whatever letter case they have its name. -/
def Sql.RepeatsColumn (items : List Assignment) : Prop :=
  ¬ items.Pairwise fun item later => sameName item.column later.column = false

/-- Names that are all different, and new. -/
def NewNames (assigned names : List String) : Prop := names.Nodup ∧ names.Disjoint assigned

theorem newNames_cons {assigned names : List String} {name : String} :
    NewNames assigned (name :: names) ↔ name ∉ assigned ∧ NewNames (name :: assigned) names := by
  simp only [NewNames, List.nodup_cons, List.disjoint_cons_left, List.disjoint_cons_right]
  tauto

namespace Table

variable {table : Table} {column : Column} {items : List Assignment}

/-- The declared name of the column that is called by a name in some letter case. -/
def declaredName (table : Table) (name : String) : String :=
  (table.column? name).elim name Column.name

theorem declaredName_eq {name : String} (h : table.column? name = some column) :
    table.declaredName name = column.name := by
  rw [declaredName, h]
  rfl

theorem bindAssignments_cons {assigned : List String} {item : Assignment}
    (h : table.column? item.column = some column) :
    bindAssignments table assigned (item :: items) =
      if column.name ∈ assigned then .error (.columnAssignedTwice table.name column.name)
      else ((column.name, item.value) :: ·) <$> bindAssignments table (column.name :: assigned) items := by
  rw [bindAssignments, requireColumn_eq_ok.2 h, map_eq_pure_bind]
  exact ite_congr (propext List.contains_iff_mem) (fun _ => rfl) fun _ => rfl

/-- Assignments are bound if their columns are different ones that have not been assigned before.
Otherwise they are refused for one of them. -/
theorem bindAssignments_cases (hcolumns : ∀ item ∈ items, ∃ column, table.column? item.column = some column)
    (assigned : List String) :
    (NewNames assigned (items.map fun item => table.declaredName item.column) ∧
      ∃ bound, bindAssignments table assigned items = .ok bound) ∨
    (¬ NewNames assigned (items.map fun item => table.declaredName item.column) ∧
      ∃ item ∈ items, ∃ column, table.column? item.column = some column ∧
        bindAssignments table assigned items = .error (.columnAssignedTwice table.name column.name)) := by
  induction items generalizing assigned with
  | nil => exact .inl ⟨⟨List.nodup_nil, List.disjoint_nil_left _⟩, [], rfl⟩
  | cons item rest ih =>
    obtain ⟨⟨column, hcolumn⟩, hrest⟩ := List.forall_mem_cons.1 hcolumns
    rw [List.map_cons, declaredName_eq hcolumn, newNames_cons, bindAssignments_cons hcolumn]
    by_cases hseen : column.name ∈ assigned
    · rw [if_pos hseen]
      exact .inr ⟨fun h => h.1 hseen, item, List.mem_cons_self, column, hcolumn, rfl⟩
    · rw [if_neg hseen]
      rcases ih hrest (column.name :: assigned) with
        ⟨hnew, bound, hbound⟩ | ⟨hnot, later, hlater, other, hother, hrefused⟩
      · exact .inl ⟨⟨hseen, hnew⟩, _, by rw [hbound]; rfl⟩
      · exact .inr ⟨fun h => hnot h.2, later, List.mem_cons_of_mem _ hlater, other, hother,
          by rw [hrefused]; rfl⟩

/-- The declared names are not new if the items repeat a column, or have one that is there already. -/
theorem Shaped.newNames_iff (h : table.Shaped)
    (hcolumns : ∀ item ∈ items, ∃ column, table.column? item.column = some column)
    (assigned : List String) :
    ¬ NewNames assigned (items.map fun item => table.declaredName item.column) ↔
      RepeatsColumn items ∨ ∃ item ∈ items, ∃ column ∈ table.columns,
        sameName column.name item.column = true ∧ column.name ∈ assigned := by
  have hname {item : Assignment} (hi : item ∈ items) : ∃ column ∈ table.columns,
      sameName column.name item.column = true ∧ table.declaredName item.column = column.name := by
    obtain ⟨column, hcolumn⟩ := hcolumns item hi
    obtain ⟨hmem, hsame⟩ := h.column?_eq_some_iff.1 hcolumn
    exact ⟨column, hmem, hsame, declaredName_eq hcolumn⟩
  rw [NewNames, not_and_or]
  refine or_congr ?_ ?_
  · rw [RepeatsColumn, List.Nodup, List.pairwise_map]
    refine not_congr (List.Pairwise.iff_of_mem fun {item later} hi hl => ?_)
    obtain ⟨column, hc, hitem, hdeclared⟩ := hname hi
    obtain ⟨other, ho, hlater, hdeclared'⟩ := hname hl
    rw [hdeclared, hdeclared', ne_eq, ← Bool.not_eq_true, sameName_iff, ← sameName_iff.1 hitem,
      ← sameName_iff.1 hlater]
    exact not_congr ⟨fun heq => heq ▸ rfl,
      fun heq => congrArg Column.name (h.columns.eq_of_sameName hc ho (sameName_iff.2 heq))⟩
  · simp only [List.Disjoint, List.forall_mem_map]
    push Not
    simp only [and_true]
    refine exists_congr fun item => and_congr_right fun hi => ?_
    obtain ⟨column, hc, hitem, hdeclared⟩ := hname hi
    rw [hdeclared]
    refine ⟨fun hmem => ⟨column, hc, hitem, hmem⟩, ?_⟩
    rintro ⟨other, ho, hother, hmem⟩
    have hsame : sameName column.name other.name = true :=
      sameName_iff.2 ((sameName_iff.1 hitem).trans (sameName_iff.1 hother).symm)
    rwa [h.columns.eq_of_sameName hc ho hsame]

end Table

/-! ## Statements -/

namespace Catalog

variable {catalog : Catalog} {session : Session} {clock tableName : String}
  {items : List Assignment} {filter : Option Expr} {db : Database} {table : Table}

/-- After the assignments are bound, an update is not refused for them any more. -/
theorem planUpdate_error_iff (hselected : catalog.selected session = .ok db)
    (htable : db.requireTable tableName = .ok table) (hfilter : ∀ e ∈ filter, e.OfRows)
    {name column : String} :
    catalog.planUpdate session clock tableName items filter = .error (.columnAssignedTwice name column) ↔
      bindAssignments table Record.memberNames items = .error (.columnAssignedTwice name column) := by
  have hplan : catalog.planUpdate session clock tableName items filter = do
      let assignments ← bindAssignments table Record.memberNames items
      let targets ← table.matching filter
      let updated ← db.updateRows table.name (targets.map (·.id)) (Record.inOrder assignments)
      return catalog.replacing session clock updated.1 updated.2 (rowsAffected updated.2 "updated") := by
    rw [planUpdate, hselected]
    show (db.requireTable tableName >>= _) = _
    rw [htable]
    rfl
  rw [hplan]
  cases hbound : bindAssignments table Record.memberNames items with
  | error cause => exact ⟨fun h => congrArg _ (Except.error.inj h), fun h => congrArg _ (Except.error.inj h)⟩
  | ok bound =>
    refine iff_of_false (fun herror => ?_) (by rintro ⟨⟩)
    -- what comes next is refused for what rows and references hold, which are other causes
    have hrefuses : Refuses do
        let targets ← table.matching filter
        let updated ← db.updateRows table.name (targets.map (·.id)) (Record.inOrder bound)
        return catalog.replacing session clock updated.1 updated.2 (rowsAffected updated.2 "updated") :=
      (table.refuses_matching hfilter).bind fun _ _ => (db.refuses_updateRows _ _ _).bind fun _ _ => .pure _
    exact Bool.noConfusion (hrefuses _ herror)

end Catalog

namespace Workspace

/-- A text of a statement is refused as the plan of the statement is. -/
theorem execute_refused_iff {w : Workspace} {sql : String} {statement : Statement}
    (hparse : parse sql = .ok statement) {cause : Cause} (hkind : cause.kind ≠ .storage) :
    w.execute sql = (w, .error ⟨cause, some sql⟩) ↔
      w.engine.catalog.plan w.session w.engine.disk.clock statement = .error cause := by
  rw [execute, hparse]
  show w.runAs (some sql) statement = _ ↔ _
  rw [runAs]
  constructor
  · intro h
    split at h
    next => cases (Prod.mk.inj h).2
    next hrun =>
      obtain ⟨rfl, hfailure⟩ := Prod.mk.inj h
      obtain ⟨rfl, -⟩ := Failure.mk.inj (Except.error.inj hfailure)
      exact ((run_eq_error hrun).resolve_right hkind).1
  · intro h
    rw [run, h]

end Workspace

/-- A text with assignments to a table is refused because one of the columns is assigned more than
once, and changes nothing. -/
def Workspace.RefusesAssignments (w : Workspace) (sql : String) (table : Table)
    (items : List Assignment) : Prop :=
  ∃ item ∈ items, ∃ column ∈ table.columns, sameName column.name item.column = true ∧
    w.execute sql = (w, .error ⟨.columnAssignedTwice table.name column.name, some sql⟩)

/-- **An update is refused because a column is assigned more than once** exactly if its items repeat
a column in some letter case, or have one that is declared with the name of a member of records. -/
theorem Catalog.Reached.assignedTwice_iff {w : Workspace} (h : w.engine.catalog.Reached)
    {sql tableName : String} {items : List Assignment} {filter : Option Expr}
    (hparse : parse sql = .ok (.update tableName items filter)) {db : Database}
    (hselected : w.engine.catalog.selected w.session = .ok db) {table : Table}
    (htable : db.requireTable tableName = .ok table)
    (hnamed : ∀ item ∈ items, ∃ column ∈ table.columns, sameName column.name item.column = true) :
    w.RefusesAssignments sql table items ↔ RepeatsColumn items ∨ ∃ item ∈ items, ∃ column ∈ table.columns,
      sameName column.name item.column = true ∧ column.name ∈ Record.memberNames := by
  have hfilter : ∀ e ∈ filter, e.OfRows := (stated_of_parse hparse).ofRows_update
  have hshaped : table.Shaped :=
    ((h.built.databases db (Catalog.mem_of_selected hselected)).reached table
      (Database.mem_of_requireTable htable)).invariant.shaped
  have hcolumns : ∀ item ∈ items, ∃ column, table.column? item.column = some column := fun item hi =>
    (hnamed item hi).imp fun column hcolumn => hshaped.column?_eq_some_iff.2 hcolumn
  have hexecute {name column : String} :
      w.execute sql = (w, .error ⟨.columnAssignedTwice name column, some sql⟩) ↔
        bindAssignments table Record.memberNames items = .error (.columnAssignedTwice name column) := by
    rw [Workspace.execute_refused_iff hparse (by rintro ⟨⟩), Catalog.plan,
      Catalog.planUpdate_error_iff hselected htable hfilter]
  simp only [Workspace.RefusesAssignments, hexecute]
  rw [← hshaped.newNames_iff hcolumns]
  rcases Table.bindAssignments_cases hcolumns Record.memberNames with
    ⟨hnew, bound, hbound⟩ | ⟨hnot, item, hi, column, hcolumn, hrefused⟩
  · refine iff_of_false ?_ (not_not.2 hnew)
    rintro ⟨_, -, _, -, -, herror⟩
    rw [hbound] at herror
    cases herror
  · obtain ⟨hmem, hsame⟩ := hshaped.column?_eq_some_iff.1 hcolumn
    exact iff_of_true ⟨item, hi, column, hmem, hsame, hrefused⟩ hnot

/-- A table of which a column is called like a member of records. -/
def buildings : Table where
  schema := ⟨"buildings",
    [⟨"name", .string, true, false, none⟩, ⟨"constructor", .string, false, false, none⟩]⟩
  primaryKey := ⟨"name", .string, true, false, none⟩
  rows := []
  nextId := 1
  indexes := [⟨"name", []⟩]

theorem reached_town : Catalog.Reached ⟨none, [⟨"town", [buildings]⟩]⟩ := by
  have htown : (Workspace.executeAll ⟨⟨.inMemory, ⟨.root, [], "", []⟩⟩, {}⟩
      ["CREATE DATABASE town", "USE town",
       "CREATE TABLE buildings (name STRING PRIMARY KEY, constructor STRING)"]).engine.catalog =
      ⟨none, [⟨"town", [buildings]⟩]⟩ := by
    decide +kernel
  exact htown ▸ Catalog.Reached.executeAll (.new none) _

/-- A column that is assigned twice in different letter cases. -/
theorem assignedTwice_iff_buildings :
    let sql := "UPDATE buildings SET name = 'Globe', NAME = 'Rose'"
    let items : List Assignment := [⟨"name", .ofText "Globe"⟩, ⟨"NAME", .ofText "Rose"⟩]
    let db : Database := ⟨"town", [buildings]⟩
    let w : Workspace := ⟨⟨⟨none, [db]⟩, ⟨.root, [], "", []⟩⟩, ⟨some "town"⟩⟩
    w.engine.catalog.Reached ∧ parse sql = .ok (.update "buildings" items none) ∧
      w.engine.catalog.selected w.session = .ok db ∧ db.requireTable "buildings" = .ok buildings ∧
      (∀ item ∈ items, ∃ column ∈ buildings.columns, sameName column.name item.column = true) ∧
      RepeatsColumn items ∧ w.RefusesAssignments sql buildings items := by
  intro sql items db w
  have hparse : parse sql = .ok (.update "buildings" items none) := by cbv
  have hselected : w.engine.catalog.selected w.session = .ok db := by decide +kernel
  have htable : db.requireTable "buildings" = .ok buildings := by decide +kernel
  have hnamed : ∀ item ∈ items, ∃ column ∈ buildings.columns,
      sameName column.name item.column = true := by decide +kernel
  have hrepeats : RepeatsColumn items := by
    rw [RepeatsColumn]
    decide +kernel
  have hrefused := Catalog.Reached.assignedTwice_iff (w := w) reached_town hparse hselected htable hnamed
  exact ⟨reached_town, hparse, hselected, htable, hnamed, hrepeats, hrefused.2 (.inl hrepeats)⟩

/-- **An update that repeats nothing is refused** as if it did. -/
theorem assignedTwice_constructor :
    let sql := "UPDATE buildings SET constructor = 'Wren'"
    let items : List Assignment := [⟨"constructor", .ofText "Wren"⟩]
    let db : Database := ⟨"town", [buildings]⟩
    let w : Workspace := ⟨⟨⟨none, [db]⟩, ⟨.root, [], "", []⟩⟩, ⟨some "town"⟩⟩
    w.engine.catalog.Reached ∧ parse sql = .ok (.update "buildings" items none) ∧
      w.engine.catalog.selected w.session = .ok db ∧ db.requireTable "buildings" = .ok buildings ∧
      (∀ item ∈ items, ∃ column ∈ buildings.columns, sameName column.name item.column = true) ∧
      ¬ RepeatsColumn items ∧ w.RefusesAssignments sql buildings items := by
  intro sql items db w
  have hparse : parse sql = .ok (.update "buildings" items none) := by cbv
  have hrepeats : ¬ RepeatsColumn items := by
    rw [RepeatsColumn]
    decide +kernel
  refine ⟨reached_town, hparse, by decide +kernel, by decide +kernel, by decide +kernel, hrepeats, ?_⟩
  exact ⟨⟨"constructor", .ofText "Wren"⟩, List.mem_singleton_self _,
    ⟨"constructor", .string, false, false, none⟩, by decide +kernel, by decide +kernel, by decide +kernel⟩

end RelStore
