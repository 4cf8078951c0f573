/-
Statements keep step over matching catalogs.

What a statement asks of a database, it asks of the rows that satisfy a condition, and these are
twins in matching tables. So matching catalogs plan the same steps for a statement, which lead to
matching catalogs, and answer alike (`ends_plan`).
-/
import RelStore.Engine
import RelStore.Proofs.Catalog.Matches
import RelStore.Proofs.Query.Lockstep

namespace RelStore

open Sql
open List (Forall₂)

/-- Answers that tell the same: listings of alike rows, or equal ones. -/
inductive Answer.Alike : Answer → Answer → Prop where
  | rows {listing other : Listing} : listing.Alike other → Alike (.rows listing) (.rows other)
  | schema (listing : Listing) : Alike (.schema listing) (.schema listing)
  | mutation (rowCount : Nat) (message : String) :
    Alike (.mutation rowCount message) (.mutation rowCount message)

/-- Plans of the same steps, with one session after them and alike answers. -/
structure Plan.Alike (plan other : Plan) : Prop where
  change : plan.change.Alike other.change
  session : plan.session = other.session
  answer : plan.answer.Alike other.answer

namespace Table.Matches

variable {table other : Table}

theorem bindAssignments_eq (h : table.Matches other) (assigned : List String)
    (items : List Assignment) :
    bindAssignments table assigned items = bindAssignments other assigned items := by
  induction items generalizing assigned with
  | nil => rfl
  | cons item rest ih => simp only [bindAssignments, h.requireColumn_eq, h.name_eq, ih]

theorem describe_eq (h : table.Matches other) : table.describe = other.describe := by
  rw [describe, describe, h.columns_eq]

end Table.Matches

namespace Database.Matches

variable {db other : Database} {name : String} {table table' : Table}

/-- A table that is found by some name is found by its own. -/
theorem ends_requireTable_self (h : db.Matches other) (name : String) :
    Ends (fun table table' => table.Matches table' ∧ db.table? table.name = some table ∧
      other.table? table'.name = some table') (db.requireTable name) (other.requireTable name) := by
  refine (h.ends_requireTable name).mono fun table table' ⟨ht, hin, hin'⟩ => ⟨ht, ?_, ?_⟩
  · exact h.distinct.find?_eq_some_iff.2 ⟨List.mem_of_find?_eq_some hin, Text.sameName_refl _⟩
  · exact h.distinct'.find?_eq_some_iff.2 ⟨List.mem_of_find?_eq_some hin', Text.sameName_refl _⟩

end Database.Matches

namespace Catalog.Matches

variable {catalog other : Catalog} {db db' : Database}

theorem ends_selected (h : catalog.Matches other) (session : Session) :
    Ends Database.Matches (catalog.selected session) (other.selected session) := by
  rw [selected, selected]
  split
  · exact (h.ends_requireDatabase _).mono fun _ _ hboth => hboth.1
  · exact .error (.refl _)

/-! ## Plans -/

theorem alike_answerOnly (h : catalog.Matches other) (session : Session) {answer answer' : Answer}
    (hanswer : answer.Alike answer') :
    (catalog.answerOnly session answer).Alike (other.answerOnly session answer') :=
  ⟨h.alike_unchanged, rfl, hanswer⟩

theorem alike_replacing (h : catalog.Matches other) (hdb : db.Matches db') (session : Session)
    (clock : String) (rowCount : Nat) (message : String) :
    (catalog.replacing session clock db rowCount message).Alike
      (other.replacing session clock db' rowCount message) :=
  ⟨h.alike_replaceDatabase hdb clock, rfl, .mutation rowCount message⟩

theorem ends_planDropDatabase (h : catalog.Matches other) (session : Session) (name : String) :
    Ends Plan.Alike (catalog.planDropDatabase session name)
      (other.planDropDatabase session name) := by
  refine (h.ends_requireDatabase name).bind fun db db' ⟨hdb, _, _⟩ => ?_
  rw [hdb.name]
  exact (h.ends_dropDatabase db'.name).bind fun change change' hchange =>
    .ok ⟨hchange, rfl, .mutation _ _⟩

theorem ends_planInsert (h : catalog.Matches other) (session : Session) (clock table : String)
    (columns : Option (List String)) (values : List Value) :
    Ends Plan.Alike (catalog.planInsert session clock table columns values)
      (other.planInsert session clock table columns values) :=
  (h.ends_selected session).bind fun _ _ hdb =>
    (hdb.ends_insertRow table values columns).bind fun _ _ hnext =>
      .ok (h.alike_replacing hnext session clock _ _)

theorem ends_planUpdate (h : catalog.Matches other) (session : Session) (clock tableName : String)
    (items : List Assignment) (filter : Option Expr) :
    Ends Plan.Alike (catalog.planUpdate session clock tableName items filter)
      (other.planUpdate session clock tableName items filter) := by
  refine (h.ends_selected session).bind fun db db' hdb => ?_
  refine (hdb.ends_requireTable_self tableName).bind fun table table' ⟨ht, hin, hin'⟩ => ?_
  rw [ht.bindAssignments_eq]
  refine (Ends.of_eq rfl).bind ?_
  rintro assignments _ rfl
  refine (ht.ends_matching filter).bind fun ss ts ⟨hboth, hss, hts⟩ => ?_
  rw [← ht.name_eq] at hin' ⊢
  refine (hdb.ends_updateRows hin hin' hboth hss hts _).bind ?_
  rintro ⟨next, count⟩ ⟨next', _⟩ ⟨hnext, rfl⟩
  exact .ok (h.alike_replacing hnext session clock _ _)

theorem ends_planDelete (h : catalog.Matches other) (session : Session) (clock tableName : String)
    (filter : Option Expr) :
    Ends Plan.Alike (catalog.planDelete session clock tableName filter)
      (other.planDelete session clock tableName filter) := by
  refine (h.ends_selected session).bind fun db db' hdb => ?_
  refine (hdb.ends_requireTable_self tableName).bind fun table table' ⟨ht, hin, hin'⟩ => ?_
  refine (ht.ends_matching filter).bind fun ss ts ⟨hboth, hss, hts⟩ => ?_
  rw [← ht.name_eq] at hin' ⊢
  refine (hdb.ends_deleteRows hin hin' hboth hss hts).bind ?_
  rintro ⟨next, count⟩ ⟨next', _⟩ ⟨hnext, rfl⟩
  exact .ok (h.alike_replacing hnext session clock _ _)

/-- **Matching catalogs plan alike for every statement**, or refuse it for the same reason. -/
theorem ends_plan (h : catalog.Matches other) (session : Session) (clock : String)
    (statement : Statement) :
    Ends Plan.Alike (catalog.plan session clock statement) (other.plan session clock statement) := by
  cases statement with
  | createDatabase name =>
    exact (h.ends_createDatabase name clock).bind fun _ _ hchange => .ok ⟨hchange, rfl, .mutation _ _⟩
  | dropDatabase name => exact h.ends_planDropDatabase session name
  | useDatabase name =>
    refine (h.ends_requireDatabase name).bind fun db db' hfound => ?_
    obtain ⟨hdb, -, -⟩ := hfound
    rw [hdb.name]
    exact .ok (h.alike_answerOnly _ (.mutation _ _))
  | showDatabases =>
    rw [plan, plan, h.names_eq]
    exact .ok (h.alike_answerOnly session (.schema _))
  | showTables =>
    refine (h.ends_selected session).bind fun db db' hdb => ?_
    rw [hdb.tableNames_eq]
    exact .ok (h.alike_answerOnly session (.schema _))
  | describe tableName =>
    refine (h.ends_selected session).bind fun db db' hdb => ?_
    refine (hdb.ends_requireTable tableName).bind fun table table' hfound => ?_
    obtain ⟨ht, -, -⟩ := hfound
    rw [ht.describe_eq]
    exact .ok (h.alike_answerOnly session (.schema _))
  | createTable schema =>
    exact (h.ends_selected session).bind fun _ _ hdb =>
      (hdb.ends_createTable schema).bind fun _ _ hnext =>
        .ok (h.alike_replacing hnext session clock _ _)
  | dropTable tableName =>
    refine (h.ends_selected session).bind fun db db' hdb => ?_
    refine (hdb.ends_requireTable tableName).bind fun table table' hfound => ?_
    obtain ⟨ht, -, -⟩ := hfound
    rw [ht.name_eq]
    exact (hdb.ends_dropTable table'.name).bind fun _ _ hnext =>
      .ok (h.alike_replacing hnext session clock _ _)
  | insert table columns values => exact h.ends_planInsert session clock table columns values
  | update table items filter => exact h.ends_planUpdate session clock table items filter
  | delete table filter => exact h.ends_planDelete session clock table filter
  | select query =>
    exact (h.ends_selected session).bind fun _ _ hdb => (Select.ends_run hdb query).bind fun _ _ hlisting =>
      .ok (h.alike_answerOnly session (.rows hlisting))
  | unknown description => exact .error (.refl _)

end Catalog.Matches

end RelStore
