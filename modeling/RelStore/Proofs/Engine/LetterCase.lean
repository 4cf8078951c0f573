/-
Statements in any letter case.

Names that differ in letter case are one name wherever a statement looks for a database, a table, a
column or an alias. So texts that differ in the letter case of keywords and names only leave the same
databases and the same session, and have the same answer but for the headings of aggregates without an
alias, or fail with the same code (`Catalog.Reached.execute_recased`). Statements that create are the
exception: a new object is called as it is written.
-/
import RelStore.Proofs.Engine.Refusals
import RelStore.Proofs.Query.Recased
import RelStore.Proofs.Sql.LetterCase

namespace RelStore

open Sql
open List (Forall₂)
open Text (sameName lowerLetters)

/-! ## Answers -/

namespace SameHeading

variable {a b c : String}

theorem symm (h : SameHeading a b) : SameHeading b a := by
  rcases h with rfl | ⟨call, call', ha, hb, hsame⟩
  · exact .inl rfl
  · exact .inr ⟨call', call, hb, ha, Text.sameName_comm a b ▸ hsame⟩

theorem trans (h : SameHeading a b) (h' : SameHeading b c) : SameHeading a c := by
  rcases h with rfl | ⟨call, call', ha, hb, hsame⟩
  · exact h'
  rcases h' with rfl | ⟨_, other, -, hc, hsame'⟩
  · exact .inr ⟨call, call', ha, hb, hsame⟩
  · exact .inr ⟨call, other, ha, hc, Text.sameName_trans hsame hsame'⟩

end SameHeading

theorem forall₂_trans {α : Type} {R : α → α → Prop} (hR : ∀ a b c, R a b → R b c → R a c)
    {as bs cs : List α} (h : Forall₂ R as bs) (h' : Forall₂ R bs cs) : Forall₂ R as cs := by
  induction h generalizing cs with
  | nil => exact h'
  | cons hab _ ih =>
    obtain ⟨c, cs, hbc, hrest, rfl⟩ := List.forall₂_cons_left_iff.1 h'
    exact .cons (hR _ _ _ hab hbc) (ih hrest)

namespace Listing.Recased

variable {a b c : Listing}

theorem refl (a : Listing) : a.Recased a := ⟨List.forall₂_same.2 fun _ _ => .inl rfl, rfl⟩

theorem symm (h : a.Recased b) : b.Recased a :=
  ⟨h.columns.flip.imp fun _ _ h => SameHeading.symm h, h.values.symm⟩

theorem trans (h : a.Recased b) (h' : b.Recased c) : a.Recased c :=
  ⟨forall₂_trans (R := SameHeading) (fun _ _ _ => .trans) h.columns h'.columns, h.values.trans h'.values⟩

end Listing.Recased

/-- The same answer, but for the headings of rows. -/
inductive Answer.Recased : Answer → Answer → Prop where
  | rows {listing other : Listing} (h : listing.Recased other) : Recased (.rows listing) (.rows other)
  | same (answer : Answer) : Recased answer answer

namespace Answer.Recased

variable {a b c : Answer}

theorem symm (h : a.Recased b) : b.Recased a := by
  cases h with
  | rows h => exact .rows h.symm
  | same => exact .same _

theorem trans (h : a.Recased b) (h' : b.Recased c) : a.Recased c := by
  cases h with
  | same => exact h'
  | rows h =>
    cases h' with
    | same => exact .rows h
    | rows h' => exact .rows (h.trans h')

end Answer.Recased

/-! ## Writes -/

theorem agree_bindAssignments (table : Table) (assigned : List String) (items : List Assignment) :
    Agree (bindAssignments table assigned items)
      (bindAssignments table assigned (items.map (Assignment.renamed lowerLetters))) := by
  induction items generalizing assigned with
  | nil => exact .refl _
  | cons item rest ih =>
    refine (table.agree_requireColumn item.column).use fun column => ?_
    exact .ite Iff.rfl (fun _ => .refl _) fun _ => (ih _).use fun _ => .refl _

theorem Table.agree_prepareInsert (table : Table) (values : List Value) (listed : Option (List String)) :
    Agree (table.prepareInsert values listed)
      (table.prepareInsert values (listed.map (List.map lowerLetters))) := by
  cases listed with
  | none => exact .refl _
  | some names => exact (Paired.each table.agree_requireColumn names).use fun _ => .refl _

theorem Database.agree_insertRow (db : Database) (name : String) (values : List Value)
    (listed : Option (List String)) : Agree (db.insertRow name values listed)
      (db.insertRow (lowerLetters name) values (listed.map (List.map lowerLetters))) :=
  (db.agree_requireTable name).use fun table =>
    (table.agree_prepareInsert values listed).use fun _ => .refl _

/-! ## Plans -/

/-- Statements that give a name to a new object. -/
def Sql.Statement.creates : Statement → Bool
  | .createDatabase _ | .createTable _ => true
  | _ => false

theorem Sql.Statement.creates_renamed (rename : String → String) (statement : Statement) :
    (statement.renamed rename).creates = statement.creates := by
  cases statement <;> rfl

/-- Plans of one change and one session, with the same answer. -/
structure Plan.Recased (plan other : Plan) : Prop where
  change : plan.change = other.change
  session : plan.session = other.session
  answer : plan.answer.Recased other.answer

namespace Plan.Recased

variable {a b c : Plan}

theorem symm (h : a.Recased b) : b.Recased a := ⟨h.change.symm, h.session.symm, h.answer.symm⟩

theorem trans (h : a.Recased b) (h' : b.Recased c) : a.Recased c :=
  ⟨h.change.trans h'.change, h.session.trans h'.session, h.answer.trans h'.answer⟩

end Plan.Recased

namespace Catalog

variable {catalog : Catalog} {statement other : Statement}

/-- **A statement has the same plan** under names in lower case. -/
theorem Built.paired_plan (h : catalog.Built) (session : Session) (clock : String)
    (hstated : statement.Stated) (hcreates : statement.creates = false) :
    Paired Cause.SameCode Plan.Recased (catalog.plan session clock statement)
      (catalog.plan session clock (statement.renamed lowerLetters)) := by
  have hsame {x y : Except Cause Plan} (h : Agree x y) : Paired Cause.SameCode Plan.Recased x y :=
    h.mono fun _ _ heq => heq ▸ ⟨rfl, rfl, .same _⟩
  cases statement with
  | createDatabase name => cases hcreates
  | createTable schema => cases hcreates
  | showDatabases => exact hsame (.refl _)
  | showTables => exact hsame (.refl _)
  | unknown description => exact hsame (.refl _)
  | dropDatabase name => exact hsame ((catalog.agree_requireDatabase name).use fun _ => .refl _)
  | useDatabase name => exact hsame ((catalog.agree_requireDatabase name).use fun _ => .refl _)
  | describe name =>
    exact hsame (Paired.use (.refl _) fun db => (db.agree_requireTable name).use fun _ => .refl _)
  | dropTable name =>
    exact hsame (Paired.use (.refl _) fun db => (db.agree_requireTable name).use fun _ => .refl _)
  | insert name columns values =>
    exact hsame (Paired.use (.refl _) fun db => (db.agree_insertRow name values columns).use fun _ => .refl _)
  | update name items filter =>
    refine hsame (Paired.use (.refl _) fun db => (db.agree_requireTable name).use fun table => ?_)
    refine (agree_bindAssignments table Record.memberNames items).use fun _ => ?_
    exact (table.agree_matching filter).use fun _ => .refl _
  | delete name filter =>
    refine hsame (Paired.use (.refl _) fun db => (db.agree_requireTable name).use fun table => ?_)
    exact (table.agree_matching filter).use fun _ => .refl _
  | select query =>
    refine ((Paired.refl (catalog.selected session)).and_ok (fun _ h => h) fun _ _ => trivial).bind ?_
    rintro db _ ⟨rfl, hdb, -⟩
    have hbuilt := h.databases db (mem_of_selected hdb)
    exact (Select.paired_run hbuilt hstated.worded).bind fun _ _ hlisting => .ok ⟨rfl, rfl, .rows hlisting⟩

theorem Built.paired_plans (h : catalog.Built) (session : Session) (clock : String)
    (hstated : statement.Stated) (hother : other.Stated) (hcreates : statement.creates = false)
    (hsame : statement.renamed lowerLetters = other.renamed lowerLetters) :
    Paired Cause.SameCode Plan.Recased (catalog.plan session clock statement)
      (catalog.plan session clock other) := by
  have hcreates' : other.creates = false := by
    rw [← other.creates_renamed lowerLetters, ← hsame, statement.creates_renamed, hcreates]
  have hfirst := h.paired_plan session clock hstated hcreates
  have hsecond := (h.paired_plan session clock hother hcreates').symm
  rw [hsame] at hfirst
  exact hfirst.trans hsecond fun _ _ _ hab hcb => hab.trans hcb.symm

end Catalog

/-! ## Texts -/

/-- Both succeed with the same answer but for headings, or both fail with one kind and code. -/
inductive Outcome.Recased : Outcome → Outcome → Prop where
  | ok {answer other : Answer} (h : answer.Recased other) : Recased (.ok answer) (.ok other)
  | error {failure other : Failure} (h : failure.cause.SameCode other.cause) :
    Recased (.error failure) (.error other)

/-- **Letter case of names does not matter**, but to statements that create: texts that differ in it
leave the same workspace, and have the same answer or fail with the same kind and code. -/
theorem Catalog.Reached.execute_recased {w : Workspace} (h : w.engine.catalog.Reached) {sql other : String}
    (hrecased : recased sql other = true)
    (hcreates : ∀ statement, parse sql = .ok statement → statement.creates = false) :
    (w.execute sql).1 = (w.execute other).1 ∧
      Outcome.Recased (w.execute sql).2 (w.execute other).2 := by
  have hparse := paired_parse hrecased
  rw [Workspace.execute, Workspace.execute]
  generalize hx : parse sql = x, hy : parse other = y at hparse
  cases hparse with
  | error hcause => exact ⟨rfl, .error hcause⟩
  | @ok statement statement' hsame =>
    have hplans := h.built.paired_plans w.session w.engine.disk.clock (stated_of_parse hx)
      (stated_of_parse hy) (hcreates _ hx) hsame
    simp only [Workspace.runAs, Workspace.run]
    generalize w.engine.catalog.plan _ _ statement = planned, w.engine.catalog.plan _ _ statement' = planned'
      at hplans
    cases hplans with
    | error hcause => exact ⟨rfl, .error hcause⟩
    | @ok plan plan' hplan =>
      obtain ⟨hchange, hsession, hanswer⟩ := hplan
      simp only [← hchange, ← hsession]
      obtain ⟨engine, _ | _⟩ := w.engine.apply plan.change
      · exact ⟨rfl, .error (.refl _)⟩
      · exact ⟨rfl, .ok hanswer⟩

/-- The letters of an alias are those of its definition, and the letters of a column those of its
table. An aggregate is shown as it is written. -/
theorem execute_recased_shop :
    let sql := "SELECT author, MAX(title), COUNT(*) AS n FROM books GROUP BY author ORDER BY MAX(TITLE) DESC, N"
    let other := "select Author, max(Title), count(*) as n from BOOKS group by AUTHOR order by max(title) desc, n"
    let w : Workspace := ⟨⟨⟨none, [⟨"shop", [authors, books]⟩]⟩, ⟨.root, [], "", []⟩⟩, ⟨some "shop"⟩⟩
    let rows (heading : String) : List Row :=
      [⟨[("author", .ofNat 7), (heading, .ofText "Emma"), ("n", .ofNat 1)]⟩,
        ⟨[("author", none), (heading, .ofText "Beowulf"), ("n", .ofNat 1)]⟩]
    w.engine.catalog.Reached ∧ recased sql other = true ∧
      (∀ statement, parse sql = .ok statement → statement.creates = false) ∧
      ((w.execute sql).1 = (w.execute other).1 ∧ Outcome.Recased (w.execute sql).2 (w.execute other).2) ∧
      (w.execute sql).2 = .ok (.rows ⟨["author", "MAX(title)", "n"], rows "MAX(title)"⟩) ∧
      (w.execute other).2 = .ok (.rows ⟨["author", "MAX(Title)", "n"], rows "MAX(Title)"⟩) := by
  intro sql other w rows
  have hrecased : recased sql other = true := by decide +kernel
  have hcreates : ∀ statement, parse sql = .ok statement → statement.creates = false := by
    have hnone : (parse sql).toOption.all (!·.creates) = true := by decide +kernel
    intro statement h
    rw [h] at hnone
    exact Bool.not_eq_true' _ ▸ hnone
  exact ⟨reached_shop, hrecased, hcreates, Catalog.Reached.execute_recased reached_shop hrecased hcreates,
    by decide +kernel, by decide +kernel⟩

end RelStore
