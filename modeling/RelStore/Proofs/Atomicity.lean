/-
What a statement that is refused leaves behind.

A catalog may be opened on the directory at any time, and what it then knows is compared with what
it would have known before the statement. A document that is not saved leaves nothing
(`ofStore_of_save_refused`). What is left comes from three places: a statement on tables has
changed what is known before it saves it, a new database whose name is not saved is there if its
document was listed already, and a database whose document is not removed is gone with its name.
`undone_iff` says that nothing else is left.
-/
import Mathlib.Data.List.Perm.Subperm
import RelStore.Proofs.Plan

namespace RelStore

open Sql
open Disk (Beside)

namespace Catalog

variable {catalog opened before after : Catalog} {store : Store} {disk changed mid : Disk}
  {path towards : Path} {content : Json} {cause : Cause} {clock name : String} {db : Database}
  {listed : List String}

/-! ## Documents that are not saved -/

/-- The file of names is there, or not on the way to a path. -/
def NamesApart (store : Store) (disk : Disk) (towards : Path) : Prop :=
  disk.node? store.catalogPath ≠ none ∨ store.catalogPath.leadsTo towards = false

theorem node?_catalogPath_of_beside {paths : List Path} (h : Beside towards paths disk changed)
    (hapart : NamesApart store disk towards) (hp : store.catalogPath ∉ paths) :
    changed.node? store.catalogPath = disk.node? store.catalogPath := by
  rcases h _ hp with hsame | ⟨hnone, -, hlead⟩
  · exact hsame
  · rcases hapart with hthere | hnot
    · exact absurd hnone hthere
    · rw [hnot] at hlead
      cases hlead

/-- **A document that is not saved leaves what is opened as it was.** -/
theorem ofStore_of_save_refused (hdoc : path.IsDocument)
    (h : disk.run (Store.writeSteps path content) = (changed, .error cause))
    (hapart : NamesApart store disk path.parent) : ofStore store changed = ofStore store disk := by
  have hbeside := Store.beside_of_run_writeSteps_error h
  have hnames := (Store.isDocument_catalogPath store).not_mem_drafts hdoc
  refine ofStore_congr (node?_catalogPath_of_beside hbeside hapart hnames) fun listed _ name _ => ?_
  exact hbeside.read? ((Store.isDocument_databasePath store name).not_mem_drafts hdoc)

/-- Where a database is known there is a file of names. -/
theorem node?_catalogPath_of_known (h : ofStore store disk = .ok opened)
    (hne : opened.databases ≠ []) : disk.node? store.catalogPath ≠ none := by
  intro hnone
  have hhas : disk.has store.catalogPath = false := by
    rw [Disk.has, hnone, Option.isSome_none, Bool.and_false]
  have hlisted : store.loadNames disk = .ok [] := by
    rw [Store.loadNames, hhas]
    rfl
  exact hne (List.eq_nil_of_length_eq_zero (Nat.le_zero.1 (length_of_ofStore h hlisted)))

/-! ## Making a database -/

/-- What is left when the document of a new database is saved and its name is not. -/
theorem files_of_name_refused (hcheck : checkName .database name = .ok ())
    (hsaved : disk.run (store.saveSteps (.empty name) clock) = (mid, .ok ()))
    (hrefused : mid.run (store.saveNamesSteps listed) = (changed, .error cause)) :
    changed.node? store.catalogPath = disk.node? store.catalogPath ∧
      (∀ other, store.databasePath other ≠ store.databasePath name →
        changed.read? (store.databasePath other) = disk.read? (store.databasePath other)) ∧
      (store.databasePath name).isPossible = true ∧
      changed.read? (store.databasePath name) =
        some ((Database.empty name).toDocument clock).toJson.pretty := by
  obtain ⟨hbeside, hpossible, hread⟩ := Store.run_writeSteps_ok hsaved
  have hbeside' := Store.beside_of_run_writeSteps_error hrefused
  have hnames := Store.isDocument_catalogPath store
  have hnew := Store.isDocument_databasePath store name
  refine ⟨?_, fun other hne => ?_, hpossible,
    (hbeside'.read? (hnew.not_mem_drafts hnames)).trans hread⟩
  · rw [hbeside'.node? (hnames.not_mem_drafts hnames) hnames.not_leadsTo_parent]
    exact hbeside.node? (hnames.not_mem_files hnew (Store.catalogPath_ne_databasePath hcheck))
      (Store.not_leadsTo_parent_databasePath hcheck)
  · have hdoc := Store.isDocument_databasePath store other
    exact (hbeside'.read? (hdoc.not_mem_drafts hnames)).trans (hbeside.read? (hdoc.not_mem_files hnew hne))

/-- Where no listed name leads to the new document, what is opened is as it was. -/
theorem ofStore_of_name_refused (hcheck : checkName .database name = .ok ())
    (hsaved : disk.run (store.saveSteps (.empty name) clock) = (mid, .ok ()))
    (hrefused : mid.run (store.saveNamesSteps listed) = (changed, .error cause))
    (hnew : ∀ listed, store.loadNames disk = .ok listed → ∀ other ∈ listed,
      store.databasePath other ≠ store.databasePath name) :
    ofStore store changed = ofStore store disk := by
  obtain ⟨hnames, hreads, -, -⟩ := files_of_name_refused hcheck hsaved hrefused
  exact ofStore_congr hnames fun listed hlisted other hother =>
    hreads other (hnew listed hlisted other hother)

/-- Where one does, the new database is there when the directory is opened. -/
theorem isSome_database?_of_name_refused {names : List String} {other : String}
    (hcheck : checkName .database name = .ok ())
    (hsaved : disk.run (store.saveSteps (.empty name) clock) = (mid, .ok ()))
    (hrefused : mid.run (store.saveNamesSteps listed) = (changed, .error cause))
    (hlisted : store.loadNames disk = .ok names) (hmem : other ∈ names)
    (hpath : store.databasePath other = store.databasePath name)
    (hopened : ofStore store changed = .ok opened) : (opened.database? name).isSome = true := by
  obtain ⟨hnames, -, hpossible, hread⟩ := files_of_name_refused hcheck hsaved hrefused
  rw [← Store.loadNames_congr hnames] at hlisted
  have hload : store.load changed other = .ok (.empty name) :=
    Store.load_of_read?_empty hcheck hpath hpossible hread
  have hknown := isSome_database?_of_ofStore hopened hlisted hmem hload
  rwa [Database.name_empty] at hknown

/-! ## Dropping a database -/

/-- When the names are saved, no more databases are opened than these. -/
theorem length_of_removal_refused
    (hsaved : disk.run (store.saveNamesSteps listed) = (mid, .ok ()))
    (hrefused : mid.run (store.deleteSteps name) = (changed, .error cause))
    (hopened : ofStore store changed = .ok opened) :
    opened.databases.length ≤ listed.length := by
  obtain ⟨-, hpossible, hread⟩ := Store.run_writeSteps_ok hsaved
  have hkept : changed.read? store.catalogPath = mid.read? store.catalogPath := by
    rcases Disk.run_cons_eq_error.1 hrefused with ⟨hno, rfl, -⟩ | ⟨-, h⟩
    · have hbeside := @Disk.beside_attempt_remove_refused mid (store.databasePath name) .root [] hno
      exact hbeside.read? List.not_mem_nil
    · cases h
  obtain ⟨names, hnames, -⟩ := ofStore_eq_ok.1 hopened
  rw [← Store.length_of_loadNames hpossible (hkept.trans hread) hnames]
  exact length_of_ofStore hopened hnames

/-- What knows all databases of a catalog knows as many. -/
theorem Alike.length_le (h : before.Alike catalog)
    (hnames : DistinctNames (·.name) catalog.databases) :
    catalog.databases.length ≤ before.databases.length := by
  have hsub : catalog.databases.map (fun db => Text.lower db.name) ⊆
      before.databases.map (fun db => Text.lower db.name) := by
    intro lowered hmem
    obtain ⟨db, hdb, rfl⟩ := List.mem_map.1 hmem
    have hknown : (catalog.database? db.name).isSome = true :=
      isSome_database?_iff.2 ⟨db, hdb, Text.sameName_refl _⟩
    rw [← h.isSome_eq] at hknown
    obtain ⟨found, hfound, hsame⟩ := isSome_database?_iff.1 hknown
    exact List.mem_map.2 ⟨found, hfound, sameName_iff.1 hsame⟩
  have hlength := (List.Nodup.subperm hnames hsub).length_le
  rwa [List.length_map, List.length_map] at hlength

/-! ## What is opened afterwards -/

/-- A catalog that is opened on the disk as it is changed knows what it would have known before. -/
def OpensAlike (store : Store) (disk changed : Disk) : Prop :=
  ∃ before after, ofStore store disk = .ok before ∧ ofStore store changed = .ok after ∧
    after.Alike before

theorem opensAlike_of_eq (hopened : ofStore store disk = .ok opened)
    (h : ofStore store changed = ofStore store disk) : OpensAlike store disk changed :=
  ⟨opened, opened, hopened, h.trans hopened, Alike.refl opened⟩

theorem opensAlike_createDatabase_iff (hopened : ofStore store disk = .ok opened)
    (hcheck : checkName .database name = .ok ()) (hnone : opened.database? name = none)
    (hrefused : disk.run (store.saveSteps (.empty name) clock ++ store.saveNamesSteps listed) =
      (changed, .error cause)) :
    OpensAlike store disk changed ↔
      ((disk.run (store.saveSteps (.empty name) clock)).2 = .ok () →
        ∀ names, store.loadNames disk = .ok names → ∀ other ∈ names,
          store.databasePath other ≠ store.databasePath name) := by
  have hnames : NamesApart store disk (store.databasePath name).parent :=
    .inr (Store.not_leadsTo_parent_databasePath hcheck)
  rcases Disk.run_append_eq_error.1 hrefused with hfirst | ⟨mid, hsaved, hrefused⟩
  · have hsame := ofStore_of_save_refused (Store.isDocument_databasePath store name) hfirst hnames
    rw [hfirst]
    exact iff_of_true (opensAlike_of_eq hopened hsame) nofun
  · rw [hsaved]
    constructor
    · intro ⟨before, after, hbefore, hafter, halike⟩ _ names hlisted other hmem hpath
      obtain rfl := Except.ok.inj (hopened.symm.trans hbefore)
      have hknown :=
        isSome_database?_of_name_refused hcheck hsaved hrefused hlisted hmem hpath hafter
      rw [halike.isSome_eq, hnone] at hknown
      cases hknown
    · intro hnew
      exact opensAlike_of_eq hopened (ofStore_of_name_refused hcheck hsaved hrefused (hnew rfl))

theorem opensAlike_dropDatabase_iff (hopened : ofStore store disk = .ok opened)
    (halike : opened.Alike catalog) (hnames : DistinctNames (·.name) catalog.databases)
    (hfewer : listed.length < catalog.databases.length)
    (hrefused : disk.run (store.saveNamesSteps listed ++ store.deleteSteps name) =
      (changed, .error cause)) :
    OpensAlike store disk changed ↔ (disk.run (store.saveNamesSteps listed)).2 ≠ .ok () := by
  rcases Disk.run_append_eq_error.1 hrefused with hfirst | ⟨mid, hsaved, hrefused⟩
  · have hsame := ofStore_of_save_refused (Store.isDocument_catalogPath store) hfirst
      (.inr (Store.isDocument_catalogPath store).not_leadsTo_parent)
    rw [hfirst]
    exact iff_of_true (opensAlike_of_eq hopened hsame) nofun
  · rw [hsaved]
    refine iff_of_false ?_ (fun h => h rfl)
    intro ⟨before, after, hbefore, hafter, hafterAlike⟩
    obtain rfl := Except.ok.inj (hopened.symm.trans hbefore)
    have hall := Alike.length_le (fun name => (hafterAlike name).trans (halike name)) hnames
    have hlisted := length_of_removal_refused hsaved hrefused hafter
    omega

theorem opensAlike_of_save_refused (hopened : ofStore store disk = .ok opened)
    (hknown : opened.databases ≠ [])
    (hrefused : disk.run (store.saveSteps db clock) = (changed, .error cause)) :
    OpensAlike store disk changed :=
  opensAlike_of_eq hopened (ofStore_of_save_refused (Store.isDocument_databasePath store db.name)
    hrefused (.inl (node?_catalogPath_of_known hopened hknown)))

end Catalog

/-! ## Statements -/

namespace Workspace

variable {w after : Workspace} {store : Store} {statement : Statement} {cause : Cause} {plan : Plan}
  {changed : Disk}

/-- The directory agrees with what is known: databases are saved in it, their names differ, and a
catalog that is opened on it knows the same. -/
structure Agrees (w : Workspace) (store : Store) : Prop where
  saved : w.engine.catalog.store = some store
  names : DistinctNames (·.name) w.engine.catalog.databases
  opened : ∃ opened, Catalog.ofStore store w.engine.disk = .ok opened ∧
    opened.Alike w.engine.catalog

/-- Nothing is left of a statement: what is known is what was known, and so it is when the
directory is opened. -/
def Undone (w : Workspace) (store : Store) (after : Workspace) : Prop :=
  after.engine.catalog = w.engine.catalog ∧
    Catalog.OpensAlike store w.engine.disk after.engine.disk

/-- Whether nothing is left of a statement when a step of its plan is refused. -/
def LeavesNothing (w : Workspace) (store : Store) (plan : Plan) : Statement → Prop
  | .createDatabase name =>
    -- the document is not saved, or no name that is listed leads to it
    (w.engine.disk.run (store.saveSteps (.empty name) w.engine.disk.clock)).2 = .ok () →
      ∀ names, store.loadNames w.engine.disk = .ok names → ∀ other ∈ names,
        store.databasePath other ≠ store.databasePath name
  | .dropDatabase name => ∀ db, w.engine.catalog.database? name = some db →
      (w.engine.disk.run (store.saveNamesSteps
        (w.engine.catalog.names.filter (· != db.name)))).2 ≠ .ok ()
  | .createTable _ | .dropTable _ | .insert .. => False
  | .update .. | .delete .. => plan.change.done = w.engine.catalog
  | _ => True

theorem run_of_planned
    (h : w.engine.catalog.plan w.session w.engine.disk.clock statement = .ok plan) :
    w.run statement = (after, .error cause) ↔ ∃ changed,
      w.engine.disk.run plan.change.steps = (changed, .error cause) ∧
        after = ⟨⟨plan.change.refused, changed⟩, w.session⟩ := by
  rw [run, h]
  simp only [Engine.apply, Change.apply]
  rcases w.engine.disk.run plan.change.steps with ⟨changed, ⟨⟩ | other⟩
  · simp only [Prod.mk.injEq, Except.error.injEq]
    constructor
    · intro ⟨hafter, hcause⟩
      exact ⟨changed, ⟨rfl, hcause⟩, hafter.symm⟩
    · intro ⟨_, ⟨rfl, hcause⟩, hafter⟩
      exact ⟨hafter.symm, hcause⟩
  · simp

/-- What a refused statement on tables leaves is what it has changed before it is saved. -/
theorem undone_of_replaces (hagrees : w.Agrees store)
    (hplan : w.engine.catalog.Replaces w.engine.disk.clock plan.change)
    (hrefused : w.engine.disk.run plan.change.steps = (changed, .error cause)) :
    w.Undone store ⟨⟨plan.change.refused, changed⟩, w.session⟩ ↔
      plan.change.done = w.engine.catalog := by
  obtain ⟨opened, hopened, halike⟩ := hagrees.opened
  obtain ⟨db, hdb, next, -, hchange⟩ := hplan
  have hknown : opened.databases ≠ [] := by
    have hfound : (w.engine.catalog.database? db.name).isSome = true :=
      Catalog.isSome_database?_iff.2 ⟨db, hdb, Text.sameName_refl _⟩
    rw [← halike.isSome_eq] at hfound
    obtain ⟨other, hother, -⟩ := Catalog.isSome_database?_iff.1 hfound
    exact List.ne_nil_of_mem hother
  have hsteps : plan.change.steps = store.saveSteps next w.engine.disk.clock := by
    rw [hchange, Catalog.replaceDatabase, Catalog.saveSteps, Catalog.store_setDatabase,
      hagrees.saved]
  rw [hsteps] at hrefused
  have hleft : plan.change.refused = plan.change.done := by
    rw [hchange]
    rfl
  rw [Undone, hleft]
  exact and_iff_left (Catalog.opensAlike_of_save_refused hopened hknown hrefused)

/-- **A statement that fails leaves nothing**, neither in what is known nor in the directory,
exactly if it was not planned or its plan leaves nothing when it is refused. -/
theorem undone_iff (hagrees : w.Agrees store) (hrun : w.run statement = (after, .error cause)) :
    w.Undone store after ↔ ∀ plan,
      w.engine.catalog.plan w.session w.engine.disk.clock statement = .ok plan →
        w.LeavesNothing store plan statement := by
  obtain ⟨opened, hopened, halike⟩ := hagrees.opened
  cases hplan : w.engine.catalog.plan w.session w.engine.disk.clock statement with
  | error other =>
    have hsame : after = w := by
      rw [run, hplan] at hrun
      exact (congrArg Prod.fst hrun).symm
    rw [hsame]
    exact iff_of_true ⟨rfl, Catalog.opensAlike_of_eq hopened rfl⟩ nofun
  | ok plan =>
    obtain ⟨changed, hrefused, rfl⟩ := (run_of_planned hplan).1 hrun
    have hplanned := Catalog.plannedBy_of_plan hplan
    simp only [Except.ok.injEq, forall_eq']
    cases statement with
    | createDatabase name =>
      obtain ⟨hcheck, hnone, hchange⟩ := Catalog.createDatabase_eq_ok.1 hplanned
      have hnew : opened.database? name = none := by
        rw [← Option.not_isSome_iff_eq_none, halike.isSome_eq, hnone]
        exact Bool.false_ne_true
      simp only [hchange, Catalog.saveSteps, Catalog.saveNamesSteps, hagrees.saved] at hrefused
      have hiff := Catalog.opensAlike_createDatabase_iff hopened hcheck hnew hrefused
      rw [hchange]
      exact (and_iff_right rfl).trans hiff
    | dropDatabase name =>
      obtain ⟨db, hdb, hchange⟩ := hplanned
      have hfewer : (w.engine.catalog.names.filter (· != db.name)).length <
          w.engine.catalog.databases.length := by
        rw [← Catalog.length_names, List.length_filter_lt_length_iff_exists]
        exact ⟨db.name, Catalog.name_mem_names (List.mem_of_find?_eq_some hdb), by simp⟩
      simp only [hchange, Catalog.saveNamesSteps, Catalog.deleteSteps, hagrees.saved] at hrefused
      have hiff := Catalog.opensAlike_dropDatabase_iff hopened halike hagrees.names hfewer hrefused
      rw [hchange]
      refine ((and_iff_right rfl).trans hiff).trans ?_
      simp only [LeavesNothing, hdb, Option.some.injEq, forall_eq']
    | createTable _ | dropTable _ | insert _ _ _ =>
      refine (undone_of_replaces hagrees hplanned.1 hrefused).trans ?_
      exact iff_of_false hplanned.2 id
    | update _ _ _ | delete _ _ => exact undone_of_replaces hagrees hplanned hrefused
    | _ =>
      have hnone : plan.change = w.engine.catalog.unchanged := hplanned
      rw [hnone] at hrefused
      cases hrefused

/-! ## A library -/

/-- A directory that is not made yet, on a disk with outages to come. -/
def blank (outages : List Outage) : Workspace where
  engine := ⟨⟨some ⟨Path.root.child "data"⟩, []⟩, ⟨.root, [], "", outages⟩⟩
  session := {}

/-- A database whose document is saved, and whose name is not, in a directory that lists none. -/
theorem undone_iff_blank :
    let w := blank [.none, .none, .none, .refused]
    let after := (w.run (.createDatabase "library")).1
    w.Agrees ⟨Path.root.child "data"⟩ ∧
      w.run (.createDatabase "library") = (after, .error (.unwritable "/data/catalog.json")) ∧
      w.Undone ⟨Path.root.child "data"⟩ after := by
  intro w after
  have hopened : Catalog.ofStore ⟨Path.root.child "data"⟩ w.engine.disk = .ok w.engine.catalog := by
    decide +kernel
  have hagrees : w.Agrees ⟨Path.root.child "data"⟩ :=
    ⟨rfl, List.nodup_nil, w.engine.catalog, hopened, Catalog.Alike.refl _⟩
  have hrun : w.run (.createDatabase "library") =
      (after, .error (.unwritable "/data/catalog.json")) :=
    Prod.ext rfl (by decide +kernel)
  refine ⟨hagrees, hrun, (undone_iff hagrees hrun).2 fun plan _ _ names hnames other hmem => ?_⟩
  have hnone : Store.loadNames ⟨Path.root.child "data"⟩ w.engine.disk = .ok [] := by decide +kernel
  obtain rfl := Except.ok.inj (hnone.symm.trans hnames)
  exact absurd hmem List.not_mem_nil

/-- A library that is saved, before its document can no more be written. -/
def library : Workspace :=
  ((blank [.none, .none, .none, .none, .none, .none, .none, .refused]).runAll
    [.createDatabase "library", .useDatabase "library"]).1

def books : Schema := ⟨"books", [⟨"title", .string, true, false, none⟩]⟩

/-- The table is there although it could not be saved. -/
theorem not_undone_books :
    library.Agrees ⟨Path.root.child "data"⟩ ∧
      (library.run (.createTable books)).2 = .error (.unwritable "/data/databases/library.json") ∧
      ¬ library.Undone ⟨Path.root.child "data"⟩ (library.run (.createTable books)).1 := by
  have hopened : Catalog.ofStore ⟨Path.root.child "data"⟩ library.engine.disk =
      .ok library.engine.catalog := by
    decide +kernel
  have hnames : (library.engine.catalog.databases.map fun db => Text.lower db.name).Nodup := by
    decide +kernel
  have hchanged : (library.run (.createTable books)).1.engine.catalog ≠ library.engine.catalog := by
    decide +kernel
  exact ⟨⟨by decide +kernel, hnames, _, hopened, Catalog.Alike.refl _⟩, by decide +kernel,
    fun hundone => hchanged hundone.1⟩

end Workspace

end RelStore
