/-
Databases that could not be loaded.

A listed database whose document does not load is left out of the catalog, and then is known by its
document and by its name in the list only (`Store.Skips`). What is saved for a database that is
known keeps both. But the names that are saved are those that are known: to create or to drop any
database takes the name of one that was left out off the list, and to create one of its name
replaces its document. Nothing else does (`Catalog.keeps_apply_iff`).
-/
import RelStore.Proofs.Catalog.Mirror
import RelStore.Proofs.Document.Named
import RelStore.Proofs.Plan

namespace RelStore

open Sql
open Disk (Beside)

namespace Store

variable {store : Store} {disk changed : Disk} {name text other clock : String} {listed : List String}
  {db : Database} {towards : Path} {paths : List Path}

/-- The document of a database is as it was, and its name is listed. -/
def Keeps (store : Store) (name text : String) (disk : Disk) : Prop :=
  disk.read? (store.databasePath name) = some text ∧
    ∃ listed, store.loadNames disk = .ok listed ∧ name ∈ listed

/-- A database is listed and has a document that does not load. The listed databases that load are
saved under their own names, and these are names that a new database can have. -/
structure Skips (store : Store) (name text : String) (listed : List String) (disk : Disk) : Prop where
  names : store.loadNames disk = .ok listed
  mem : name ∈ listed
  text : disk.read? (store.databasePath name) = some text
  fails : ∃ cause, store.load disk name = .error cause
  own : ∀ other ∈ listed, ∀ db, store.load disk other = .ok db →
    checkName .database db.name = .ok () ∧ store.databasePath db.name = store.databasePath other

namespace Skips

theorem keeps (h : store.Skips name text listed disk) : store.Keeps name text disk :=
  ⟨h.text, listed, h.names, h.mem⟩

/-- A document of the same text does not load. -/
theorem not_load (h : store.Skips name text listed disk) (hkept : store.Keeps name text changed) :
    store.load changed name ≠ .ok db := by
  obtain ⟨cause, hfails⟩ := h.fails
  rw [load_congr (hkept.1.trans h.text.symm), hfails]
  exact nofun

theorem names_congr (h : store.Skips name text listed disk) (hbeside : Beside towards paths disk changed)
    (hpaths : store.catalogPath ∉ paths) : store.loadNames changed = store.loadNames disk := by
  refine loadNames_congr ?_
  rcases hbeside _ hpaths with hsame | ⟨hnone, -, -⟩
  · exact hsame
  · -- there is a file of names, as a name is listed
    have hnames := h.names
    rw [loadNames, Disk.has, hnone, Option.isSome_none, Bool.and_false] at hnames
    obtain rfl := Except.ok.inj hnames
    cases h.mem

theorem of_reads (h : store.Skips name text listed disk)
    (hnames : store.loadNames changed = store.loadNames disk)
    (hreads : ∀ other, changed.read? (store.databasePath other) = disk.read? (store.databasePath other)) :
    store.Skips name text listed changed where
  names := hnames.trans h.names
  mem := h.mem
  text := (hreads name).trans h.text
  fails := by
    rw [load_congr (hreads name)]
    exact h.fails
  own other hother db hload := by
    rw [load_congr (hreads other)] at hload
    exact h.own other hother db hload

/-- A document that is not saved leaves the databases as they are. -/
theorem of_refused (h : store.Skips name text listed disk) {path : Path} {content : Json} {cause : Cause}
    (hpath : path.IsDocument) (hrun : disk.run (writeSteps path content) = (changed, .error cause)) :
    store.Skips name text listed changed := by
  have hbeside := beside_of_run_writeSteps_error hrun
  refine h.of_reads (h.names_congr hbeside ?_) fun other => hbeside.read? ?_
  · exact (isDocument_catalogPath store).not_mem_drafts hpath
  · exact (isDocument_databasePath store other).not_mem_drafts hpath

/-- A database that is saved elsewhere leaves the one that does not load as it is. -/
theorem of_saved (h : store.Skips name text listed disk) (hcheck : checkName .database db.name = .ok ())
    (hne : store.databasePath db.name ≠ store.databasePath name)
    (hrun : disk.run (store.saveSteps db clock) = (changed, .ok ())) :
    store.Skips name text listed changed := by
  obtain ⟨hbeside, -, hsaved⟩ := run_writeSteps_ok hrun
  have hdoc := isDocument_databasePath store db.name
  have hread {other : String} (hother : store.databasePath other ≠ store.databasePath db.name) :
      changed.read? (store.databasePath other) = disk.read? (store.databasePath other) :=
    hbeside.read? ((isDocument_databasePath store other).not_mem_files hdoc hother)
  refine ⟨?_, h.mem, (hread hne.symm).trans h.text, ?_, fun other hother next hload => ?_⟩
  · refine (h.names_congr hbeside ?_).trans h.names
    exact (isDocument_catalogPath store).not_mem_files hdoc (catalogPath_ne_databasePath hcheck)
  · rw [load_congr (hread hne.symm)]
    exact h.fails
  · by_cases hpath : store.databasePath other = store.databasePath db.name
    · have hname : next.name = db.name := by
        rw [← hpath] at hsaved
        exact (name_of_load_saved hsaved hload).trans (isName_of_checkName hcheck).joined
      exact ⟨hname ▸ hcheck, hname ▸ hpath.symm⟩
    · rw [load_congr (hread hpath)] at hload
      exact h.own other hother next hload

end Skips

/-- The names that are saved are all that are listed. -/
theorem not_keeps_of_saved_names {names : List String} (hnames : ∀ other ∈ names, IsName other)
    (hpossible : store.catalogPath.isPossible = true)
    (hread : disk.read? store.catalogPath = some (namesJson names).pretty) (hname : name ∉ names) :
    ¬ store.Keeps name text disk := by
  rintro ⟨-, listed, hlisted, hmem⟩
  rw [loadNames_of_read? hnames hpossible hread] at hlisted
  obtain rfl := Except.ok.inj hlisted
  exact hname hmem

end Store

theorem Change.apply_disk (change : Change) (disk : Disk) :
    (change.apply disk).1 = (disk.run change.steps).1 := by
  rw [apply]
  rcases disk.run change.steps with ⟨changed, cause | ⟨⟩⟩ <;> rfl

namespace Catalog

open Store

variable {catalog opened : Catalog} {store : Store} {disk saved changed : Disk}
  {name text other clock : String} {listed : List String} {db next : Database} {change : Change}

/-- The databases that are known are saved elsewhere than one that is not. -/
structure Ignores (catalog : Catalog) (store : Store) (name : String) : Prop where
  home : catalog.store = some store
  named : ∀ db ∈ catalog.databases, checkName .database db.name = .ok ()
  elsewhere : ∀ db ∈ catalog.databases, store.databasePath db.name ≠ store.databasePath name

theorem Ignores.setDatabase (h : catalog.Ignores store name) (hdb : db ∈ catalog.databases)
    (hname : next.name = db.name) : (catalog.setDatabase next).Ignores store name where
  home := (store_setDatabase catalog next).trans h.home
  named other hother := by
    rcases mem_setDatabase.1 hother with rfl | ⟨hin, -⟩
    · exact hname ▸ h.named db hdb
    · exact h.named other hin
  elsewhere other hother := by
    rcases mem_setDatabase.1 hother with rfl | ⟨hin, -⟩
    · exact hname ▸ h.elsewhere db hdb
    · exact h.elsewhere other hin

theorem Ignores.isName (h : catalog.Ignores store name) : ∀ other ∈ catalog.names, IsName other := by
  intro other hother
  obtain ⟨db, hdb, rfl⟩ := mem_names.1 hother
  exact isName_of_checkName (h.named db hdb)

theorem Ignores.not_mem_names (h : catalog.Ignores store name) : name ∉ catalog.names := by
  intro hmem
  obtain ⟨db, hdb, rfl⟩ := mem_names.1 hmem
  exact h.elsewhere db hdb rfl

/-- A catalog that is opened leaves out what does not load. -/
theorem ignores_of_ofStore (h : store.Skips name text listed disk)
    (hopened : ofStore store disk = .ok opened) : opened.Ignores store name := by
  have hloaded : ∀ db ∈ opened.databases, ∃ other ∈ listed, store.load disk other = .ok db := by
    obtain ⟨names, hnames, rfl⟩ := ofStore_eq_ok.1 hopened
    obtain rfl := Except.ok.inj (hnames.symm.trans h.names)
    have hopening : Opening store disk names
        (names.foldl (loadListed store disk) ⟨some store, []⟩) :=
      foldl_keeps ⟨List.nodup_nil, nofun⟩ fun _ hs _ hname => hs.loadListed hname
    exact hopening.loaded
  refine ⟨(home_of_ofStore hopened).1, fun db hdb => ?_, fun db hdb hpath => ?_⟩
  · obtain ⟨other, hother, hload⟩ := hloaded db hdb
    exact (h.own other hother db hload).1
  · obtain ⟨other, hother, hload⟩ := hloaded db hdb
    have hplace := (h.own other hother db hload).2.symm.trans hpath
    exact h.not_load h.keeps (load_of_path_eq hplace hload)

/-! ## Changes -/

/-- Carrying out a change of a catalog loses a database that it does not know. -/
inductive Loses (catalog : Catalog) (store : Store) (name clock : String) (disk : Disk)
    (change : Change) : Prop where
  /-- A new database is saved in its place. -/
  | replaced {other : String} (h : catalog.createDatabase other clock = .ok change)
    (hplace : store.databasePath other = store.databasePath name)
    (hsaved : (disk.run (store.saveSteps (.empty other) clock)).2 = .ok ())
  /-- The names of a new database and of those that are known are saved. -/
  | created {other : String} (h : catalog.createDatabase other clock = .ok change)
    (hsaved : (disk.run change.steps).2 = .ok ())
  /-- The names of the databases that are known are saved, without that of one that is dropped. -/
  | dropped {other : String} {db : Database} (h : catalog.dropDatabase other = .ok change)
    (hdb : catalog.database? other = some db)
    (hsaved : (disk.run (store.saveNamesSteps (catalog.names.filter (· != db.name)))).2 = .ok ())

theorem Ignores.createDatabase_eq_ok (h : catalog.Ignores store name) :
    catalog.createDatabase other clock = .ok change ↔
      checkName .database other = .ok () ∧ catalog.database? other = none ∧
        change = ⟨store.saveSteps (.empty other) clock ++
          store.saveNamesSteps (sortNames (catalog.names ++ [other])),
          catalog.setDatabase (.empty other), catalog⟩ := by
  rw [Catalog.createDatabase_eq_ok]
  simp only [saveSteps, saveNamesSteps, h.home]

theorem Ignores.dropDatabase_eq_ok (h : catalog.Ignores store name) :
    catalog.dropDatabase other = .ok change ↔ ∃ db, catalog.database? other = some db ∧
      change = ⟨store.saveNamesSteps (catalog.names.filter (· != db.name)) ++
        store.deleteSteps db.name, catalog.eraseDatabase other, catalog⟩ := by
  rw [Catalog.dropDatabase_eq_ok]
  simp only [saveNamesSteps, deleteSteps, h.home]

/-- A new database is what is loaded from its document, whether or not its name is listed. -/
theorem not_keeps_of_replaced (hskips : store.Skips name text listed disk)
    (hcheck : checkName .database other = .ok ())
    (hplace : store.databasePath other = store.databasePath name)
    (hsaved : disk.run (store.saveSteps (.empty other) clock) = (saved, .ok ()))
    (names : List String) :
    ¬ store.Keeps name text (disk.run
      (store.saveSteps (.empty other) clock ++ store.saveNamesSteps names)).1 := by
  rw [Disk.run_append_of_ok hsaved]
  obtain ⟨-, hpossible, hread⟩ := run_writeSteps_ok hsaved
  have hbeside := beside_run_writeSteps saved store.catalogPath (namesJson names)
  have hdoc := (isDocument_databasePath store other).not_mem_files (isDocument_catalogPath store)
    (catalogPath_ne_databasePath hcheck).symm
  intro hkeeps
  exact hskips.not_load hkeeps
    (load_of_read?_empty hcheck hplace.symm hpossible ((hbeside.read? hdoc).trans hread))

/-- A change that loses a database leaves another document in its place, or names without its own. -/
theorem Loses.not_keeps (h : catalog.Loses store name clock disk change)
    (hskips : store.Skips name text listed disk) (hignores : catalog.Ignores store name) :
    ¬ store.Keeps name text (change.apply disk).1 := by
  rw [Change.apply_disk]
  cases h with
  | @replaced other hcreate hplace hsaved =>
    obtain ⟨hcheck, -, rfl⟩ := hignores.createDatabase_eq_ok.1 hcreate
    exact not_keeps_of_replaced hskips hcheck hplace (Prod.ext rfl hsaved) _
  | @created other hcreate hsaved =>
    obtain ⟨hcheck, -, rfl⟩ := hignores.createDatabase_eq_ok.1 hcreate
    obtain ⟨mid, hfirst, hsecond⟩ := Disk.run_append_eq_ok.1 (Prod.ext rfl hsaved)
    by_cases hname : name = other
    · exact not_keeps_of_replaced hskips hcheck (hname ▸ rfl) hfirst _
    · have hmem {listed : String} : listed ∈ sortNames (catalog.names ++ [other]) ↔
          listed ∈ catalog.names ∨ listed = other := by
        rw [sortNames, List.mem_mergeSort, List.mem_append, List.mem_singleton]
      obtain ⟨-, hpossible, hread⟩ := run_writeSteps_ok hsecond
      refine not_keeps_of_saved_names (fun listed hlisted => ?_) hpossible hread fun hlisted => ?_
      · rcases hmem.1 hlisted with hknown | rfl
        · exact hignores.isName listed hknown
        · exact isName_of_checkName hcheck
      · exact (hmem.1 hlisted).elim hignores.not_mem_names hname
  | @dropped other db hdrop hdb hsaved =>
    obtain ⟨found, hfound, rfl⟩ := hignores.dropDatabase_eq_ok.1 hdrop
    obtain rfl := Option.some.inj (hfound.symm.trans hdb)
    have hlisted {name : String} (h : name ∈ catalog.names.filter (· != found.name)) :
        name ∈ catalog.names := (List.mem_filter.1 h).1
    rcases hrun : disk.run (store.saveNamesSteps (catalog.names.filter (· != found.name))) with
      ⟨saved, result⟩
    rw [hrun] at hsaved
    obtain rfl : result = .ok () := hsaved
    rw [Disk.run_append_of_ok hrun]
    obtain ⟨-, hpossible, hread⟩ := run_writeSteps_ok hrun
    -- the document that is removed is not that of the names
    have hcheck := hignores.named found (List.mem_of_find?_eq_some hfound)
    have hbeside := saved.beside_run_remove (store.databasePath found.name) .root
      (.undeletable (store.databasePath found.name).text found.name)
    have hkept := hbeside.read? fun hmem =>
      catalogPath_ne_databasePath hcheck (List.mem_singleton.1 hmem)
    exact not_keeps_of_saved_names (fun name hname => hignores.isName name (hlisted hname))
      hpossible (hkept.trans hread) fun hname => hignores.not_mem_names (hlisted hname)

/-- A database that is saved in a new state leaves one that does not load as it is. -/
theorem skips_of_replaces (hskips : store.Skips name text listed disk)
    (hignores : catalog.Ignores store name) (h : catalog.Replaces clock change) :
    store.Skips name text listed (change.apply disk).1 ∧
      (change.apply disk).2.1.Ignores store name := by
  obtain ⟨db, hdb, next, hname, rfl⟩ := h
  have hsteps : (catalog.replaceDatabase next clock).steps = store.saveSteps next clock := by
    rw [replaceDatabase, saveSteps, store_setDatabase, hignores.home]
  have hafter := hignores.setDatabase hdb hname
  rw [Change.apply, hsteps]
  rcases hrun : disk.run (store.saveSteps next clock) with ⟨changed, cause | ⟨⟩⟩
  · exact ⟨hskips.of_refused (isDocument_databasePath store next.name) hrun, hafter⟩
  · refine ⟨hskips.of_saved ?_ ?_ hrun, hafter⟩
    · exact hname ▸ hignores.named db hdb
    · exact hname ▸ hignores.elsewhere db hdb

/-- A new database that does not come to be listed, and is saved elsewhere if it is saved. -/
theorem skips_of_createDatabase (hskips : store.Skips name text listed disk)
    (hignores : catalog.Ignores store name) (h : catalog.createDatabase other clock = .ok change)
    (hnot : ¬ catalog.Loses store name clock disk change) :
    store.Skips name text listed (change.apply disk).1 ∧
      (change.apply disk).2.1.Ignores store name := by
  obtain ⟨hcheck, -, hchange⟩ := hignores.createDatabase_eq_ok.1 h
  rw [Change.apply, hchange]
  rcases hrun : disk.run (store.saveSteps (.empty other) clock ++
    store.saveNamesSteps (sortNames (catalog.names ++ [other]))) with ⟨changed, cause | ⟨⟩⟩
  · refine ⟨?_, hignores⟩
    rcases Disk.run_append_eq_error.1 hrun with hfirst | ⟨mid, hfirst, hsecond⟩
    · exact hskips.of_refused (isDocument_databasePath store other) hfirst
    · have hplace : store.databasePath other ≠ store.databasePath name := fun hplace =>
        hnot (.replaced h hplace (congrArg Prod.snd hfirst))
      have hsaved : store.Skips name text listed mid := by
        refine hskips.of_saved ?_ ?_ hfirst
        · exact hcheck
        · exact hplace
      exact hsaved.of_refused (isDocument_catalogPath store) hsecond
  · have hsaved : (disk.run change.steps).2 = .ok () := by rw [hchange, hrun]
    exact absurd (.created h hsaved) hnot

/-- A database that is not dropped stays listed with the one that is not known. -/
theorem skips_of_dropDatabase (hskips : store.Skips name text listed disk)
    (hignores : catalog.Ignores store name) (h : catalog.dropDatabase other = .ok change)
    (hnot : ¬ catalog.Loses store name clock disk change) :
    store.Skips name text listed (change.apply disk).1 ∧
      (change.apply disk).2.1.Ignores store name := by
  have hloses := h
  obtain ⟨db, hdb, rfl⟩ := hignores.dropDatabase_eq_ok.1 h
  have hunsaved : (disk.run (store.saveNamesSteps (catalog.names.filter (· != db.name)))).2 ≠
    .ok () := fun hsaved => hnot (.dropped hloses hdb hsaved)
  rw [Change.apply]
  rcases hrun : disk.run (store.saveNamesSteps (catalog.names.filter (· != db.name)) ++
    store.deleteSteps db.name) with ⟨changed, cause | ⟨⟩⟩
  · refine ⟨?_, hignores⟩
    rcases Disk.run_append_eq_error.1 hrun with hfirst | ⟨mid, hfirst, -⟩
    · exact hskips.of_refused (isDocument_catalogPath store) hfirst
    · exact absurd (congrArg Prod.snd hfirst) hunsaved
  · obtain ⟨mid, hfirst, -⟩ := Disk.run_append_eq_ok.1 hrun
    exact absurd (congrArg Prod.snd hfirst) hunsaved

theorem skips_of_planned (hskips : store.Skips name text listed disk)
    (hignores : catalog.Ignores store name) {statement : Sql.Statement}
    (h : catalog.PlannedBy clock change statement)
    (hnot : ¬ catalog.Loses store name clock disk change) :
    store.Skips name text listed (change.apply disk).1 ∧
      (change.apply disk).2.1.Ignores store name := by
  cases statement with
  | createDatabase other => exact skips_of_createDatabase hskips hignores h hnot
  | dropDatabase other =>
    obtain ⟨db, hdb, hchange⟩ := h
    have hsame : Text.sameName db.name other = true := by simpa using List.find?_some hdb
    have hdrop : catalog.dropDatabase db.name = .ok change :=
      dropDatabase_eq_ok.2 ⟨db, (database?_congr hsame).trans hdb, hchange⟩
    exact skips_of_dropDatabase hskips hignores hdrop hnot
  | createTable _ | dropTable _ | insert _ _ _ => exact skips_of_replaces hskips hignores h.1
  | update _ _ _ | delete _ _ => exact skips_of_replaces hskips hignores h
  | _ =>
    obtain rfl : change = catalog.unchanged := h
    exact ⟨hskips, hignores⟩

/-- **What carrying out a change leaves of a database that is not known**: its document and its
name are kept exactly if the change does not lose it. -/
theorem keeps_apply_iff (hskips : store.Skips name text listed disk)
    (hignores : catalog.Ignores store name) {statement : Sql.Statement}
    (h : catalog.PlannedBy clock change statement) :
    store.Keeps name text (change.apply disk).1 ↔ ¬ catalog.Loses store name clock disk change :=
  ⟨fun hkeeps hloses => hloses.not_keeps hskips hignores hkeeps,
    fun hnot => (skips_of_planned hskips hignores h hnot).1.keeps⟩

end Catalog

end RelStore
