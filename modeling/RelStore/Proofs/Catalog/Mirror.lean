/-
Directories that mirror what is known.

A directory mirrors a catalog (`Mirrors`) if it lists the names of its databases, and what is saved
under each name is that database. A catalog that is opened on it then knows the same databases, with
their rows numbered anew (`Mirrors.opens`). What is opened rests on which databases are listed by
any names (`Lists`), so that it can also be told of a directory while it is changed.
-/
import RelStore.Proofs.Document.Opening

namespace RelStore

open Text (sameName)

namespace Catalog

variable {catalog other : Catalog} {store : Store} {disk : Disk} {db known : Database}
  {name : String} {listed : List String} {databases : List Database}

/-! ## Putting databases in their places -/

theorem mem_setDatabase : db ∈ (catalog.setDatabase known).databases ↔
    db = known ∨ db ∈ catalog.databases ∧ sameName db.name known.name = false := by
  rw [setDatabase]
  split
  next hknown =>
    obtain ⟨old, hold, hsame⟩ := isSome_database?_iff.1 hknown
    constructor
    · intro hmem
      obtain ⟨before, hbefore, rfl⟩ := List.mem_map.1 hmem
      split
      next => exact .inl rfl
      next hne => exact .inr ⟨hbefore, Bool.eq_false_iff.2 hne⟩
    · rintro (rfl | ⟨hmem, hne⟩)
      · exact List.mem_map.2 ⟨old, hold, if_pos hsame⟩
      · exact List.mem_map.2 ⟨db, hmem, if_neg (by simp [hne])⟩
  next hnew =>
    rw [List.mem_append, List.mem_singleton, or_comm]
    refine or_congr_right (iff_self_and.2 fun hmem => Bool.eq_false_iff.2 fun hsame => hnew ?_)
    exact isSome_database?_iff.2 ⟨db, hmem, hsame⟩

theorem distinct_setDatabase (h : DistinctNames Database.name catalog.databases)
    (db : Database) : DistinctNames Database.name (catalog.setDatabase db).databases := by
  rw [setDatabase]
  split
  next => exact h.replace db
  next hnew =>
    exact h.concat fun other ho => Bool.eq_false_iff.2 fun hsame =>
      hnew (isSome_database?_iff.2 ⟨other, ho, hsame⟩)

/-! ## Opening -/

/-- Another catalog knows the same databases, with the rows of their tables numbered from one. -/
def Renumbers (catalog other : Catalog) : Prop :=
  ∀ name, Option.Rel Database.Renumbers (catalog.database? name) (other.database? name)

/-- The databases that a directory lists, by whatever names, are some databases. -/
def Lists (store : Store) (disk : Disk) (databases : List Database) : Prop :=
  ∃ listed, store.loadNames disk = .ok listed ∧
    (∀ db ∈ databases, ∃ name ∈ listed, ∃ loaded,
      store.load disk name = .ok loaded ∧ db.Renumbers loaded) ∧
    ∀ name ∈ listed, ∀ loaded, store.load disk name = .ok loaded →
      ∃ db ∈ databases, db.Renumbers loaded

/-- What is known while a directory is opened: databases of different names, that are listed. -/
structure Opening (store : Store) (disk : Disk) (listed : List String) (catalog : Catalog) :
    Prop where
  distinct : DistinctNames Database.name catalog.databases
  loaded : ∀ db ∈ catalog.databases, ∃ name ∈ listed, store.load disk name = .ok db

theorem Opening.loadListed (h : Opening store disk listed catalog) (hname : name ∈ listed) :
    Opening store disk listed (loadListed store disk catalog name) := by
  cases hload : store.load disk name with
  | error cause => rwa [loadListed_of_load_error catalog hload]
  | ok loaded =>
    rw [loadListed_of_load_ok catalog hload]
    refine ⟨distinct_setDatabase h.distinct loaded, fun db hdb => ?_⟩
    rcases mem_setDatabase.1 hdb with rfl | ⟨hmem, -⟩
    · exact ⟨name, hname, hload⟩
    · exact h.loaded db hmem

theorem find?_rel {Same : Database → Database → Prop} {others : List Database}
    (h : DistinctNames Database.name databases) (ho : DistinctNames Database.name others)
    (hname : ∀ db other, Same db other → other.name = db.name)
    (hleft : ∀ db ∈ databases, ∃ other ∈ others, Same db other)
    (hright : ∀ other ∈ others, ∃ db ∈ databases, Same db other) (name : String) :
    Option.Rel Same (databases.find? fun db => sameName db.name name)
      (others.find? fun db => sameName db.name name) := by
  cases hfind : databases.find? fun db => sameName db.name name with
  | none =>
    have hnone : (others.find? fun db => sameName db.name name) = none := by
      refine List.find?_eq_none.2 fun other hother hsame => ?_
      obtain ⟨db, hdb, hboth⟩ := hright other hother
      rw [hname db other hboth] at hsame
      exact List.find?_eq_none.1 hfind db hdb hsame
    rw [hnone]
    exact .none
  | some db =>
    obtain ⟨hdb, hsame⟩ := h.find?_eq_some_iff.1 hfind
    obtain ⟨other, hother, hboth⟩ := hleft db hdb
    have hfound : (others.find? fun db => sameName db.name name) = some other :=
      ho.find?_eq_some_iff.2 ⟨hother, hname db other hboth ▸ hsame⟩
    rw [hfound]
    exact .some hboth

/-- **Opening gives the databases that are listed.** -/
theorem Lists.opens (h : Lists store disk catalog.databases)
    (hdistinct : DistinctNames Database.name catalog.databases) :
    ∃ opened, ofStore store disk = .ok opened ∧ catalog.Renumbers opened := by
  obtain ⟨listed, hlisted, hsaved, hknown⟩ := h
  refine ⟨_, ofStore_eq_ok.2 ⟨listed, hlisted, rfl⟩, ?_⟩
  have hopening : Opening store disk listed
      (listed.foldl (Catalog.loadListed store disk) ⟨some store, []⟩) :=
    foldl_keeps ⟨List.nodup_nil, nofun⟩ fun _ hs _ hname => hs.loadListed hname
  have hright : ∀ other ∈ (listed.foldl (Catalog.loadListed store disk) ⟨some store, []⟩).databases,
      ∃ db ∈ catalog.databases, db.Renumbers other := by
    intro other hother
    obtain ⟨name, hname, hload⟩ := hopening.loaded other hother
    exact hknown name hname other hload
  refine fun name => find?_rel hdistinct hopening.distinct (fun _ _ hboth => hboth.name) ?_ hright name
  intro db hdb
  obtain ⟨name, hname, loaded, hload, hsame⟩ := hsaved db hdb
  have hthere := isSome_database?_of_ofStore (ofStore_eq_ok.2 ⟨listed, hlisted, rfl⟩) hlisted hname
    hload
  -- one of this name is there, and by its name it is this one
  obtain ⟨other, hother, hnamed⟩ := isSome_database?_iff.1 hthere
  obtain ⟨found, hfound, hboth⟩ := hright other hother
  have hsamename : sameName found.name db.name = true := by
    rw [← hboth.name, ← hsame.name]
    exact hnamed
  rw [hdistinct.eq_of_sameName hfound hdb hsamename] at hboth
  exact ⟨other, hother, hboth⟩

/-- A directory lists the same databases when the same is read. -/
theorem Lists.congr {changed : Disk} (h : Lists store disk databases)
    (hnames : store.loadNames changed = store.loadNames disk)
    (hloads : ∀ name, store.load changed name = store.load disk name) :
    Lists store changed databases := by
  obtain ⟨listed, hlisted, hsaved, hknown⟩ := h
  refine ⟨listed, hnames.trans hlisted, fun db hdb => ?_, fun name hname loaded hload => ?_⟩
  · obtain ⟨name, hname, loaded, hload, hsame⟩ := hsaved db hdb
    exact ⟨name, hname, loaded, (hloads name).trans hload, hsame⟩
  · exact hknown name hname loaded ((hloads name).symm.trans hload)

/-! ## Mirrors -/

/-- A directory lists the databases of a catalog by their names, and has each under its name. It
may list names besides, of which nothing is saved. -/
structure Mirrors (catalog : Catalog) (store : Store) (disk : Disk) : Prop where
  home : catalog.store = some store
  distinct : DistinctNames Database.name catalog.databases
  named : ∀ db ∈ catalog.databases, Sql.checkName .database db.name = .ok ()
  storable : ∀ db ∈ catalog.databases, db.Storable
  listed : ∃ names, store.loadNames disk = .ok names ∧
    (∀ db ∈ catalog.databases, db.name ∈ names) ∧
    ∀ name ∈ names, ∀ loaded, store.load disk name = .ok loaded →
      ∃ db ∈ catalog.databases, db.name = name
  saved : ∀ db ∈ catalog.databases, ∃ loaded,
    store.load disk db.name = .ok loaded ∧ db.Renumbers loaded

theorem Mirrors.lists (h : catalog.Mirrors store disk) : Lists store disk catalog.databases := by
  obtain ⟨names, hnames, hlisted, hknown⟩ := h.listed
  refine ⟨names, hnames, fun db hdb => ⟨db.name, hlisted db hdb, h.saved db hdb⟩, ?_⟩
  intro name hname loaded hload
  obtain ⟨db, hdb, rfl⟩ := hknown name hname loaded hload
  obtain ⟨found, hfound, hsame⟩ := h.saved db hdb
  obtain rfl := Except.ok.inj (hfound.symm.trans hload)
  exact ⟨db, hdb, hsame⟩

/-- **A directory that mirrors a catalog is opened as that catalog.** -/
theorem Mirrors.opens (h : catalog.Mirrors store disk) :
    ∃ opened, ofStore store disk = .ok opened ∧ catalog.Renumbers opened :=
  h.lists.opens h.distinct

/-! ## Saving -/

variable {changed : Disk} {clock : String} {names : List String} {path : Path}

/-- What is read after a database is saved. -/
theorem reads_of_save (hcheck : Sql.checkName .database db.name = .ok ()) (hdb : db.Storable)
    (h : disk.run (store.saveSteps db clock) = (changed, .ok ())) :
    store.loadNames changed = store.loadNames disk ∧
      (∀ name, store.databasePath name ≠ store.databasePath db.name →
        store.load changed name = store.load disk name) ∧
      ∀ name, store.databasePath name = store.databasePath db.name →
        ∃ loaded, store.load changed name = .ok loaded ∧ db.Renumbers loaded := by
  obtain ⟨hbeside, hpossible, hread⟩ := Store.run_writeSteps_ok h
  have hdoc := Store.isDocument_databasePath store db.name
  refine ⟨Store.loadNames_congr (hbeside.node? ?_ ?_), fun name hne => ?_, fun name heq => ?_⟩
  · exact (Store.isDocument_catalogPath store).not_mem_files hdoc
      (Store.catalogPath_ne_databasePath hcheck)
  · exact Store.not_leadsTo_parent_databasePath hcheck
  · exact Store.load_congr
      (hbeside.read? ((Store.isDocument_databasePath store name).not_mem_files hdoc hne))
  · rw [← heq] at hpossible hread
    exact Store.load_of_saved hdb hpossible hread

/-- What is read after the names are saved. -/
theorem reads_of_saveNames (hnames : ∀ name ∈ names, Sql.checkName .database name = .ok ())
    (h : disk.run (store.saveNamesSteps names) = (changed, .ok ())) :
    store.loadNames changed = .ok names ∧
      ∀ name, Sql.checkName .database name = .ok () →
        store.load changed name = store.load disk name := by
  obtain ⟨hbeside, hpossible, hread⟩ := Store.run_writeSteps_ok h
  have hdoc := Store.isDocument_catalogPath store
  refine ⟨Store.loadNames_of_read? (fun name hname => ?_) hpossible hread, fun name hcheck => ?_⟩
  · exact Store.isName_of_checkName (hnames name hname)
  · exact Store.load_congr (hbeside.read?
      ((Store.isDocument_databasePath store name).not_mem_files hdoc
        (Store.catalogPath_ne_databasePath hcheck).symm))

/-- A directory mirrors a catalog as long as what it lists is loaded. -/
theorem Mirrors.congr (h : catalog.Mirrors store disk)
    (hnames : store.loadNames changed = store.loadNames disk)
    (hloads : ∀ listed, store.loadNames disk = .ok listed → ∀ name ∈ listed,
      store.load changed name = store.load disk name) : catalog.Mirrors store changed := by
  obtain ⟨listed, hlisted, hall, hknown⟩ := h.listed
  refine ⟨h.home, h.distinct, h.named, h.storable, ?_, fun db hdb => ?_⟩
  · refine ⟨listed, hnames.trans hlisted, hall, fun name hname loaded hload => ?_⟩
    rw [hloads listed hlisted name hname] at hload
    exact hknown name hname loaded hload
  · rw [hloads listed hlisted db.name (hall db hdb)]
    exact h.saved db hdb

/-- A known database that is put into another state and saved. -/
theorem Mirrors.save (h : catalog.Mirrors store disk) (hmem : known ∈ catalog.databases)
    (hname : db.name = known.name) (hdb : db.Storable)
    (hsaved : disk.run (store.saveSteps db clock) = (changed, .ok ())) :
    (catalog.setDatabase db).Mirrors store changed := by
  have hcheck : Sql.checkName .database db.name = .ok () := hname ▸ h.named known hmem
  obtain ⟨hnames, hothers, hown⟩ := reads_of_save hcheck hdb hsaved
  obtain ⟨listed, hlisted, hall, hknown⟩ := h.listed
  have hsplit {other : Database} (ho : other ∈ (catalog.setDatabase db).databases) :
      other = db ∨ other ∈ catalog.databases ∧ other.name ≠ db.name := by
    refine (mem_setDatabase.1 ho).imp_right fun ⟨hin, hne⟩ => ⟨hin, fun heq => ?_⟩
    rw [heq, Text.sameName_refl] at hne
    cases hne
  constructor
  case home => rw [store_setDatabase, h.home]
  case distinct => exact distinct_setDatabase h.distinct db
  case named =>
    intro other ho
    rcases hsplit ho with rfl | ⟨hin, -⟩
    · exact hcheck
    · exact h.named other hin
  case storable =>
    intro other ho
    rcases hsplit ho with rfl | ⟨hin, -⟩
    · exact hdb
    · exact h.storable other hin
  case listed =>
    refine ⟨listed, hnames.trans hlisted, fun other ho => ?_, fun name hin loaded hload => ?_⟩
    · rcases hsplit ho with rfl | ⟨hin, -⟩
      · exact hname ▸ hall known hmem
      · exact hall other hin
    · -- what is loaded now was there before, so that its name is known
      obtain ⟨before, hbefore⟩ : ∃ before, store.load disk name = .ok before := by
        by_cases hpath : store.databasePath known.name = store.databasePath name
        · obtain ⟨before, hbefore, -⟩ := h.saved known hmem
          exact ⟨before, Store.load_of_path_eq hpath hbefore⟩
        · rw [hothers name fun heq => hpath (hname ▸ heq.symm)] at hload
          exact ⟨loaded, hload⟩
      obtain ⟨other, ho, rfl⟩ := hknown name hin before hbefore
      by_cases heq : other = known
      · exact ⟨db, mem_setDatabase.2 (.inl rfl), heq ▸ hname⟩
      · refine ⟨other, mem_setDatabase.2 (.inr ⟨ho, Bool.eq_false_iff.2 fun hsame => heq ?_⟩), rfl⟩
        exact h.distinct.eq_of_sameName ho hmem (hname ▸ hsame)
  case saved =>
    intro other ho
    rcases hsplit ho with rfl | ⟨hin, hne⟩
    · exact hown _ rfl
    · have hpath : store.databasePath other.name ≠ store.databasePath db.name :=
        fun heq => hne (Store.databasePath_injective (h.named other hin) hcheck heq)
      rw [hothers other.name hpath]
      exact h.saved other hin

/-! ## Making and dropping databases -/

theorem ne_of_database?_eq_none (h : catalog.database? name = none) (hdb : db ∈ catalog.databases) :
    sameName db.name name = false :=
  Bool.eq_false_iff.2 (List.find?_eq_none.1 h db hdb)

/-- A new document is where no other is. -/
theorem Mirrors.databasePath_ne (h : catalog.Mirrors store disk)
    (hcheck : Sql.checkName .database name = .ok ()) (hnew : catalog.database? name = none)
    (hmem : db ∈ catalog.databases) : store.databasePath db.name ≠ store.databasePath name := by
  intro hpath
  have hsame := ne_of_database?_eq_none hnew hmem
  rw [Store.databasePath_injective (h.named db hmem) hcheck hpath, Text.sameName_refl] at hsame
  cases hsame

/-- A new database whose document and name are saved. -/
theorem Mirrors.create (h : catalog.Mirrors store disk)
    (hcheck : Sql.checkName .database db.name = .ok ()) (hnew : catalog.database? db.name = none)
    (hdb : db.Storable)
    (hsaved : disk.run (store.saveSteps db clock ++
      store.saveNamesSteps (sortNames (catalog.names ++ [db.name]))) = (changed, .ok ())) :
    (catalog.setDatabase db).Mirrors store changed := by
  obtain ⟨mid, hfirst, hsecond⟩ := Disk.run_append_eq_ok.1 hsaved
  have hmem {name : String} : name ∈ sortNames (catalog.names ++ [db.name]) ↔
      (∃ old ∈ catalog.databases, old.name = name) ∨ name = db.name := by
    rw [sortNames, List.mem_mergeSort, List.mem_append, List.mem_singleton, mem_names]
  have hchecked : ∀ name ∈ sortNames (catalog.names ++ [db.name]),
      Sql.checkName .database name = .ok () := by
    intro name hname
    rcases hmem.1 hname with ⟨old, hold, rfl⟩ | rfl
    · exact h.named old hold
    · exact hcheck
  obtain ⟨-, hothers, hown⟩ := reads_of_save hcheck hdb hfirst
  obtain ⟨hnames, hloads⟩ := reads_of_saveNames hchecked hsecond
  have hall {P : Database → Prop} (hold : ∀ old ∈ catalog.databases, P old) (hthis : P db) :
      ∀ other ∈ (catalog.setDatabase db).databases, P other := by
    intro other ho
    rcases mem_setDatabase.1 ho with rfl | ⟨hin, -⟩
    · exact hthis
    · exact hold other hin
  constructor
  case home => rw [store_setDatabase, h.home]
  case distinct => exact distinct_setDatabase h.distinct db
  case named => exact hall h.named hcheck
  case storable => exact hall h.storable hdb
  case listed =>
    refine ⟨_, hnames, hall (fun old hold => hmem.2 (.inl ⟨old, hold, rfl⟩)) (hmem.2 (.inr rfl)),
      fun name hname _ _ => ?_⟩
    rcases hmem.1 hname with ⟨old, hold, rfl⟩ | rfl
    · exact ⟨old, mem_setDatabase.2 (.inr ⟨hold, ne_of_database?_eq_none hnew hold⟩), rfl⟩
    · exact ⟨db, mem_setDatabase.2 (.inl rfl), rfl⟩
  case saved =>
    refine hall (fun old hold => ?_) ?_
    · rw [hloads old.name (h.named old hold),
        hothers old.name (h.databasePath_ne hcheck hnew hold)]
      exact h.saved old hold
    · rw [hloads db.name hcheck]
      exact hown db.name rfl

/-- A database less, whose name is no longer saved. -/
theorem Mirrors.drop (h : catalog.Mirrors store disk) (hmem : db ∈ catalog.databases)
    (hsaved : disk.run (store.saveNamesSteps (catalog.names.filter (· != db.name))) =
      (changed, .ok ())) :
    (catalog.eraseDatabase db.name).Mirrors store changed ∧
      store.loadNames changed = .ok (catalog.names.filter (· != db.name)) := by
  have hstays {other : Database} : other ∈ (catalog.eraseDatabase db.name).databases ↔
      other ∈ catalog.databases ∧ other.name ≠ db.name := by
    rw [eraseDatabase, List.mem_filter]
    refine and_congr_right fun hother => ?_
    rw [Bool.not_eq_true', Bool.eq_false_iff]
    refine not_congr ⟨fun hsame => ?_, fun heq => heq ▸ Text.sameName_refl _⟩
    rw [h.distinct.eq_of_sameName hother hmem hsame]
  have hlisted {name : String} : name ∈ catalog.names.filter (· != db.name) ↔
      (∃ other ∈ catalog.databases, other.name = name) ∧ name ≠ db.name := by
    rw [List.mem_filter, mem_names, bne_iff_ne]
  obtain ⟨hnames, hloads⟩ := reads_of_saveNames (fun name hname => by
    obtain ⟨⟨other, hother, rfl⟩, -⟩ := hlisted.1 hname
    exact h.named other hother) hsaved
  refine ⟨?_, hnames⟩
  constructor
  case home => exact h.home
  case distinct => exact h.distinct.sublist List.filter_sublist
  case named => exact fun other ho => h.named other (hstays.1 ho).1
  case storable => exact fun other ho => h.storable other (hstays.1 ho).1
  case listed =>
    refine ⟨_, hnames, fun other ho => ?_, fun name hname _ _ => ?_⟩
    · obtain ⟨hin, hne⟩ := hstays.1 ho
      exact hlisted.2 ⟨⟨other, hin, rfl⟩, hne⟩
    · obtain ⟨⟨other, hother, rfl⟩, hne⟩ := hlisted.1 hname
      exact ⟨other, hstays.2 ⟨hother, hne⟩, rfl⟩
  case saved =>
    intro other ho
    have hin := (hstays.1 ho).1
    rw [hloads other.name (h.named other hin)]
    exact h.saved other hin

end Catalog

end RelStore
