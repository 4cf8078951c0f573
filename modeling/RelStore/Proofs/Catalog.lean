/-
What a catalog that is opened on a directory knows.

Opening reads the names and then one document for each, and nothing else: where these files are
the same, the same catalog is opened (`ofStore_congr`). It knows each listed database that can be
loaded (`isSome_database?_of_ofStore`), and no more databases than are listed
(`length_of_ofStore`). `Alike` compares what catalogs know by what a document keeps.
-/
import RelStore.Proofs.Name
import RelStore.Proofs.Store

namespace RelStore

/-! ## Contents -/

/-- What a table holds, as far as its document tells: its columns, and its rows in their order. The
two zeros are one value. -/
structure TableContents where
  name : String
  columns : List Column
  rows : List (List Key)
  deriving DecidableEq

def Table.contents (table : Table) : TableContents where
  name := table.name
  columns := table.columns
  rows := table.rows.map fun stored =>
    table.columns.map fun column => (stored.row.get column.name).key

/-- What a database holds: its name and its tables in their order. -/
def Database.contents (db : Database) : String × List TableContents :=
  (db.name, db.tables.map (·.contents))

namespace Catalog

open Text (lower sameName)

variable {catalog other : Catalog} {store : Store} {disk changed : Disk} {db : Database}
  {name : String} {listed : List String}

/-- Two catalogs know the same databases, with the same tables and rows. -/
def Alike (catalog other : Catalog) : Prop :=
  ∀ name, (catalog.database? name).map (·.contents) = (other.database? name).map (·.contents)

theorem Alike.refl (catalog : Catalog) : catalog.Alike catalog := fun _ => rfl

theorem Alike.isSome_eq (h : catalog.Alike other) (name : String) :
    (catalog.database? name).isSome = (other.database? name).isSome := by
  have := congrArg Option.isSome (h name)
  rwa [Option.isSome_map, Option.isSome_map] at this

/-! ## Databases by name -/

theorem isSome_database?_iff : (catalog.database? name).isSome = true ↔
    ∃ db ∈ catalog.databases, sameName db.name name = true := List.find?_isSome

/-- What is known after a database is put in its place: that database, and all that was. -/
theorem isSome_database?_setDatabase : ((catalog.setDatabase db).database? name).isSome = true ↔
    sameName db.name name = true ∨ (catalog.database? name).isSome = true := by
  simp only [isSome_database?_iff]
  rw [setDatabase]
  split
  next hknown =>
    obtain ⟨old, hold, hsame⟩ := isSome_database?_iff.1 hknown
    constructor
    · intro ⟨placed, hplaced, hn⟩
      obtain ⟨before, hbefore, rfl⟩ := List.mem_map.1 hplaced
      split at hn
      · exact .inl hn
      · exact .inr ⟨before, hbefore, hn⟩
    · intro h
      rcases h with hn | ⟨before, hbefore, hn⟩
      · exact ⟨db, List.mem_map.2 ⟨old, hold, if_pos hsame⟩, hn⟩
      · refine ⟨_, List.mem_map_of_mem hbefore, ?_⟩
        split
        next hreplaced => exact Text.sameName_trans (Text.sameName_comm _ _ ▸ hreplaced) hn
        next => exact hn
  next =>
    simp only [List.mem_append, List.mem_singleton, or_and_right, exists_or, exists_eq_left]
    exact or_comm

theorem store_setDatabase (catalog : Catalog) (db : Database) :
    (catalog.setDatabase db).store = catalog.store := by
  rw [setDatabase]
  split <;> rfl

theorem length_setDatabase_le (catalog : Catalog) (db : Database) :
    (catalog.setDatabase db).databases.length ≤ catalog.databases.length + 1 := by
  rw [setDatabase]
  split
  · rw [List.length_map]
    exact Nat.le_succ _
  · rw [List.length_append]
    exact Nat.le_refl _

theorem length_names (catalog : Catalog) : catalog.names.length = catalog.databases.length := by
  rw [names, sortNames, List.length_mergeSort, List.length_map]

theorem mem_names : name ∈ catalog.names ↔ ∃ db ∈ catalog.databases, db.name = name := by
  rw [names, sortNames, List.mem_mergeSort, List.mem_map]

theorem name_mem_names (h : db ∈ catalog.databases) : db.name ∈ catalog.names := by
  exact mem_names.2 ⟨db, h, rfl⟩

/-! ## Opening -/

/-- A listed database that can be loaded is put in its place. -/
theorem loadListed_of_load_ok (catalog : Catalog) (h : store.load disk name = .ok db) :
    loadListed store disk catalog name = catalog.setDatabase db := by
  have hhas : disk.has (store.databasePath name) = true := by
    by_contra hno
    rw [Store.load_of_not_has (Bool.eq_false_iff.2 hno)] at h
    cases h
  rw [loadListed, if_pos hhas, h]

/-- One that cannot be loaded is left out. -/
theorem loadListed_of_load_error (catalog : Catalog) {cause : Cause}
    (h : store.load disk name = .error cause) : loadListed store disk catalog name = catalog := by
  rw [loadListed, h]
  exact ite_self catalog

theorem loadListed_congr (catalog : Catalog) (h : store.load changed name = store.load disk name) :
    loadListed store changed catalog name = loadListed store disk catalog name := by
  cases hload : store.load disk name with
  | ok db =>
    rw [loadListed_of_load_ok catalog hload, loadListed_of_load_ok catalog (h.trans hload)]
  | error cause =>
    rw [loadListed_of_load_error catalog hload, loadListed_of_load_error catalog (h.trans hload)]

theorem ofStore_eq (store : Store) (disk : Disk) : ofStore store disk =
    (store.loadNames disk).map fun listed =>
      listed.foldl (loadListed store disk) ⟨some store, []⟩ := by
  rw [ofStore]
  cases store.loadNames disk <;> rfl

theorem ofStore_eq_ok : ofStore store disk = .ok catalog ↔ ∃ listed,
    store.loadNames disk = .ok listed ∧
      listed.foldl (loadListed store disk) ⟨some store, []⟩ = catalog := by
  rw [ofStore_eq]
  exact map_eq_ok

/-- Where the names and the documents are the same, the same catalog is opened. -/
theorem ofStore_congr (hnames : changed.node? store.catalogPath = disk.node? store.catalogPath)
    (hreads : ∀ listed, store.loadNames disk = .ok listed → ∀ name ∈ listed,
      changed.read? (store.databasePath name) = disk.read? (store.databasePath name)) :
    ofStore store changed = ofStore store disk := by
  rw [ofStore_eq, ofStore_eq, Store.loadNames_congr hnames]
  cases hlisted : store.loadNames disk with
  | error cause => simp only [Except.map]
  | ok listed =>
    have hsame : listed.foldl (loadListed store changed) ⟨some store, []⟩ =
        listed.foldl (loadListed store disk) ⟨some store, []⟩ := by
      apply List.foldl_ext
      intro catalog name hname
      exact loadListed_congr catalog (Store.load_congr (hreads listed hlisted name hname))
    simp only [Except.map, hsame]

theorem length_foldl_loadListed_le (listed : List String) (catalog : Catalog) :
    (listed.foldl (loadListed store disk) catalog).databases.length ≤
      catalog.databases.length + listed.length := by
  induction listed generalizing catalog with
  | nil => exact Nat.le_refl _
  | cons name rest ih =>
    have hstep : (loadListed store disk catalog name).databases.length ≤
        catalog.databases.length + 1 := by
      cases hload : store.load disk name with
      | ok db =>
        rw [loadListed_of_load_ok catalog hload]
        exact length_setDatabase_le _ _
      | error cause =>
        rw [loadListed_of_load_error catalog hload]
        exact Nat.le_succ _
    have hrest := ih (loadListed store disk catalog name)
    rw [List.foldl_cons, List.length_cons]
    omega

/-- No more databases are known than are listed. -/
theorem length_of_ofStore (h : ofStore store disk = .ok catalog)
    (hlisted : store.loadNames disk = .ok listed) :
    catalog.databases.length ≤ listed.length := by
  obtain ⟨names, hnames, rfl⟩ := ofStore_eq_ok.1 h
  obtain rfl := Except.ok.inj (hnames.symm.trans hlisted)
  have := @length_foldl_loadListed_le store disk names ⟨some store, []⟩
  simpa using this

theorem isSome_database?_loadListed {other : String}
    (h : (catalog.database? name).isSome = true) :
    ((loadListed store disk catalog other).database? name).isSome = true := by
  cases hload : store.load disk other with
  | ok db =>
    rw [loadListed_of_load_ok catalog hload]
    exact isSome_database?_setDatabase.2 (.inr h)
  | error cause =>
    rw [loadListed_of_load_error catalog hload]
    exact h

theorem isSome_database?_foldl (listed : List String)
    (h : (catalog.database? name).isSome = true) :
    ((listed.foldl (loadListed store disk) catalog).database? name).isSome = true := by
  induction listed generalizing catalog with
  | nil => exact h
  | cons other rest ih =>
    rw [List.foldl_cons]
    exact ih (isSome_database?_loadListed h)

/-- A listed database that can be loaded is known. -/
theorem isSome_database?_of_ofStore (h : ofStore store disk = .ok catalog)
    (hlisted : store.loadNames disk = .ok listed) (hname : name ∈ listed)
    (hload : store.load disk name = .ok db) : (catalog.database? db.name).isSome = true := by
  obtain ⟨names, hnames, rfl⟩ := ofStore_eq_ok.1 h
  obtain rfl := Except.ok.inj (hnames.symm.trans hlisted)
  obtain ⟨before, after, rfl⟩ := List.append_of_mem hname
  rw [List.foldl_append, List.foldl_cons]
  refine isSome_database?_foldl after ?_
  rw [loadListed_of_load_ok _ hload]
  exact isSome_database?_setDatabase.2 (.inl (Text.sameName_refl _))

end Catalog

end RelStore
