/-
What SQL texts lead to.

A catalog is reached by texts that are run in any sessions, one after the other, on any disk: some
may fail, the files may change between them, and outages may come at any time. It may also be
opened anew, where what is opened is what was known. The databases of such a catalog differ in
their names, and so do the tables of each; every table has been changed by calls only since it
was made or opened, and it and its columns have names of word characters (`Reached.built`).
-/
import RelStore.Proofs.Catalog.Matches
import RelStore.Proofs.Query.Scan
import RelStore.Proofs.Sql.Parsed

namespace RelStore

open Sql

/-! ## Tables that are read -/

namespace Table

variable {table : Table}

/-- Rows that are inserted one after the other. -/
theorem Reached.insertAll {rows : List (List Value)} {last : Table} (h : table.Reached)
    (hlast : rows.foldlM (fun table values => (·.1) <$> table.insert values none) table =
      Except.ok last) : last.Reached := by
  induction rows generalizing table with
  | nil =>
    obtain rfl := Except.ok.inj hlast
    exact h
  | cons values rest ih =>
    rw [List.foldlM_cons] at hlast
    obtain ⟨next, hnext, hlast⟩ := bind_eq_ok.1 hlast
    obtain ⟨inserted, hinserted, rfl⟩ := map_eq_ok.1 hnext
    obtain ⟨row, hrow, rfl⟩ := insert_eq_ok.1 hinserted
    exact ih (h.perform (.insert values none) (perform_insert hrow)) hlast

theorem reached_of_ofDocument {doc : TableDocument} (h : ofDocument doc = .ok table) :
    table.Reached := by
  obtain ⟨start, hstart, hrows⟩ := bind_eq_ok.1 h
  exact Reached.insertAll ⟨_, start, [], hstart, rfl⟩ hrows

end Table

namespace Database

variable {db next : Database} {call : Call}

theorem reached_of_ofDocument {doc : DatabaseDocument} (h : ofDocument doc = .ok db) :
    ∀ table ∈ db.tables, table.Reached := by
  have hall (docs : List TableDocument) (start : Database)
      (hstart : ∀ table ∈ start.tables, table.Reached)
      (hlast : docs.foldlM addDocument start = .ok db) : ∀ table ∈ db.tables, table.Reached := by
    induction docs generalizing start with
    | nil =>
      obtain rfl := Except.ok.inj hlast
      exact hstart
    | cons doc rest ih =>
      rw [List.foldlM_cons] at hlast
      obtain ⟨next, hnext, hlast⟩ := bind_eq_ok.1 hlast
      refine ih next ?_ hlast
      obtain ⟨-, hadd⟩ := ite_bind_eq_ok.1 hnext
      obtain ⟨added, hadded, hadd⟩ := bind_eq_ok.1 hadd
      obtain rfl := pure_eq_ok.1 hadd
      intro table ht
      rcases List.mem_append.1 ht with ht | ht
      · exact hstart table ht
      · exact List.mem_singleton.1 ht ▸ Table.reached_of_ofDocument hadded
  exact hall doc.tables (empty doc.name) (List.forall_mem_nil _) h

/-- What is loaded was made of a document. -/
theorem exists_ofDocument_of_load {store : Store} {disk : Disk} {name : String}
    (h : store.load disk name = .ok db) : ∃ doc, ofDocument doc = .ok db := by
  obtain ⟨json, -, h⟩ := bind_eq_ok.1 h
  split at h
  next => cases h
  next doc _ =>
    split at h
    next loaded hloaded =>
      obtain rfl := pure_eq_ok.1 h
      exact ⟨doc, hloaded⟩
    next => cases h

/-! ## Databases -/

/-- Tables of different names that are reached, of names that are accepted for new objects. -/
structure Built (db : Database) : Prop where
  distinct : DistinctNames Table.name db.tables
  reached : ∀ table ∈ db.tables, table.Reached
  named : ∀ table ∈ db.tables, table.schema.Named

theorem built_empty (name : String) : (empty name).Built := ⟨List.nodup_nil, nofun, nofun⟩

theorem Built.setTable (h : db.Built) {table written : Table} (hmem : table ∈ db.tables)
    (hschema : written.schema = table.schema)
    (hreached : ∀ other ∈ (db.setTable written).tables, other.Reached) :
    (db.setTable written).Built where
  distinct := h.distinct.replace written
  reached := hreached
  named other hother := by
    obtain ⟨old, hold, rfl⟩ := List.mem_map.1 hother
    split
    · exact hschema ▸ h.named table hmem
    · exact h.named old hold

theorem name_perform (hc : db.perform call = .ok next) : next.name = db.name := by
  obtain ⟨schema, table, -, hmade⟩ | ⟨name, -, hdropped⟩ | ⟨table, -, rows, written, -, rfl⟩ :=
    perform_cases hc
  · exact name_createTable hmade
  · exact name_dropTable hdropped
  · rfl

/-- Calls keep databases built, if what they create is named. -/
theorem Built.perform (h : db.Built) (hc : db.perform call = .ok next)
    (hnamed : ∀ schema, call = .create schema → schema.Named) : next.Built := by
  have hreached := reached_of_perform h.reached hc
  obtain ⟨schema, table, rfl, hmade⟩ | ⟨name, -, hdropped⟩ |
    ⟨table, htable, rows, written, hwritten, rfl⟩ := perform_cases hc
  · have hschema := (schema_of_createTable hmade).1
    have hdistinct := h.distinct.concat (fresh_of_createTable hmade)
    obtain ⟨-, -, -, rfl⟩ := createTable_eq_ok.1 hmade
    refine ⟨hdistinct, hreached, fun other hother => ?_⟩
    rcases List.mem_append.1 hother with hother | hother
    · exact h.named other hother
    · rw [List.mem_singleton.1 hother, hschema]
      exact hnamed schema rfl
  · obtain ⟨-, -, -, rfl⟩ := dropTable_eq_ok.1 hdropped
    exact ⟨h.distinct.sublist List.filter_sublist, hreached,
      fun other hother => h.named other (List.mem_of_mem_filter hother)⟩
  · exact h.setTable htable (Table.schema_perform hwritten) hreached

theorem Renumbers.distinct {other : Database} (hsame : db.Renumbers other)
    (hdistinct : DistinctNames Table.name db.tables) : DistinctNames Table.name other.tables := by
  have hname {table renumbered : Table} (hrows : table.Renumbers renumbered) :
      Text.lower table.name = Text.lower renumbered.name :=
    congrArg (fun schema : Schema => Text.lower schema.name) hrows.schema.symm
  rwa [DistinctNames, map_eq_map hsame.tables fun _ _ => hname] at hdistinct

/-- What is opened of a built database is built. -/
theorem Built.of_renumbers {other : Database} (h : db.Built) (hsame : db.Renumbers other)
    (hreached : ∀ table ∈ other.tables, table.Reached) : other.Built where
  distinct := hsame.distinct h.distinct
  reached := hreached
  named table ht := by
    obtain ⟨old, hold, hrows⟩ := exists_left_of_mem hsame.tables ht
    exact hrows.schema ▸ h.named old hold

/-- What calls lead to, from a new database. -/
inductive Reached : Database → Prop where
  | new (name : String) : Reached (empty name)
  | performed {db next : Database} {call : Call} (h : Reached db)
    (hnext : db.perform call = .ok next) : Reached next
  /-- It is made anew of a document, as it was. -/
  | reopened {db other : Database} {doc : DatabaseDocument} (h : Reached db)
    (hopened : ofDocument doc = .ok other) (hsame : db.Renumbers other) : Reached other

theorem Reached.run (h : db.Reached) (calls : List Call) : (db.run calls).Reached := by
  refine foldl_keeps h fun state hstate call _ => ?_
  rw [after]
  split
  next hnext => exact hstate.performed hnext
  next => exact hstate

theorem Sound.of_renumbers {other : Database} (h : db.Sound) (hsame : db.Renumbers other) :
    other.Sound := by
  have hnamed := hsame.distinct h.named
  have hschemas : other.tables.map (·.schema) = db.tables.map (·.schema) :=
    (map_eq_map hsame.tables fun _ _ hrows => hrows.schema.symm).symm
  constructor
  case named => exact hnamed
  case tables =>
    intro table ht
    obtain ⟨old, -, hrows⟩ := exists_left_of_mem hsame.tables ht
    exact hrows.invariant
  case linked => exact hschemas ▸ h.linked
  case held =>
    intro table column target key hl hne stored hs hv
    obtain ⟨x, hx, hrows⟩ := exists_left_of_mem hsame.tables hl.table_mem
    obtain ⟨y, hy, hkeys⟩ := exists_left_of_mem hsame.tables hl.target_mem
    obtain ⟨ref, href, hn, hk⟩ := hl.refers
    have hlink : db.Link x column y key := by
      refine ⟨hx, ?_, hy, ref, href, ?_, ?_⟩
      · rw [show x.columns = table.columns from hrows.columns.symm]
        exact hl.column_mem
      · rwa [show y.name = target.name from congrArg Schema.name hkeys.schema.symm]
      · rwa [Table.column?, ← hkeys.schema]
    have hxy : x ≠ y := by
      rintro rfl
      refine hne (hnamed.eq_of_name_eq hl.table_mem hl.target_mem ?_)
      exact congrArg Schema.name (hrows.schema.trans hkeys.schema.symm)
    obtain ⟨was, hwas, halike⟩ := exists_left_of_mem hrows.alike hs
    have hvalue := halike.get column.name
    obtain ⟨other, ho, hkey⟩ := h.held x column y key hlink hxy was hwas
      fun hnone => hv (hvalue.eq_none_iff.1 hnone)
    obtain ⟨now, hnow, halike'⟩ := exists_right_of_mem hkeys.alike ho
    exact ⟨now, hnow, ((halike'.get key.name).symm.trans hkey).trans hvalue⟩

end Database

/-! ## Catalogs -/

namespace Catalog

variable {catalog opened : Catalog} {store : Store} {disk : Disk} {db : Database}
  {session : Session} {clock : String} {plan : Plan} {statement : Statement}

/-- Built databases of different names. -/
structure Built (catalog : Catalog) : Prop where
  distinct : DistinctNames Database.name catalog.databases
  databases : ∀ db ∈ catalog.databases, db.Built

theorem Built.setDatabase (h : catalog.Built) (hdb : db.Built) : (catalog.setDatabase db).Built where
  distinct := distinct_setDatabase h.distinct db
  databases other hother := by
    rcases mem_setDatabase.1 hother with rfl | ⟨hmem, -⟩
    · exact hdb
    · exact h.databases other hmem

/-- What is opened is loaded. -/
theorem exists_load_of_ofStore (h : ofStore store disk = .ok opened) (hdb : db ∈ opened.databases) :
    ∃ name, store.load disk name = .ok db := by
  obtain ⟨listed, -, rfl⟩ := ofStore_eq_ok.1 h
  have hopening : Opening store disk listed
      (listed.foldl (loadListed store disk) ⟨some store, []⟩) :=
    foldl_keeps ⟨List.nodup_nil, nofun⟩ fun _ hs _ hname => hs.loadListed hname
  obtain ⟨name, -, hload⟩ := hopening.loaded db hdb
  exact ⟨name, hload⟩

/-- What is opened as it was is known from before. -/
theorem exists_of_renumbers (hopened : ofStore store disk = .ok opened)
    (hsame : catalog.Renumbers opened) {other : Database} (hother : other ∈ opened.databases) :
    ∃ db ∈ catalog.databases, db.Renumbers other := by
  have hrel := hsame other.name
  rw [show opened.database? other.name = some other from
    (home_of_ofStore hopened).2.find?_eq_some_iff.2 ⟨hother, Text.sameName_refl _⟩] at hrel
  cases hfound : catalog.database? other.name with
  | none =>
    rw [hfound] at hrel
    cases hrel
  | some db =>
    rw [hfound] at hrel
    obtain hboth : db.Renumbers other := by cases hrel; assumption
    exact ⟨db, List.mem_of_find?_eq_some hfound, hboth⟩

/-- What is opened of a built catalog is built. -/
theorem Built.of_renumbers (h : catalog.Built) (hopened : ofStore store disk = .ok opened)
    (hsame : catalog.Renumbers opened) : opened.Built := by
  refine ⟨(home_of_ofStore hopened).2, fun other hother => ?_⟩
  obtain ⟨db, hdb, hboth⟩ := exists_of_renumbers hopened hsame hother
  refine (h.databases db hdb).of_renumbers hboth ?_
  obtain ⟨name, hload⟩ := exists_load_of_ofStore hopened hother
  obtain ⟨doc, hdoc⟩ := Database.exists_ofDocument_of_load hload
  exact Database.reached_of_ofDocument hdoc

/-- The databases have names that a new database can have. -/
def Named (catalog : Catalog) : Prop :=
  ∀ db ∈ catalog.databases, checkName .database db.name = .ok ()

theorem Named.setDatabase (h : catalog.Named) (hdb : checkName .database db.name = .ok ()) :
    (catalog.setDatabase db).Named := by
  intro other hother
  rcases mem_setDatabase.1 hother with rfl | ⟨hmem, -⟩
  · exact hdb
  · exact h other hmem

theorem Named.of_renumbers (h : catalog.Named) (hopened : ofStore store disk = .ok opened)
    (hsame : catalog.Renumbers opened) : opened.Named := by
  intro other hother
  obtain ⟨db, hdb, hboth⟩ := exists_of_renumbers hopened hsame hother
  exact hboth.name ▸ h db hdb

/-- The databases are such as calls lead to. -/
def DatabasesReached (catalog : Catalog) : Prop := ∀ db ∈ catalog.databases, db.Reached

theorem DatabasesReached.setDatabase (h : catalog.DatabasesReached) (hdb : db.Reached) :
    (catalog.setDatabase db).DatabasesReached := by
  intro other hother
  rcases mem_setDatabase.1 hother with rfl | ⟨hmem, -⟩
  · exact hdb
  · exact h other hmem

theorem DatabasesReached.of_renumbers (h : catalog.DatabasesReached)
    (hopened : ofStore store disk = .ok opened) (hsame : catalog.Renumbers opened) :
    opened.DatabasesReached := by
  intro other hother
  obtain ⟨db, hdb, hboth⟩ := exists_of_renumbers hopened hsame hother
  obtain ⟨name, hload⟩ := exists_load_of_ofStore hopened hother
  obtain ⟨doc, hdoc⟩ := Database.exists_ofDocument_of_load hload
  exact (h db hdb).reopened hdoc hboth

end Catalog

/-! ## Texts -/

/-- What the plans of regular statements keep, whether or not they can be saved. -/
def Catalog.KeptByPlans (P : Catalog → Prop) : Prop :=
  ∀ {catalog : Catalog} {session : Session} {clock : String} {statement : Statement} {plan : Plan},
    P catalog → statement.Regular → catalog.plan session clock statement = .ok plan →
      P plan.change.done ∧ P plan.change.refused

namespace Catalog.KeptByPlans

variable {P : Catalog → Prop} {w : Workspace} {sql : String} {statement : Statement}

/-- What is kept when a database is made or removed, and when a call changes one. -/
theorem of_changes
    (hcreate : ∀ {catalog : Catalog} (name : String), P catalog →
      checkName .database name = .ok () → P (catalog.setDatabase (.empty name)))
    (hdrop : ∀ {catalog : Catalog} (name : String), P catalog → P (catalog.eraseDatabase name))
    (hcall : ∀ {catalog : Catalog} {db next : Database} {call : Database.Call}, P catalog →
      db ∈ catalog.databases → db.perform call = .ok next →
      (∀ schema, call = .create schema → schema.Named) → P (catalog.setDatabase next)) :
    KeptByPlans P := by
  intro catalog session clock statement plan h hregular hplan
  have hreplaced {db next : Database} (call : Database.Call)
      (hselected : catalog.selected session = .ok db) (hnext : db.perform call = .ok next)
      (hnamed : ∀ schema, call = .create schema → schema.Named) :
      P (catalog.setDatabase next) ∧ P (catalog.setDatabase next) :=
    and_self_iff.2 (hcall h (mem_of_selected hselected) hnext hnamed)
  cases statement with
  | createDatabase name =>
    obtain ⟨hcheck, -, hchange⟩ := createDatabase_eq_ok.1 (plannedBy_of_plan hplan)
    rw [hchange]
    exact ⟨hcreate name h hcheck, h⟩
  | dropDatabase name =>
    obtain ⟨db, -, hchange⟩ := plannedBy_of_plan hplan
    rw [hchange]
    exact ⟨hdrop db.name h, h⟩
  | createTable schema =>
    obtain ⟨db, hselected, result, hnext, rfl⟩ := plan_createTable_eq_ok.1 hplan
    refine hreplaced (.create schema) hselected (map_eq_ok.2 ⟨_, hnext, rfl⟩) ?_
    rintro _ ⟨⟩
    exact hregular
  | dropTable table =>
    obtain ⟨db, hselected, found, -, next, hnext, rfl⟩ := plan_dropTable_eq_ok.1 hplan
    exact hreplaced (.drop found.name) hselected hnext nofun
  | insert table columns values =>
    obtain ⟨db, hselected, result, hresult, rfl⟩ := planInsert_eq_ok.1 hplan
    exact hreplaced (.insert table values columns) hselected (map_eq_ok.2 ⟨_, hresult, rfl⟩) nofun
  | update table items filter =>
    obtain ⟨db, hselected, _, -, _, -, _, -, result, hresult, rfl⟩ := planUpdate_eq_ok.1 hplan
    exact hreplaced (.update ..) hselected (map_eq_ok.2 ⟨_, hresult, rfl⟩) nofun
  | delete table filter =>
    obtain ⟨db, hselected, _, -, _, -, result, hresult, rfl⟩ := planDelete_eq_ok.1 hplan
    exact hreplaced (.delete ..) hselected (map_eq_ok.2 ⟨_, hresult, rfl⟩) nofun
  | _ =>
    have hnone : plan.change = catalog.unchanged := plannedBy_of_plan hplan
    rw [hnone]
    exact ⟨h, h⟩

theorem run (hP : KeptByPlans P) (h : P w.engine.catalog) (hregular : statement.Regular) :
    P (w.run statement).1.engine.catalog := by
  rw [Workspace.run]
  split
  next => exact h
  next plan hplan =>
    obtain ⟨hdone, hrefused⟩ := hP h hregular hplan
    have hafter : P (w.engine.apply plan.change).1.catalog := by
      rw [Engine.apply, Change.apply]
      rcases w.engine.disk.run plan.change.steps with ⟨changed, refused | ⟨⟩⟩
      · exact hrefused
      · exact hdone
    split
    next engine happly => rwa [happly] at hafter
    next engine cause happly => rwa [happly] at hafter

theorem runAs (hP : KeptByPlans P) (h : P w.engine.catalog) (hregular : statement.Regular)
    (text : Option String) : P (w.runAs text statement).1.engine.catalog := by
  have hrun := hP.run h hregular
  rw [Workspace.runAs]
  split
  next hresult => rwa [hresult] at hrun
  next hresult => rwa [hresult] at hrun

theorem runAll (hP : KeptByPlans P) {statements : List Statement} (h : P w.engine.catalog)
    (hregular : ∀ statement ∈ statements, statement.Regular) :
    P (w.runAll statements).1.engine.catalog := by
  induction statements generalizing w with
  | nil => exact h
  | cons statement rest ih =>
    obtain ⟨hfirst, hrest⟩ := List.forall_mem_cons.1 hregular
    have hrun := hP.runAs h hfirst none
    rw [Workspace.runAll]
    split
    next hresult => rwa [hresult] at hrun
    next hresult =>
      rw [hresult] at hrun
      exact ih hrun hrest

theorem execute (hP : KeptByPlans P) (h : P w.engine.catalog) (sql : String) :
    P (w.execute sql).1.engine.catalog := by
  rw [Workspace.execute]
  split
  next => exact h
  next statement hparse => exact hP.runAs h (regular_of_parse hparse) _

theorem executeScript (hP : KeptByPlans P) (h : P w.engine.catalog) (sql : String) :
    P (w.executeScript sql).1.engine.catalog := by
  rw [Workspace.executeScript]
  split
  next => exact h
  next statements hparse => exact hP.runAll h (regular_of_parseScript hparse)

end Catalog.KeptByPlans

theorem Catalog.keptByPlans_built : KeptByPlans Built :=
  KeptByPlans.of_changes (fun name h _ => h.setDatabase (Database.built_empty name))
    (fun _ h => ⟨h.distinct.sublist List.filter_sublist,
      fun other hother => h.databases other (List.mem_of_mem_filter hother)⟩)
    fun h hmem hnext hnamed => h.setDatabase ((h.databases _ hmem).perform hnext hnamed)

theorem Catalog.keptByPlans_named : KeptByPlans Named :=
  KeptByPlans.of_changes (fun _ h hcheck => h.setDatabase hcheck)
    (fun _ h other hother => h other (List.mem_of_mem_filter hother))
    fun h hmem hnext _ => h.setDatabase (Database.name_perform hnext ▸ h _ hmem)

theorem Catalog.keptByPlans_databasesReached : KeptByPlans DatabasesReached :=
  KeptByPlans.of_changes (fun name h _ => h.setDatabase (.new name))
    (fun _ h other hother => h other (List.mem_of_mem_filter hother))
    fun h hmem hnext _ => h.setDatabase ((h _ hmem).performed hnext)

/-- What texts lead to, from a catalog that knows no databases. -/
inductive Catalog.Reached : Catalog → Prop where
  | new (store : Option Store) : Reached ⟨store, []⟩
  | executed {w : Workspace} (h : Reached w.engine.catalog) (sql : String) :
    Reached (w.execute sql).1.engine.catalog
  | scripted {w : Workspace} (h : Reached w.engine.catalog) (sql : String) :
    Reached (w.executeScript sql).1.engine.catalog
  /-- It is opened anew as it was. -/
  | reopened {catalog opened : Catalog} {store : Store} {disk : Disk} (h : Reached catalog)
    (hopened : Catalog.ofStore store disk = .ok opened) (hsame : catalog.Renumbers opened) :
    Reached opened

/-- Runs texts one after the other, each of one statement. -/
def Workspace.executeAll (w : Workspace) (texts : List String) : Workspace :=
  texts.foldl (fun w sql => (w.execute sql).1) w

theorem Catalog.Reached.executeAll {w : Workspace} (h : w.engine.catalog.Reached)
    (texts : List String) : (w.executeAll texts).engine.catalog.Reached :=
  foldl_keeps (P := fun w : Workspace => w.engine.catalog.Reached) h fun _ hw sql _ => hw.executed sql

/-- **Texts build the databases that they lead to.** -/
theorem Catalog.Reached.built {catalog : Catalog} (h : catalog.Reached) : catalog.Built := by
  induction h with
  | new store => exact ⟨List.nodup_nil, nofun⟩
  | executed _ sql ih => exact keptByPlans_built.execute ih sql
  | scripted _ sql ih => exact keptByPlans_built.executeScript ih sql
  | reopened _ hopened hsame ih => exact ih.of_renumbers hopened hsame

theorem Catalog.Reached.named {catalog : Catalog} (h : catalog.Reached) : catalog.Named := by
  induction h with
  | new store => exact nofun
  | executed _ sql ih => exact keptByPlans_named.execute ih sql
  | scripted _ sql ih => exact keptByPlans_named.executeScript ih sql
  | reopened _ hopened hsame ih => exact ih.of_renumbers hopened hsame

/-- The databases of a catalog that texts lead to are such as calls lead to. -/
theorem Catalog.Reached.databases {catalog : Catalog} (h : catalog.Reached) :
    catalog.DatabasesReached := by
  induction h with
  | new store => exact nofun
  | executed _ sql ih => exact keptByPlans_databasesReached.execute ih sql
  | scripted _ sql ih => exact keptByPlans_databasesReached.executeScript ih sql
  | reopened _ hopened hsame ih => exact ih.of_renumbers hopened hsame

/-! ## A shop -/

def authors : Table where
  schema := ⟨"authors", [⟨"id", .int, true, false, none⟩]⟩
  primaryKey := ⟨"id", .int, true, false, none⟩
  rows := [⟨1, ⟨[("id", .ofNat 7)]⟩⟩]
  nextId := 2
  indexes := [⟨"id", [⟨.ofNat 7, [1]⟩]⟩]

def books : Table where
  schema := ⟨"books", [⟨"title", .string, true, false, none⟩, ⟨"author", .int, false, false, none⟩]⟩
  primaryKey := ⟨"title", .string, true, false, none⟩
  rows := [⟨1, ⟨[("title", .ofText "Beowulf"), ("author", none)]⟩⟩,
    ⟨2, ⟨[("title", .ofText "Emma"), ("author", .ofNat 7)]⟩⟩]
  nextId := 3
  indexes := [⟨"title", [⟨.ofText "Beowulf", [1]⟩, ⟨.ofText "Emma", [2]⟩]⟩]

/-- One of two books has an author that is known. -/
def shopTexts : List String :=
  ["CREATE DATABASE shop", "USE shop", "CREATE TABLE authors (id INT PRIMARY KEY)",
   "CREATE TABLE books (title STRING PRIMARY KEY, author INT)", "INSERT INTO authors VALUES (7)",
   "INSERT INTO books VALUES ('Beowulf', NULL)", "INSERT INTO books VALUES ('Emma', 7)"]

theorem reached_shop : Catalog.Reached ⟨none, [⟨"shop", [authors, books]⟩]⟩ := by
  have hshop : (Workspace.executeAll ⟨⟨.inMemory, ⟨.root, [], "", []⟩⟩, {}⟩
      shopTexts).engine.catalog = ⟨none, [⟨"shop", [authors, books]⟩]⟩ := by
    decide +kernel
  exact hshop ▸ Catalog.Reached.executeAll (.new none) shopTexts

end RelStore
