/-
Databases that could not be loaded, in a process that has several catalogs.

A process opens catalogs on a directory, one for each connection, and runs statements at them. None
of them knows a database whose document does not load. It is kept, its document and its name in the
list, exactly up to the first change that loses it (`Host.keeps_run_iff`): a database that is made
or dropped, by a statement or for a connection. So to make the one that is there already, or any
other, does away with it (`not_keeps_shop`).
-/
import RelStore.Connection
import RelStore.Proofs.Catalog.Skipped
import RelStore.Proofs.Stopping

namespace RelStore

open Sql

/-- What is done at a directory. -/
inductive Deed where
  /-- A text is run at one of the catalogs, in a session. -/
  | statement (place : Nat) (session : Session) (sql : String)
  | connection (url : String)

structure Visit where
  time : String
  deed : Deed

/-- A disk and the catalogs that were opened on it. -/
structure Host where
  disk : Disk
  catalogs : List Catalog

/-- A connection leads to a store. -/
def Visit.LeadsTo (visit : Visit) (here : Path) (store : Store) : Prop :=
  ∀ url, visit.deed = .connection url → ∀ target, Target.ofUrl url urlDirectory = .ok target →
    Store.resolve here target.directory = store

namespace Host

/-- The disk at the time of a visit. -/
def diskAt (host : Host) (visit : Visit) : Disk := { host.disk with clock := visit.time }

def meet (host : Host) (visit : Visit) : Host :=
  match visit.deed with
  | .statement place session sql =>
    match host.catalogs[place]? with
    | some catalog =>
      let w := (Workspace.execute ⟨⟨catalog, host.diskAt visit⟩, session⟩ sql).1
      ⟨w.engine.disk, host.catalogs.set place w.engine.catalog⟩
    | none => host
  | .connection url =>
    match Workspace.connect (host.diskAt visit) url with
    | (disk, .ok w) => ⟨disk, host.catalogs ++ [w.engine.catalog]⟩
    | (disk, .error _) => ⟨disk, host.catalogs⟩

def run (host : Host) (visits : List Visit) : Host := visits.foldl meet host

/-- A visit asks a catalog for a change. -/
inductive Asks (host : Host) (visit : Visit) : Catalog → Change → Prop where
  | statement {place : Nat} {session : Session} {sql : String} {catalog : Catalog}
    (hdeed : visit.deed = .statement place session sql)
    (hcatalog : host.catalogs[place]? = some catalog) :
    Asks host visit catalog (Workspace.changeOf ⟨⟨catalog, host.diskAt visit⟩, session⟩ sql)
  | connection {url : String} {target : Target} {catalog : Catalog} {change : Change}
    (hdeed : visit.deed = .connection url) (htarget : Target.ofUrl url urlDirectory = .ok target)
    (hopened : Catalog.ofStore (.resolve host.disk.here target.directory) (host.diskAt visit) =
      .ok catalog)
    (hnew : catalog.database? target.database = none)
    (hchange : catalog.createDatabase target.database visit.time = .ok change) :
    Asks host visit catalog change

/-- A visit loses a database that is not known: it asks for a change that does. -/
def Loses (host : Host) (store : Store) (name : String) (visit : Visit) : Prop :=
  ∃ catalog change, host.Asks visit catalog change ∧
    catalog.Loses store name visit.time (host.diskAt visit) change

variable {host : Host} {visit : Visit} {visits : List Visit} {store : Store} {disk : Disk}
  {catalog : Catalog} {change : Change} {name text : String} {listed : List String}

/-- What a visit asks for is carried out. -/
theorem disk_meet_of_asks (h : host.Asks visit catalog change) :
    (host.meet visit).disk = (change.apply (host.diskAt visit)).1 := by
  cases h with
  | @statement place session sql _ hdeed hcatalog =>
    simp only [meet, hdeed, hcatalog, Workspace.engine_execute, Engine.apply]
  | @connection url target _ _ hdeed htarget hopened hnew hchange =>
    have hhere : (host.diskAt visit).here = host.disk.here := rfl
    have hclock : (host.diskAt visit).clock = visit.time := rfl
    simp only [meet, hdeed, Workspace.connect, htarget, Workspace.ofSettings, Catalog.ofDirectory,
      hhere, hopened, Workspace.enter, hnew, hclock, Engine.applyPlanned, hchange, Engine.apply]
    rcases change.apply (host.diskAt visit) with ⟨changed, known, cause | ⟨⟩⟩ <;> rfl

/-- A database is listed and has a document that does not load, and no catalog knows it. -/
structure Skips (host : Host) (store : Store) (name text : String) (listed : List String) : Prop where
  disk : store.Skips name text listed host.disk
  catalogs : ∀ catalog ∈ host.catalogs, catalog.Ignores store name

/-- What is read does not rest on the time. -/
theorem Skips.diskAt (h : host.Skips store name text listed) (visit : Visit) :
    store.Skips name text listed (host.diskAt visit) := by
  have hnode : (host.diskAt visit).node? = host.disk.node? := rfl
  refine h.disk.of_reads (Store.loadNames_congr (congrFun hnode _)) fun other => ?_
  rw [Disk.read?, Disk.read?, hnode]

/-- The catalog that is asked does not know the database. -/
theorem Skips.ignores_of_asks (h : host.Skips store name text listed)
    (hleads : visit.LeadsTo host.disk.here store) (hasks : host.Asks visit catalog change) :
    catalog.Ignores store name := by
  cases hasks with
  | statement _ hcatalog => exact h.catalogs catalog (List.mem_of_getElem? hcatalog)
  | @connection url target _ _ hdeed htarget hopened _ _ =>
    rw [hleads url hdeed target htarget] at hopened
    exact Catalog.ignores_of_ofStore (h.diskAt visit) hopened

theorem exists_plannedBy_changeOf (w : Workspace) (sql : String) : ∃ statement,
    w.engine.catalog.PlannedBy w.engine.disk.clock (w.changeOf sql) statement := by
  rcases w.changeOf_cases sql with hnone | ⟨statement, plan, -, hplan, hchange⟩
  · exact ⟨.showDatabases, hnone⟩
  · exact ⟨statement, hchange ▸ Catalog.plannedBy_of_plan hplan⟩

theorem Skips.meet_statement (h : host.Skips store name text listed) {place : Nat}
    {session : Session} {sql : String} (hdeed : visit.deed = .statement place session sql)
    (hnot : ¬ host.Loses store name visit) : (host.meet visit).Skips store name text listed := by
  cases hcatalog : host.catalogs[place]? with
  | none =>
    simp only [Host.meet, hdeed, hcatalog]
    exact h
  | some catalog =>
    obtain ⟨statement, hplanned⟩ :=
      exists_plannedBy_changeOf ⟨⟨catalog, host.diskAt visit⟩, session⟩ sql
    obtain ⟨hkept, hignores⟩ := Catalog.skips_of_planned (h.diskAt visit)
      (h.catalogs catalog (List.mem_of_getElem? hcatalog)) hplanned
      fun hloses => hnot ⟨catalog, _, .statement hdeed hcatalog, hloses⟩
    simp only [Host.meet, hdeed, hcatalog, Workspace.engine_execute, Engine.apply]
    refine ⟨hkept, fun other hother => ?_⟩
    rcases List.mem_or_eq_of_mem_set hother with hin | rfl
    · exact h.catalogs other hin
    · exact hignores

/-- A catalog that a connection adds does not know the database either. -/
theorem Skips.meet_connection (h : host.Skips store name text listed)
    (hleads : visit.LeadsTo host.disk.here store) {url : String}
    (hdeed : visit.deed = .connection url) (hnot : ¬ host.Loses store name visit) :
    (host.meet visit).Skips store name text listed := by
  have hdisk := h.diskAt visit
  have hhere : (host.diskAt visit).here = host.disk.here := rfl
  have hclock : (host.diskAt visit).clock = visit.time := rfl
  have hadd {known : Catalog} (hignores : known.Ignores store name) :
      ∀ other ∈ host.catalogs ++ [known], other.Ignores store name :=
    List.forall_mem_append.2 ⟨h.catalogs, List.forall_mem_singleton.2 hignores⟩
  simp only [Host.meet, hdeed, Workspace.connect]
  cases htarget : Target.ofUrl url urlDirectory with
  | error cause => exact ⟨hdisk, h.catalogs⟩
  | ok target =>
    have hstore := hleads url hdeed target htarget
    simp only [Workspace.ofSettings, Catalog.ofDirectory, hhere, hstore]
    cases hopened : Catalog.ofStore store (host.diskAt visit) with
    | error cause => exact ⟨hdisk, h.catalogs⟩
    | ok catalog =>
      have hignores := Catalog.ignores_of_ofStore hdisk hopened
      simp only [Workspace.enter, hclock]
      cases hnew : catalog.database? target.database with
      | some db => exact ⟨hdisk, hadd hignores⟩
      | none =>
        cases hchange : catalog.createDatabase target.database visit.time with
        | error cause => exact ⟨hdisk, h.catalogs⟩
        | ok change =>
          have hasks : host.Asks visit catalog change :=
            .connection hdeed htarget (hstore ▸ hopened) hnew hchange
          obtain ⟨hkept, hafter⟩ := Catalog.skips_of_createDatabase hdisk hignores hchange
            fun hloses => hnot ⟨catalog, change, hasks, hloses⟩
          simp only [Engine.applyPlanned, Engine.apply]
          revert hkept hafter
          rcases change.apply (host.diskAt visit) with ⟨changed, known, cause | ⟨⟩⟩
          · exact fun hkept _ => ⟨hkept, h.catalogs⟩
          · exact fun hkept hafter => ⟨hkept, hadd hafter⟩

theorem Skips.meet (h : host.Skips store name text listed)
    (hleads : visit.LeadsTo host.disk.here store) (hnot : ¬ host.Loses store name visit) :
    (host.meet visit).Skips store name text listed := by
  cases hdeed : visit.deed with
  | statement place session sql => exact h.meet_statement hdeed hnot
  | connection url => exact h.meet_connection hleads hdeed hnot

/-- **What a visit leaves of a database that is not known**: its document and its name are kept
exactly if the visit does not lose it. -/
theorem keeps_meet_iff (h : host.Skips store name text listed)
    (hleads : visit.LeadsTo host.disk.here store) :
    store.Keeps name text (host.meet visit).disk ↔ ¬ host.Loses store name visit := by
  constructor
  · rintro hkeeps ⟨catalog, change, hasks, hloses⟩
    rw [disk_meet_of_asks hasks] at hkeeps
    exact hloses.not_keeps (h.diskAt visit) (h.ignores_of_asks hleads hasks) hkeeps
  · exact fun hnot => (h.meet hleads hnot).disk.keeps

/-! ## Runs -/

theorem here_meet (host : Host) (visit : Visit) : (host.meet visit).disk.here = host.disk.here := by
  have happly (change : Change) : (change.apply (host.diskAt visit)).1.here = host.disk.here := by
    rw [Change.apply_disk]
    exact Disk.here_run (host.diskAt visit) change.steps
  cases hdeed : visit.deed with
  | statement place session sql =>
    cases hcatalog : host.catalogs[place]? with
    | none => simp only [meet, hdeed, hcatalog]
    | some catalog =>
      rw [disk_meet_of_asks (.statement hdeed hcatalog)]
      exact happly _
  | connection url =>
    simp only [meet, hdeed, Workspace.connect]
    cases Target.ofUrl url urlDirectory with
    | error cause => rfl
    | ok target =>
      simp only [Workspace.ofSettings]
      cases Catalog.ofDirectory (some target.directory) (host.diskAt visit) with
      | error cause => rfl
      | ok catalog =>
        simp only [Workspace.enter]
        cases catalog.database? target.database with
        | some db => rfl
        | none =>
          cases catalog.createDatabase target.database (host.diskAt visit).clock with
          | error cause => rfl
          | ok change =>
            simp only [Engine.applyPlanned, Engine.apply]
            have hhere := happly change
            revert hhere
            rcases change.apply (host.diskAt visit) with ⟨changed, known, cause | ⟨⟩⟩ <;> exact id

theorem Skips.keeps_take_iff (h : host.Skips store name text listed)
    (hleads : ∀ visit ∈ visits, visit.LeadsTo host.disk.here store) :
    (∀ n, store.Keeps name text (host.run (visits.take n)).disk) ↔
      ∀ n visit, visits[n]? = some visit → ¬ (host.run (visits.take n)).Loses store name visit := by
  induction visits generalizing host with
  | nil =>
    refine iff_of_true (fun n => ?_) nofun
    rw [List.take_nil]
    exact h.disk.keeps
  | cons visit rest ih =>
    obtain ⟨hvisit, hrest⟩ := List.forall_mem_cons.1 hleads
    by_cases hloses : host.Loses store name visit
    · refine iff_of_false (fun hall => ?_) fun hnone => hnone 0 visit rfl hloses
      exact (keeps_meet_iff h hvisit).1 (hall 1) hloses
    · have hafter := ih (h.meet hvisit hloses) (by rwa [here_meet])
      constructor
      · intro hall n
        cases n with
        | zero => rintro _ ⟨⟩; exact hloses
        | succ n => exact hafter.1 (fun n => hall (n + 1)) n
      · intro hnone n
        cases n with
        | zero => exact h.disk.keeps
        | succ n => exact hafter.2 (fun n => hnone (n + 1)) n

/-- **A database that could not be loaded is kept throughout a run exactly if nothing in it loses
the database**: if no visit saves a new database in its place, or saves the names after another
database was made or dropped. The run begins with a catalog that is opened on the directory, and
goes on with statements at all catalogs that are open, in any sessions, and with connections that
open more. -/
theorem keeps_run_iff (hskips : store.Skips name text listed disk)
    (hopened : Catalog.ofStore store disk = .ok catalog)
    (hleads : ∀ visit ∈ visits, visit.LeadsTo disk.here store) :
    (∀ n, store.Keeps name text ((⟨disk, [catalog]⟩ : Host).run (visits.take n)).disk) ↔
      ∀ n visit, visits[n]? = some visit →
        ¬ ((⟨disk, [catalog]⟩ : Host).run (visits.take n)).Loses store name visit :=
  Skips.keeps_take_iff
    ⟨hskips, List.forall_mem_singleton.2 (Catalog.ignores_of_ofStore hskips hopened)⟩ hleads

/-! ## A shop -/

/-- A directory that lists a shop, whose document breaks off. -/
def brokenShop : Disk where
  here := .root
  entries := [(Path.root.child "data", .directory),
    ((Path.root.child "data").child "catalog.json", .file (Store.namesJson ["shop"]).pretty),
    ((Path.root.child "data").child "databases", .directory),
    (((Path.root.child "data").child "databases").child "shop.json", .file "\x7b")]
  clock := ""

theorem skips_brokenShop :
    Store.Skips ⟨Path.root.child "data"⟩ "shop" "\x7b" ["shop"] brokenShop := by
  have hfails : Store.load ⟨Path.root.child "data"⟩ brokenShop "shop" =
      .error (.notJson "/data/databases/shop.json") := by
    decide +kernel
  refine ⟨by decide +kernel, List.mem_singleton_self _, by decide +kernel, ⟨_, hfails⟩, ?_⟩
  intro other hother db hload
  rw [List.mem_singleton.1 hother, hfails] at hload
  cases hload

theorem ofStore_brokenShop : Catalog.ofStore ⟨Path.root.child "data"⟩ brokenShop =
    .ok ⟨some ⟨Path.root.child "data"⟩, []⟩ := by
  decide +kernel

def shopHost : Host := ⟨brokenShop, [⟨some ⟨Path.root.child "data"⟩, []⟩]⟩

/-- A statement at the first catalog. -/
def asking (sql : String) : Visit := ⟨"", .statement 0 {} sql⟩

theorem keeps_run_iff_shop :
    Store.Skips ⟨Path.root.child "data"⟩ "shop" "\x7b" ["shop"] brokenShop ∧
      Catalog.ofStore ⟨Path.root.child "data"⟩ brokenShop =
        .ok ⟨some ⟨Path.root.child "data"⟩, []⟩ ∧
      (∀ visit ∈ [asking "USE shop", asking "CREATE DATABASE crm"],
        visit.LeadsTo brokenShop.here ⟨Path.root.child "data"⟩) ∧
      ((∀ n, Store.Keeps ⟨Path.root.child "data"⟩ "shop" "\x7b"
          (shopHost.run ([asking "USE shop", asking "CREATE DATABASE crm"].take n)).disk) ↔
        ∀ n visit, [asking "USE shop", asking "CREATE DATABASE crm"][n]? = some visit →
          ¬ (shopHost.run ([asking "USE shop", asking "CREATE DATABASE crm"].take n)).Loses
            ⟨Path.root.child "data"⟩ "shop" visit) := by
  have hleads : ∀ visit ∈ [asking "USE shop", asking "CREATE DATABASE crm"],
      visit.LeadsTo brokenShop.here ⟨Path.root.child "data"⟩ := by
    simp only [List.forall_mem_cons]
    exact ⟨nofun, nofun, nofun⟩
  exact ⟨skips_brokenShop, ofStore_brokenShop, hleads,
    keeps_run_iff skips_brokenShop ofStore_brokenShop hleads⟩

/-- The shop is taken off the list, or its document is replaced, and nothing is dropped. -/
theorem not_keeps_shop :
    Store.Skips ⟨Path.root.child "data"⟩ "shop" "\x7b" ["shop"] brokenShop ∧
      Catalog.ofStore ⟨Path.root.child "data"⟩ brokenShop =
        .ok ⟨some ⟨Path.root.child "data"⟩, []⟩ ∧
      Store.loadNames ⟨Path.root.child "data"⟩
        (shopHost.run [asking "CREATE DATABASE crm"]).disk = .ok ["crm"] ∧
      (shopHost.run [asking "CREATE DATABASE shop"]).disk.read?
        (Store.databasePath ⟨Path.root.child "data"⟩ "shop") ≠ some "\x7b" ∧
      (shopHost.run [⟨"", .connection "keeldb://localhost/shop"⟩]).disk.read?
        (Store.databasePath ⟨Path.root.child "data"⟩ "shop") ≠ some "\x7b" := by
  refine ⟨skips_brokenShop, ofStore_brokenShop, ?_, ?_, ?_⟩
  · decide +kernel
  · decide +kernel
  · decide +kernel

end Host

end RelStore
