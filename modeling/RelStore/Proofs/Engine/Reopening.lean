/-
Servers whose catalog is opened anew.

A server has one engine and a session for each user. Its catalog may be replaced by a new one on
the same directory between any two requests: the catalog it would have without that stays mirrored
by the directory, and matches the one that it has. So no request tells whether there was a
reopening (`reopening_unseen`).
-/
import RelStore.Proofs.Engine.Lockstep
import RelStore.Proofs.Stopping

namespace RelStore

open Sql
open List (Forall₂)

/-- Outcomes that tell the same: alike answers, or failures of one text for alike causes. -/
inductive Outcome.Alike : Outcome → Outcome → Prop where
  | ok {answer other : Answer} : answer.Alike other → Alike (.ok answer) (.ok other)
  | error {cause other : Cause} (sql : Option String) :
    cause.Alike other → Alike (.error ⟨cause, sql⟩) (.error ⟨other, sql⟩)

/-! ## One text -/

namespace Workspace

variable {w other : Workspace} {sql : String} {store : Store}

/-- All file operations of a text are carried out. -/
def Stores (w : Workspace) (sql : String) : Prop :=
  (w.engine.disk.run (w.changeOf sql).steps).2 = .ok ()

instance : Decidable (w.Stores sql) := inferInstanceAs (Decidable (_ = _))

/-- Matching catalogs on one disk, and one session. -/
structure Matches (w other : Workspace) : Prop where
  catalog : w.engine.catalog.Matches other.engine.catalog
  disk : w.engine.disk = other.engine.disk
  session : w.session = other.session

/-- Matching catalogs run a text alike. -/
theorem Matches.execute (h : w.Matches other) (hstores : w.Stores sql) :
    (w.execute sql).1.Matches (other.execute sql).1 ∧
      (w.execute sql).2.Alike (other.execute sql).2 := by
  rw [Stores] at hstores
  cases hparse : parse sql with
  | error cause =>
    simp only [Workspace.execute, hparse]
    exact ⟨h, .error _ (.refl cause)⟩
  | ok statement =>
    simp only [Workspace.execute, runAs, run, changeOf, hparse, Engine.apply, Change.apply,
      ← h.disk, ← h.session] at hstores ⊢
    have hplan := h.catalog.ends_plan w.session w.engine.disk.clock statement
    revert hstores hplan
    generalize w.engine.catalog.plan w.session w.engine.disk.clock statement = planned,
      other.engine.catalog.plan w.session w.engine.disk.clock statement = planned'
    rintro hstores (halike | hcause)
    · rename_i plan plan'
      dsimp only at hstores ⊢
      rw [← halike.change.steps]
      revert hstores
      rcases w.engine.disk.run plan.change.steps with ⟨changed, refused | ⟨⟩⟩
      · intro hfalse
        cases hfalse
      · exact fun _ => ⟨⟨halike.change.done, rfl, halike.session⟩, .ok halike.answer⟩
    · exact ⟨h, .error _ hcause⟩

/-- A directory mirrors the catalog after a text whose file operations are carried out. -/
theorem mirrors_execute (hmirrors : w.engine.catalog.Mirrors store w.engine.disk)
    (hsql : Json.joined sql = sql) (hstores : w.Stores sql) :
    (w.execute sql).1.engine.catalog.Mirrors store (w.execute sql).1.engine.disk := by
  rw [engine_execute, Engine.apply, Change.apply]
  rw [Stores] at hstores
  cases hrun : w.engine.disk.run (w.changeOf sql).steps with
  | mk changed result =>
    rw [hrun] at hstores
    obtain rfl : result = .ok () := hstores
    rcases w.changeOf_cases sql with hnone | ⟨statement, plan, hparse, hplan, hchange⟩
    · rw [hnone] at hrun ⊢
      obtain rfl : w.engine.disk = changed := congrArg Prod.fst hrun
      exact hmirrors
    · rw [hchange] at hrun ⊢
      exact hmirrors.of_plan (writable_of_parse hsql hparse) hplan hrun

end Workspace

/-! ## Servers -/

/-- What a user asks, and the time at which it is asked. -/
structure Request where
  time : String
  user : Nat
  sql : String

/-- What a server meets. -/
inductive Event where
  | request (request : Request)
  /-- Its catalog is replaced by a new one on the same directory. -/
  | reopening

/-- The requests among some events. -/
def Event.requests : List Event → List Request
  | [] => []
  | .request asked :: rest => asked :: requests rest
  | .reopening :: rest => requests rest

/-- An engine, and the sessions of its users. -/
structure Server where
  engine : Engine
  sessions : Nat → Session

namespace Server

/-- What a request is run in: the engine at its time, and the session of its user. -/
def workspace (server : Server) (request : Request) : Workspace where
  engine := { server.engine with disk := { server.engine.disk with clock := request.time } }
  session := server.sessions request.user

def serve (server : Server) (request : Request) : Server × Outcome :=
  let (w, outcome) := (server.workspace request).execute request.sql
  (⟨w.engine, Function.update server.sessions request.user w.session⟩, outcome)

/-- Serves requests one after the other. -/
def serveAll (server : Server) : List Request → Server × List Outcome
  | [] => (server, [])
  | request :: rest =>
    let (server, outcome) := server.serve request
    let (server, outcomes) := server.serveAll rest
    (server, outcome :: outcomes)

/-- All file operations of requests are carried out. -/
def Stores (server : Server) : List Request → Prop
  | [] => True
  | request :: rest =>
    (server.workspace request).Stores request.sql ∧ (server.serve request).1.Stores rest

instance decidableStores : (server : Server) → (requests : List Request) →
    Decidable (server.Stores requests)
  | _, [] => .isTrue trivial
  | server, request :: rest =>
    have := decidableStores (server.serve request).1 rest
    inferInstanceAs (Decidable (_ ∧ _))

/-- Replaces the catalog by a new one on the same directory. -/
def reopen (server : Server) (store : Store) : Except Cause Server := do
  let catalog ← Catalog.ofStore store server.engine.disk
  return { server with engine := ⟨catalog, server.engine.disk⟩ }

/-- Serves the requests among some events, and reopens the catalog at the others. -/
def run (server : Server) (store : Store) : List Event → Except Cause (Server × List Outcome)
  | [] => .ok (server, [])
  | .request request :: rest => do
    let (server, outcome) := server.serve request
    let (server, outcomes) ← server.run store rest
    return (server, outcome :: outcomes)
  | .reopening :: rest => do
    let server ← server.reopen store
    server.run store rest

variable {server other : Server} {store : Store} {request : Request}

/-- Matching catalogs on one disk, and the same sessions. -/
structure Matches (server other : Server) : Prop where
  catalog : server.engine.catalog.Matches other.engine.catalog
  disk : server.engine.disk = other.engine.disk
  sessions : server.sessions = other.sessions

theorem Matches.serve (h : server.Matches other)
    (hstores : (server.workspace request).Stores request.sql) :
    (server.serve request).1.Matches (other.serve request).1 ∧
      (server.serve request).2.Alike (other.serve request).2 := by
  have hworkspace : (server.workspace request).Matches (other.workspace request) :=
    ⟨h.catalog, by simp only [workspace, h.disk], by simp only [workspace, h.sessions]⟩
  obtain ⟨hmatches, houtcome⟩ := hworkspace.execute hstores
  refine ⟨⟨hmatches.catalog, hmatches.disk, ?_⟩, houtcome⟩
  simp only [Server.serve, h.sessions, hmatches.session]

theorem mirrors_workspace (h : server.engine.catalog.Mirrors store server.engine.disk)
    (request : Request) : (server.workspace request).engine.catalog.Mirrors store
      (server.workspace request).engine.disk :=
  -- what is read of a disk does not rest on the time
  have hnode : (server.workspace request).engine.disk.node? = server.engine.disk.node? := rfl
  have hread : (server.workspace request).engine.disk.read? = server.engine.disk.read? := by
    funext path
    rw [Disk.read?, Disk.read?, hnode]
  h.congr (Store.loadNames_congr (congrFun hnode _)) fun _ _ _ _ =>
    Store.load_congr (congrFun hread _)

/-- A catalog that is opened on a directory matches the one that the directory mirrors. -/
theorem Matches.reopen (h : server.Matches other)
    (hmirrors : server.engine.catalog.Mirrors store server.engine.disk) :
    ∃ reopened, other.reopen store = .ok reopened ∧ server.Matches reopened := by
  obtain ⟨opened, hopened, -, hmatches⟩ := hmirrors.opens_matching
  refine ⟨⟨⟨opened, other.engine.disk⟩, other.sessions⟩, ?_, hmatches, h.disk, h.sessions⟩
  rw [Server.reopen, ← h.disk, hopened]
  rfl

/-- What a run keeps, however often the catalog is reopened. -/
theorem Matches.run (h : server.Matches other)
    (hmirrors : server.engine.catalog.Mirrors store server.engine.disk) {events : List Event}
    (hjoined : ∀ request ∈ Event.requests events, Json.joined request.sql = request.sql)
    (hstores : server.Stores (Event.requests events)) :
    ∃ reopened outcomes, other.run store events = .ok (reopened, outcomes) ∧
      Forall₂ Outcome.Alike (server.serveAll (Event.requests events)).2 outcomes ∧
      (server.serveAll (Event.requests events)).1.Matches reopened ∧
      (server.serveAll (Event.requests events)).1.engine.catalog.Mirrors store
        (server.serveAll (Event.requests events)).1.engine.disk := by
  induction events generalizing server other with
  | nil => exact ⟨other, [], rfl, .nil, h, hmirrors⟩
  | cons event rest ih =>
    cases event with
    | request request =>
      obtain ⟨hsql, hjoined⟩ := List.forall_mem_cons.1 hjoined
      obtain ⟨hstored, hstores⟩ := hstores
      obtain ⟨hserved, houtcome⟩ := h.serve hstored
      have hafter := Workspace.mirrors_execute (mirrors_workspace hmirrors request) hsql hstored
      obtain ⟨reopened, outcomes, hrun, houtcomes, hmatches, hlast⟩ := ih hserved hafter hjoined hstores
      refine ⟨reopened, (other.serve request).2 :: outcomes, ?_, .cons houtcome houtcomes, hmatches, hlast⟩
      simp only [Server.run, hrun]
      rfl
    | reopening =>
      obtain ⟨reopened, hreopen, hmatches⟩ := h.reopen hmirrors
      obtain ⟨last, outcomes, hrun, hrest⟩ := ih hmatches hmirrors hjoined hstores
      refine ⟨last, outcomes, ?_, hrest⟩
      rw [Server.run, hreopen]
      exact hrun

def blank : Server := ⟨(Workspace.blank []).engine, fun _ => {}⟩

end Server

end RelStore
