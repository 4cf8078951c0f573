/-
Users in different databases.

Each user of a server has a session in a database of their own, and sends texts that neither
choose, make nor drop a database. Two requests of different users can then change places
(`serve_comm`), and so any order of the requests of all users comes to the same as any other that
keeps the order of each user (`orders_alike`).
-/
import RelStore.Proofs.Document.Saving
import RelStore.Proofs.Engine.Effect
import RelStore.Proofs.Engine.Reopening
import RelStore.Proofs.Reached

namespace RelStore

open Text (sameName)

/-- Two sessions are in different databases, if in any. -/
def Session.Apart (session other : Session) : Prop :=
  ∀ name ∈ session.database, ∀ name' ∈ other.database, sameName name name' = false

instance {session other : Session} : Decidable (session.Apart other) :=
  inferInstanceAs (Decidable (∀ _ ∈ _, ∀ _ ∈ _, _ = _))

/-- A request of one of some users that neither chooses, makes nor drops a database. -/
structure Request.IsLocal (users : Nat → Prop) (request : Request) : Prop where
  user : users request.user
  text : IsLocalText request.sql

/-! ## Effects -/

namespace Effect

variable {effect effect' : Effect} {catalog : Catalog} {session other : Session} {store : Option Store}
  {disk changed : Disk} {clock clock' : String} {same : String → String → Prop}

theorem exists_name_of_selected {db : Database} (h : catalog.selected session = .ok db) :
    ∃ name ∈ session.database, sameName db.name name = true := by
  rw [Catalog.selected] at h
  split at h
  next name hname =>
    exact ⟨name, hname, by simpa using List.find?_some (Catalog.requireDatabase_eq_ok.1 h)⟩
  next => cases h

/-- Databases that are selected in sessions apart have different names. -/
theorem sameName_eq_false_of_apart {db known : Database} (h : catalog.selected session = .ok db)
    (h' : catalog.selected other = .ok known) (hapart : session.Apart other) :
    sameName db.name known.name = false := by
  obtain ⟨name, hname, hsame⟩ := exists_name_of_selected h
  obtain ⟨name', hname', hsame'⟩ := exists_name_of_selected h'
  rw [sameName_congr_left hsame, sameName_congr hsame']
  exact hapart name hname name' hname'

theorem store_after (effect : Effect) (catalog : Catalog) :
    (effect.after catalog).store = catalog.store := by
  cases effect with
  | written next _ _ => exact Catalog.store_setDatabase catalog next
  | _ => rfl

/-- A session in another database selects what it did. -/
theorem Keeps.selected_after (h : effect.Keeps (catalog.selected session)) (hapart : session.Apart other) :
    (effect.after catalog).selected other = catalog.selected other := by
  cases effect with
  | written next rowCount message =>
    obtain ⟨db, hdb, hname⟩ := h next rowCount message rfl
    obtain ⟨own, hown, hsame⟩ := exists_name_of_selected hdb
    refine Catalog.selected_setDatabase fun name hother => ?_
    rw [hname, sameName_congr_left hsame]
    exact hapart own hown name hother
  | _ => rfl

theorem Keeps.names_after (h : effect.Keeps (catalog.selected session))
    (hdistinct : DistinctNames Database.name catalog.databases) :
    (effect.after catalog).names = catalog.names := by
  cases effect with
  | written next rowCount message =>
    obtain ⟨db, hdb, hname⟩ := h next rowCount message rfl
    exact Catalog.names_setDatabase hdistinct (Catalog.mem_of_selected hdb) hname
  | _ => rfl

theorem after_comm (h : effect.Keeps (catalog.selected session))
    (h' : effect'.Keeps (catalog.selected other)) (hapart : session.Apart other) :
    effect'.after (effect.after catalog) = effect.after (effect'.after catalog) := by
  cases effect with
  | written next rowCount message =>
    cases effect' with
    | written next' rowCount' message' =>
      obtain ⟨db, hdb, hname⟩ := h next rowCount message rfl
      obtain ⟨db', hdb', hname'⟩ := h' next' rowCount' message' rfl
      have hknown {db next : Database} {session : Session} (hdb : catalog.selected session = .ok db)
          (hname : next.name = db.name) : (catalog.database? next.name).isSome = true :=
        Catalog.isSome_database?_iff.2
          ⟨db, Catalog.mem_of_selected hdb, hname ▸ Text.sameName_refl _⟩
      refine Catalog.setDatabase_comm (hknown hdb hname) (hknown hdb' hname') ?_
      rw [hname, hname']
      exact sameName_eq_false_of_apart hdb hdb' hapart
    | _ => rfl
  | _ => cases effect' <;> rfl

/-- Steps of an effect are carried out or refused on disks that are alike. -/
theorem alike_run_steps (h : disk.Alike same changed) (hcalm : store = none ∨ disk.outages = [])
    (hcalm' : store = none ∨ changed.outages = []) (effect : Effect)
    (hsame : ∀ db : Database,
      same (db.toDocument clock).toJson.pretty (db.toDocument clock').toJson.pretty) :
    (disk.run (effect.steps store clock)).1.Alike same (changed.run (effect.steps store clock')).1 ∧
      (disk.run (effect.steps store clock)).2 = (changed.run (effect.steps store clock')).2 := by
  cases effect with
  | written next _ _ =>
    cases store with
    | none => exact ⟨h, rfl⟩
    | some store =>
      refine h.run (hcalm.resolve_left nofun) (hcalm'.resolve_left nofun)
        (Store.alike_saveSteps store next (hsame next)) fun step _ => Disk.within_true step.op
  | _ => cases store <;> exact ⟨h, rfl⟩

/-- Steps of effects in different databases can change places. -/
theorem run_steps_comm (hnamed : catalog.Named) (hcalm : store = none ∨ disk.outages = [])
    (h : effect.Keeps (catalog.selected session)) (h' : effect'.Keeps (catalog.selected other))
    (hapart : session.Apart other) (clock clock' : String) :
    Disk.Same ((disk.run (effect.steps store clock)).1.run (effect'.steps store clock')).1
        ((disk.run (effect'.steps store clock')).1.run (effect.steps store clock)).1 ∧
      ((disk.run (effect.steps store clock)).1.run (effect'.steps store clock')).2 =
        (disk.run (effect'.steps store clock')).2 ∧
      ((disk.run (effect'.steps store clock')).1.run (effect.steps store clock)).2 =
        (disk.run (effect.steps store clock)).2 := by
  cases store with
  | none => cases effect <;> cases effect' <;> exact ⟨.refl _, rfl, rfl⟩
  | some store =>
    cases effect with
    | written next rowCount message =>
      cases effect' with
      | written next' rowCount' message' =>
        obtain ⟨db, hdb, hname⟩ := h next rowCount message rfl
        obtain ⟨db', hdb', hname'⟩ := h' next' rowCount' message' rfl
        refine Store.run_saveSteps_comm (hcalm.resolve_left nofun) ?_ ?_ ?_ clock clock'
        · exact hname ▸ hnamed db (Catalog.mem_of_selected hdb)
        · exact hname' ▸ hnamed db' (Catalog.mem_of_selected hdb')
        · intro heq
          have hne := sameName_eq_false_of_apart hdb hdb' hapart
          rw [← hname, ← hname', heq, Text.sameName_refl] at hne
          cases hne
      | _ => exact ⟨.refl _, rfl, rfl⟩
    | _ => cases effect' <;> exact ⟨.refl _, rfl, rfl⟩

end Effect

namespace Server

variable {server other : Server} {request next : Request} {requests others : List Request}
  {effect : Effect} {same : String → String → Prop} {calm : Prop} {users : Nat → Prop} {user : Nat}
  {sql : String}

/-! ## One request -/

/-- Databases of different names that new databases can have, and some users in different ones. -/
structure Divided (users : Nat → Prop) (server : Server) : Prop where
  distinct : DistinctNames Database.name server.engine.catalog.databases
  named : server.engine.catalog.Named
  apart : ∀ user other, users user → users other → user ≠ other →
    (server.sessions user).Apart (server.sessions other)

/-- No outage can come to what is saved. -/
def Calm (server : Server) : Prop :=
  server.engine.catalog.store = none ∨ server.engine.disk.outages = []

/-- Its disk at a time. -/
def diskAt (server : Server) (time : String) : Disk := { server.engine.disk with clock := time }

/-- Saves what an effect asks for. -/
def save (server : Server) (request : Request) (effect : Effect) : Disk × Except Cause Unit :=
  (server.diskAt request.time).run (effect.steps server.engine.catalog.store request.time)

/-- Serves a request that has an effect. -/
def serveEffect (server : Server) (request : Request) (effect : Effect) : Server × Outcome :=
  (⟨⟨effect.after server.engine.catalog, (server.save request effect).1⟩, server.sessions⟩,
    effect.outcome request.sql (server.save request effect).2)

/-- A text of a user has one effect wherever the user selects a database and all have some names. -/
theorem exists_effect (h : IsLocalText sql) (user : Nat) (selected : Except Cause Database)
    (names : List String) : ∃ effect : Effect, effect.Keeps selected ∧
      ∀ (server : Server) (request : Request), request.user = user → request.sql = sql →
        server.engine.catalog.selected (server.sessions user) = selected →
          server.engine.catalog.names = names →
            server.serve request = server.serveEffect request effect := by
  obtain ⟨effect, hkeeps, heffect⟩ := h.exists_effect selected names
  refine ⟨effect, hkeeps, ?_⟩
  rintro server request rfl rfl hselected hnames
  have hexecute := heffect (server.workspace request) hselected hnames
  rw [serve, hexecute]
  exact Prod.ext (congrArg (Server.mk _) (Function.update_eq_self _ _)) rfl

/-- Two servers know the same, and where no outages are meant, their disks are alike. -/
structure Follows (calm : Prop) (same : String → String → Prop) (server other : Server) : Prop where
  catalog : server.engine.catalog = other.engine.catalog
  sessions : server.sessions = other.sessions
  disk : calm → server.engine.disk.Alike same other.engine.disk
  calm : calm → server.Calm ∧ other.Calm

theorem Follows.refl (h : calm → server.Calm) : Follows calm Eq server server :=
  ⟨rfl, rfl, fun _ => Disk.Same.refl _, fun hcalm => ⟨h hcalm, h hcalm⟩⟩

theorem Follows.trans {last : Server} (h : Follows calm Eq server other)
    (h' : Follows calm same other last) : Follows calm same server last :=
  ⟨h.catalog.trans h'.catalog, h.sessions.trans h'.sessions,
    fun hcalm => (h.disk hcalm).trans_eq (h'.disk hcalm),
    fun hcalm => ⟨(h.calm hcalm).1, (h'.calm hcalm).2⟩⟩

theorem calm_serveEffect (h : server.Calm) (request : Request) (effect : Effect) :
    (server.serveEffect request effect).1.Calm := by
  refine h.imp (fun hnone => ?_) fun hnone => ?_
  · exact (effect.store_after server.engine.catalog).trans hnone
  · exact @Disk.outages_run (server.diskAt request.time) hnone _

theorem Follows.serveEffect (h : Follows calm same server other) (effect : Effect)
    (hsql : next.sql = request.sql) (hsame : ∀ db : Database,
      same (db.toDocument request.time).toJson.pretty (db.toDocument next.time).toJson.pretty) :
    Follows calm same (server.serveEffect request effect).1 (other.serveEffect next effect).1 ∧
      (calm → (server.serveEffect request effect).2 = (other.serveEffect next effect).2) := by
  have hsave (hcalm : calm) : (server.save request effect).1.Alike same (other.save next effect).1 ∧
      (server.save request effect).2 = (other.save next effect).2 := by
    have hdisk : (server.diskAt request.time).Alike same (other.diskAt next.time) :=
      ⟨(h.disk hcalm).here, (h.disk hcalm).entries⟩
    have hother := (h.calm hcalm).2
    rw [Calm, ← h.catalog] at hother
    rw [save, save, ← h.catalog]
    exact effect.alike_run_steps hdisk (h.calm hcalm).1 hother hsame
  refine ⟨⟨?_, h.sessions, fun hcalm => (hsave hcalm).1, fun hcalm => ?_⟩, fun hcalm => ?_⟩
  · exact congrArg effect.after h.catalog
  · exact ⟨calm_serveEffect (h.calm hcalm).1 request effect,
      calm_serveEffect (h.calm hcalm).2 next effect⟩
  · rw [Server.serveEffect, Server.serveEffect, (hsave hcalm).2, hsql]

/-- One text of one user is served alike. -/
theorem Follows.serve (h : Follows calm same server other) (hlocal : IsLocalText request.sql)
    (huser : next.user = request.user) (hsql : next.sql = request.sql) (hsame : ∀ db : Database,
      same (db.toDocument request.time).toJson.pretty (db.toDocument next.time).toJson.pretty) :
    Follows calm same (server.serve request).1 (other.serve next).1 ∧
      (calm → (server.serve request).2 = (other.serve next).2) := by
  obtain ⟨effect, -, heffect⟩ := exists_effect hlocal request.user
    (server.engine.catalog.selected (server.sessions request.user)) server.engine.catalog.names
  have hother := heffect other next huser hsql (by rw [h.catalog, h.sessions]) (by rw [h.catalog])
  rw [heffect server request rfl rfl rfl rfl, hother]
  exact h.serveEffect effect hsql hsame

theorem Divided.serve (h : server.Divided users) (hlocal : IsLocalText request.sql) :
    (server.serve request).1.Divided users := by
  obtain ⟨effect, hkeeps, heffect⟩ := exists_effect hlocal request.user
    (server.engine.catalog.selected (server.sessions request.user)) server.engine.catalog.names
  rw [heffect server request rfl rfl rfl rfl]
  cases effect with
  | written next rowCount message =>
    obtain ⟨db, hdb, hname⟩ := hkeeps next rowCount message rfl
    exact ⟨Catalog.distinct_setDatabase h.distinct next,
      h.named.setDatabase (hname ▸ h.named db (Catalog.mem_of_selected hdb)), h.apart⟩
  | _ => exact ⟨h.distinct, h.named, h.apart⟩

/-- What is saved rests on what the disk holds, and not on its clock. -/
theorem save_same {store : Option Store} {disk : Disk} (h : server.engine.disk.Same disk)
    (hcalm : server.Calm) (hstore : server.engine.catalog.store = store)
    (hcalm' : store = none ∨ disk.outages = []) (request : Request) (effect : Effect) :
    (server.save request effect).1.Same (disk.run (effect.steps store request.time)).1 ∧
      (server.save request effect).2 = (disk.run (effect.steps store request.time)).2 := by
  have hdisk : (server.diskAt request.time).Same disk := ⟨h.here, h.entries⟩
  subst hstore
  exact effect.alike_run_steps hdisk hcalm hcalm' fun _ => rfl

/-- What two requests save can be saved in either order. -/
theorem save_comm {effect' : Effect} (h : server.Divided users) (hcalm : server.Calm)
    (hkeeps : effect.Keeps (server.engine.catalog.selected (server.sessions request.user)))
    (hkeeps' : effect'.Keeps (server.engine.catalog.selected (server.sessions next.user)))
    (hapart : (server.sessions request.user).Apart (server.sessions next.user)) :
    Disk.Same ((server.serveEffect request effect).1.save next effect').1
        ((server.serveEffect next effect').1.save request effect).1 ∧
      ((server.serveEffect request effect).1.save next effect').2 = (server.save next effect').2 ∧
      ((server.serveEffect next effect').1.save request effect).2 = (server.save request effect).2 := by
  have hfirst (request : Request) (effect : Effect) :=
    save_same (Disk.Same.refl server.engine.disk) hcalm rfl hcalm request effect
  have hsecond (request next : Request) (effect effect' : Effect) :=
    save_same (hfirst request effect).1 (calm_serveEffect hcalm request effect)
      (effect.store_after server.engine.catalog)
      (hcalm.imp_right fun hnone => Disk.outages_run hnone _) next effect'
  obtain ⟨hdisk, hresult, hresult'⟩ :=
    Effect.run_steps_comm h.named hcalm hkeeps hkeeps' hapart request.time next.time
  refine ⟨(hsecond request next effect effect').1.trans_eq (hdisk.trans_eq
    (hsecond next request effect' effect).1.symm_eq), ?_, ?_⟩
  · rw [(hsecond request next effect effect').2, hresult, (hfirst next effect').2]
  · rw [(hsecond next request effect' effect).2, hresult', (hfirst request effect).2]

/-- **Requests of different users can change places.** Each is told what it is told at once. -/
theorem serve_comm (h : server.Divided users) (hcalm : calm → server.Calm)
    (hlocal : request.IsLocal users) (hlocal' : next.IsLocal users) (hne : request.user ≠ next.user) :
    Follows calm Eq ((server.serve request).1.serve next).1 ((server.serve next).1.serve request).1 ∧
      (calm → ((server.serve request).1.serve next).2 = (server.serve next).2 ∧
        ((server.serve next).1.serve request).2 = (server.serve request).2) := by
  have hapart := h.apart _ _ hlocal.user hlocal'.user hne
  have hapart' := h.apart _ _ hlocal'.user hlocal.user hne.symm
  obtain ⟨effect, hkeeps, heffect⟩ := exists_effect hlocal.text request.user
    (server.engine.catalog.selected (server.sessions request.user)) server.engine.catalog.names
  obtain ⟨effect', hkeeps', heffect'⟩ := exists_effect hlocal'.text next.user
    (server.engine.catalog.selected (server.sessions next.user)) server.engine.catalog.names
  rw [heffect server request rfl rfl rfl rfl, heffect' server next rfl rfl rfl rfl,
    heffect' (server.serveEffect request effect).1 next rfl rfl (hkeeps.selected_after hapart)
      (hkeeps.names_after h.distinct),
    heffect (server.serveEffect next effect').1 request rfl rfl (hkeeps'.selected_after hapart')
      (hkeeps'.names_after h.distinct)]
  have hsave (hcalm : server.Calm) := save_comm h hcalm hkeeps hkeeps' hapart
  refine ⟨⟨?_, rfl, fun hc => (hsave (hcalm hc)).1, fun hc => ⟨?_, ?_⟩⟩, fun hc => ⟨?_, ?_⟩⟩
  · exact Effect.after_comm hkeeps hkeeps' hapart
  · exact calm_serveEffect (calm_serveEffect (hcalm hc) request effect) next effect'
  · exact calm_serveEffect (calm_serveEffect (hcalm hc) next effect') request effect
  · exact congrArg (effect'.outcome next.sql) (hsave (hcalm hc)).2.1
  · exact congrArg (effect.outcome request.sql) (hsave (hcalm hc)).2.2

/-! ## Orders of requests -/

/-- The texts of a user. -/
def textsOf (user : Nat) (requests : List Request) : List String :=
  (requests.filter (·.user = user)).map (·.sql)

theorem textsOf_cons (user : Nat) (request : Request) (rest : List Request) :
    textsOf user (request :: rest) =
      (if request.user = user then [request.sql] else []) ++ textsOf user rest := by
  by_cases huser : request.user = user <;> simp [textsOf, huser]

/-- The outcomes that a user is told when requests are served one after the other. -/
def told (server : Server) (user : Nat) (requests : List Request) : List Outcome :=
  ((requests.zip (server.serveAll requests).2).filter (·.1.user = user)).map (·.2)

theorem told_cons (server : Server) (user : Nat) (request : Request) (rest : List Request) :
    server.told user (request :: rest) =
      (if request.user = user then [(server.serve request).2] else []) ++
        (server.serve request).1.told user rest := by
  rw [told, told, serveAll, List.zip_cons_cons, List.filter_cons]
  by_cases huser : request.user = user <;> simp [huser]

/-- Servers follow each other after some requests, and each user is told the same. -/
structure ServesAlike (calm : Prop) (same : String → String → Prop) (server : Server)
    (requests : List Request) (other : Server) (others : List Request) : Prop where
  follows : Follows calm same (server.serveAll requests).1 (other.serveAll others).1
  told : calm → ∀ user, server.told user requests = other.told user others

theorem ServesAlike.trans {last : Server} {lasts : List Request}
    (h : ServesAlike calm Eq server requests other others)
    (h' : ServesAlike calm same other others last lasts) :
    ServesAlike calm same server requests last lasts :=
  ⟨h.follows.trans h'.follows, fun hcalm user => (h.told hcalm user).trans (h'.told hcalm user)⟩

theorem ServesAlike.cons
    (h : ServesAlike calm same (server.serve request).1 requests (other.serve next).1 others)
    (huser : next.user = request.user)
    (houtcome : calm → (server.serve request).2 = (other.serve next).2) :
    ServesAlike calm same server (request :: requests) other (next :: others) := by
  refine ⟨h.follows, fun hcalm user => ?_⟩
  rw [told_cons, told_cons, huser, houtcome hcalm, h.told hcalm]

/-- Servers that know the same serve the same requests alike. -/
theorem Follows.serveAll (h : Follows calm Eq server other)
    (hlocal : ∀ request ∈ requests, request.IsLocal users) :
    ServesAlike calm Eq server requests other requests := by
  induction requests generalizing server other with
  | nil => exact ⟨h, fun _ _ => rfl⟩
  | cons request rest ih =>
    obtain ⟨hrequest, hrest⟩ := List.forall_mem_cons.1 hlocal
    obtain ⟨hserved, houtcome⟩ := h.serve hrequest.text rfl rfl fun _ => rfl
    exact (ih hserved hrest).cons rfl houtcome

theorem serveAll_swap (h : server.Divided users) (hcalm : calm → server.Calm)
    (hlocal : ∀ asked ∈ request :: next :: requests, asked.IsLocal users)
    (hne : request.user ≠ next.user) :
    ServesAlike calm Eq server (request :: next :: requests) server (next :: request :: requests) := by
  obtain ⟨hrequest, hlocal⟩ := List.forall_mem_cons.1 hlocal
  obtain ⟨hnext, hrest⟩ := List.forall_mem_cons.1 hlocal
  obtain ⟨hfollows, houtcome⟩ := serve_comm h hcalm hrequest hnext hne
  have hlast := hfollows.serveAll hrest
  refine ⟨hlast.follows, fun hc user => ?_⟩
  rw [told_cons, told_cons, told_cons, told_cons, (houtcome hc).1, (houtcome hc).2,
    hlast.told hc, ← List.append_assoc, ← List.append_assoc]
  congr 1
  -- at most one of the two requests is this user's
  by_cases huser : request.user = user
  · have hother : next.user ≠ user := huser ▸ hne.symm
    rw [if_neg hother, List.append_nil, List.nil_append]
  · rw [if_neg huser, List.append_nil, List.nil_append]

/-- A request can be served before those of other users. -/
theorem serveAll_front {front back : List Request} (h : server.Divided users)
    (hcalm : calm → server.Calm)
    (hlocal : ∀ asked ∈ front ++ request :: back, asked.IsLocal users)
    (hne : ∀ asked ∈ front, asked.user ≠ request.user) :
    ServesAlike calm Eq server (front ++ request :: back) server (request :: (front ++ back)) := by
  induction front generalizing server with
  | nil => exact (Follows.refl hcalm).serveAll hlocal
  | cons first front ih =>
    obtain ⟨hfirst, hlocal⟩ := List.forall_mem_cons.1 hlocal
    obtain ⟨hneFirst, hne⟩ := List.forall_mem_cons.1 hne
    have hserved := (Follows.refl hcalm).serve hfirst.text rfl rfl fun _ => rfl
    have hrest := ih (h.serve hfirst.text) (fun hc => (hserved.1.calm hc).1) hlocal hne
    refine (hrest.cons rfl fun _ => rfl).trans (serveAll_swap h hcalm ?_ hneFirst)
    have hperm : (front ++ request :: back).Perm (request :: (front ++ back)) := List.perm_middle
    exact List.forall_mem_cons.2 ⟨hfirst, fun asked hasked => hlocal asked (hperm.mem_iff.2 hasked)⟩

/-- Where the first text of a user is among requests. -/
theorem exists_first {text : String} {texts : List String}
    (h : textsOf user requests = text :: texts) : ∃ front request back,
      requests = front ++ request :: back ∧ (∀ asked ∈ front, asked.user ≠ user) ∧
        request.user = user ∧ request.sql = text := by
  obtain ⟨request, rest, hfilter, hsql, -⟩ := List.map_eq_cons_iff.1 h
  obtain ⟨front, back, rfl, hfront, huser, -⟩ := List.filter_eq_cons_iff.1 hfilter
  exact ⟨front, request, back, rfl, by simpa using hfront, by simpa using huser, hsql⟩

theorem textsOf_middle {front back : List Request} (h : ∀ asked ∈ front, asked.user ≠ request.user)
    (user : Nat) : textsOf user (front ++ request :: back) =
      textsOf user (request :: (front ++ back)) := by
  by_cases huser : request.user = user
  · have hnone : front.filter (·.user = user) = [] :=
      List.filter_eq_nil_iff.2 (by simpa [huser] using h)
    simp [textsOf, hnone, List.filter_cons]
  · simp [textsOf, huser]

/-- Requests with the same texts of each user are served alike, at whatever times. -/
theorem Follows.serveAll_of_textsOf (h : Follows calm same server other)
    (hdivided : server.Divided users) (hlocal : ∀ request ∈ requests, request.IsLocal users)
    (htexts : ∀ user, textsOf user requests = textsOf user others)
    (hsame : ∀ (db : Database) (clock clock' : String),
      same (db.toDocument clock).toJson.pretty (db.toDocument clock').toJson.pretty) :
    ServesAlike calm same server requests other others := by
  induction others generalizing server other requests with
  | nil =>
    cases requests with
    | nil => exact ⟨h, fun _ _ => rfl⟩
    | cons request rest => simpa [textsOf] using htexts request.user
  | cons next others ih =>
    have hfirst := (htexts next.user).trans (textsOf_cons next.user next others)
    rw [if_pos rfl] at hfirst
    obtain ⟨front, request, back, rfl, hfront, huser, hsql⟩ := exists_first hfirst
    rw [← huser] at hfront
    have hmoved := serveAll_front hdivided (fun hc => (h.calm hc).1) hlocal hfront
    have hperm : (front ++ request :: back).Perm (request :: (front ++ back)) := List.perm_middle
    have hlocal' : ∀ asked ∈ request :: (front ++ back), asked.IsLocal users :=
      fun asked hasked => hlocal asked (hperm.mem_iff.2 hasked)
    obtain ⟨hrequest, hrest⟩ := List.forall_mem_cons.1 hlocal'
    obtain ⟨hserved, houtcome⟩ := h.serve hrequest.text huser.symm hsql.symm fun db => hsame db _ _
    refine hmoved.trans ((ih hserved (hdivided.serve hrequest.text) hrest fun user => ?_).cons
      huser.symm houtcome)
    have htexts := (textsOf_middle hfront user).symm.trans (htexts user)
    rw [textsOf_cons, textsOf_cons, huser, hsql] at htexts
    exact List.append_cancel_left htexts

/-- **Users in different databases do not disturb each other.** A server has a catalog that texts lead
to, the users who ask it are in different databases, if in any, and none of their texts chooses,
makes or drops one. Then all orders of their requests in which each user asks the same texts come to
the same databases and sessions, at whatever times it is asked. Each user is told the same in all of
them, and the same files are there afterwards, but for the times at which databases were saved: with
no data directory, or with one on any disk to which no outages come (what cannot be written there is
refused in every order). So texts of two users that are mixed in any way come to the same as all
texts of the one before all of the other. -/
theorem orders_alike {start : Server} (hreached : start.engine.catalog.Reached)
    (hapart : ∀ request ∈ requests, ∀ next ∈ requests, request.user ≠ next.user →
      (start.sessions request.user).Apart (start.sessions next.user))
    (hlocal : ∀ request ∈ requests, IsLocalText request.sql)
    (htexts : ∀ user, textsOf user requests = textsOf user others) :
    let last := (start.serveAll requests).1
    let last' := (start.serveAll others).1
    last.engine.catalog = last'.engine.catalog ∧ last.sessions = last'.sessions ∧
      (start.Calm → (∀ user, start.told user requests = start.told user others) ∧
        ∀ path, Option.Rel (Node.Alike Store.SameButTime) (last.engine.disk.node? path)
          (last'.engine.disk.node? path)) := by
  have hdivided : start.Divided fun user => ∃ request ∈ requests, request.user = user := by
    refine ⟨hreached.built.distinct, hreached.named, ?_⟩
    rintro _ _ ⟨request, hrequest, rfl⟩ ⟨next, hnext, rfl⟩ hne
    exact hapart request hrequest next hnext hne
  have hself : Follows start.Calm Store.SameButTime start start :=
    ⟨rfl, rfl, fun _ => Disk.AlikeAt.refl (fun _ => .inl rfl) _, fun hcalm => ⟨hcalm, hcalm⟩⟩
  obtain ⟨hfollows, htold⟩ := hself.serveAll_of_textsOf hdivided
    (fun request hrequest => ⟨⟨request, hrequest, rfl⟩, hlocal request hrequest⟩) htexts
    fun db clock clock' => .inr ⟨db, clock, clock', rfl, rfl⟩
  exact ⟨hfollows.catalog, hfollows.sessions, fun hcalm =>
    ⟨htold hcalm, fun path => (hfollows.disk hcalm).node? trivial⟩⟩

/-- A user in each of two databases that are saved. -/
def twoShops : Server where
  engine := ((Workspace.blank []).executeAll ["CREATE DATABASE books", "CREATE DATABASE tea"]).engine
  sessions user := if user = 0 then ⟨some "books"⟩ else ⟨some "Tea"⟩

def mixed : List Request :=
  [⟨"1", 0, "CREATE TABLE stock (title STRING PRIMARY KEY)"⟩,
   ⟨"2", 1, "CREATE TABLE stock (id INT PRIMARY KEY, name STRING)"⟩,
   ⟨"3", 1, "INSERT INTO stock VALUES (7, 'Assam')"⟩, ⟨"4", 0, "INSERT INTO stock VALUES ('Emma')"⟩,
   ⟨"5", 1, "INSERT INTO stock VALUES (7, 'Keemun')"⟩, ⟨"6", 0, "SELECT * FROM stock"⟩]

/-- The second user asks all texts before the first. -/
def oneBeforeOther : List Request :=
  [⟨"1", 1, "CREATE TABLE stock (id INT PRIMARY KEY, name STRING)"⟩,
   ⟨"2", 1, "INSERT INTO stock VALUES (7, 'Assam')"⟩, ⟨"3", 1, "INSERT INTO stock VALUES (7, 'Keemun')"⟩,
   ⟨"4", 0, "CREATE TABLE stock (title STRING PRIMARY KEY)"⟩,
   ⟨"5", 0, "INSERT INTO stock VALUES ('Emma')"⟩, ⟨"6", 0, "SELECT * FROM stock"⟩]

theorem orders_alike_twoShops :
    twoShops.engine.catalog.Reached ∧
      (∀ request ∈ mixed, ∀ next ∈ mixed, request.user ≠ next.user →
        (twoShops.sessions request.user).Apart (twoShops.sessions next.user)) ∧
      (∀ request ∈ mixed, IsLocalText request.sql) ∧
      (∀ user, textsOf user mixed = textsOf user oneBeforeOther) ∧ twoShops.Calm ∧
      let last := (twoShops.serveAll mixed).1
      let last' := (twoShops.serveAll oneBeforeOther).1
      last.engine.catalog = last'.engine.catalog ∧ last.sessions = last'.sessions ∧
        (∀ user, twoShops.told user mixed = twoShops.told user oneBeforeOther) ∧
        ∀ path, Option.Rel (Node.Alike Store.SameButTime) (last.engine.disk.node? path)
          (last'.engine.disk.node? path) := by
  have hreached : twoShops.engine.catalog.Reached := Catalog.Reached.executeAll (.new _) _
  have hapart : ∀ request ∈ mixed, ∀ next ∈ mixed, request.user ≠ next.user →
      (twoShops.sessions request.user).Apart (twoShops.sessions next.user) := by
    decide +kernel
  have hlocal : ∀ request ∈ mixed, IsLocalText request.sql := by decide +kernel
  have htexts (user : Nat) : textsOf user mixed = textsOf user oneBeforeOther := by
    rcases user with _ | _ | user
    · rfl
    · rfl
    · simp [textsOf, mixed, oneBeforeOther]
  have hcalm : twoShops.Calm := .inr (by decide +kernel)
  obtain ⟨hcatalog, hsessions, hrest⟩ := orders_alike hreached hapart hlocal htexts
  exact ⟨hreached, hapart, hlocal, htexts, hcalm, hcatalog, hsessions, hrest hcalm⟩

end Server

end RelStore
