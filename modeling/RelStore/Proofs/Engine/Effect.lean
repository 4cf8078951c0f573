/-
What statements come to in the database of a session.

A statement that neither chooses, makes nor drops a database looks at nothing in the catalog but the
database of its session and the names of all (`plan_of_effect?`), and it changes at most that
database (`Effect`). Databases that are put into other states leave each other and all names as they
are, and it makes no difference which comes first (`setDatabase_comm`).
-/
import RelStore.Proofs.Catalog.Matches

namespace RelStore

open Sql
open Text (sameName)

/-- What a statement comes to in a database. -/
inductive Effect where
  | refused (cause : Cause)
  | told (answer : Answer)
  /-- The database is put into another state. -/
  | written (next : Database) (rowCount : Nat) (message : String)

namespace Effect

variable {effect : Effect} {catalog : Catalog} {session : Session} {clock : String}
  {selected : Except Cause Database}

/-- The effect of reading. -/
def ofRead : Except Cause Answer → Effect
  | .ok answer => .told answer
  | .error cause => .refused cause

/-- The effect of writing: another state, with the number of rows and the message. -/
def ofWrite : Except Cause (Database × Nat × String) → Effect
  | .ok (next, rowCount, message) => .written next rowCount message
  | .error cause => .refused cause

def answer : Effect → Except Cause Answer
  | .refused cause => .error cause
  | .told answer => .ok answer
  | .written _ rowCount message => .ok (.mutation rowCount message)

def change (catalog : Catalog) (clock : String) : Effect → Change
  | .written next _ _ => catalog.replaceDatabase next clock
  | _ => catalog.unchanged

/-- The plan of a statement that has the effect. -/
def plan (effect : Effect) (catalog : Catalog) (session : Session) (clock : String) :
    Except Cause Plan :=
  effect.answer.map fun answer => ⟨effect.change catalog clock, session, answer⟩

/-- The database that is put into another state is the selected one. -/
def Keeps (effect : Effect) (selected : Except Cause Database) : Prop :=
  ∀ next rowCount message, effect = .written next rowCount message →
    ∃ db, selected = .ok db ∧ next.name = db.name

theorem plan_ofRead (read : Except Cause Answer) : (ofRead read).plan catalog session clock =
    do return catalog.answerOnly session (← read) := by
  cases read <;> rfl

theorem plan_ofWrite (written : Except Cause (Database × Nat × String)) :
    (ofWrite written).plan catalog session clock = do
      let (next, rowCount, message) ← written
      return catalog.replacing session clock next rowCount message := by
  cases written <;> rfl

theorem keeps_ofRead (answer : Except Cause Answer) : (ofRead answer).Keeps selected := by
  cases answer <;> exact nofun

theorem keeps_ofWrite {written : Except Cause (Database × Nat × String)}
    (h : ∀ result, written = .ok result → ∃ db, selected = .ok db ∧ result.1.name = db.name) :
    (ofWrite written).Keeps selected := by
  cases written with
  | error cause => exact nofun
  | ok result =>
    rintro next rowCount message ⟨⟩
    exact h _ rfl

end Effect

/-! ## Statements -/

/-- The effect of a statement in a selected database, or in none, where databases have some names.
There is none if the statement chooses, makes or drops a database. -/
def Sql.Statement.effect? (selected : Except Cause Database) (names : List String) :
    Statement → Option Effect
  | .createDatabase _ | .dropDatabase _ | .useDatabase _ => none
  | .showDatabases => some (.told (.schema (namesListing "database" names)))
  | .showTables => some <| .ofRead do return .schema (namesListing "table" (← selected).tableNames)
  | .describe name => some <| .ofRead do
    let table ← (← selected).requireTable name
    return .schema ⟨Table.describeColumns, table.describe⟩
  | .select query => some <| .ofRead do return .rows (← query.run (← selected))
  | .createTable schema => some <| .ofWrite do
    let (next, _) ← (← selected).createTable schema
    return (next, 0, s!"Table '{schema.name}' created")
  | .dropTable name => some <| .ofWrite do
    let db ← selected
    let table ← db.requireTable name
    return (← db.dropTable table.name, 0, s!"Table '{table.name}' dropped")
  | .insert table columns values => some <| .ofWrite do
    let (next, _) ← (← selected).insertRow table values columns
    return (next, 1, rowsAffected 1 "inserted")
  | .update name items filter => some <| .ofWrite do
    let db ← selected
    let table ← db.requireTable name
    let assignments ← bindAssignments table Record.memberNames items
    let targets ← table.matching filter
    let (next, count) ← db.updateRows table.name (targets.map (·.id)) (Record.inOrder assignments)
    return (next, count, rowsAffected count "updated")
  | .delete name filter => some <| .ofWrite do
    let db ← selected
    let table ← db.requireTable name
    let targets ← table.matching filter
    let (next, count) ← db.deleteRows table.name (targets.map (·.id))
    return (next, count, rowsAffected count "deleted")
  | .unknown description => some (.refused (.unknownStatement description))

/-- A statement that neither chooses, makes nor drops a database. -/
def Sql.Statement.IsLocal : Statement → Prop
  | .createDatabase _ | .dropDatabase _ | .useDatabase _ => False
  | _ => True

instance Sql.Statement.decidableIsLocal : (statement : Statement) → Decidable statement.IsLocal
  | .createDatabase _ | .dropDatabase _ | .useDatabase _ => .isFalse id
  | .showDatabases | .showTables | .describe _ | .createTable _ | .dropTable _ | .insert _ _ _
  | .update _ _ _ | .delete _ _ | .select _ | .unknown _ => .isTrue trivial

theorem Sql.Statement.IsLocal.exists_effect {statement : Statement} (h : statement.IsLocal)
    (selected : Except Cause Database) (names : List String) :
    ∃ effect, statement.effect? selected names = some effect := by
  cases statement with
  | createDatabase _ | dropDatabase _ | useDatabase _ => exact h.elim
  | _ => exact ⟨_, rfl⟩

theorem Effect.keeps_of_effect? {statement : Statement} {effect : Effect}
    {selected : Except Cause Database} {names : List String}
    (h : statement.effect? selected names = some effect) : effect.Keeps selected := by
  cases statement with
  | createDatabase _ | dropDatabase _ | useDatabase _ => cases h
  | showDatabases | unknown _ =>
    obtain rfl := Option.some.inj h
    exact nofun
  | showTables | describe _ | select _ =>
    obtain rfl := Option.some.inj h
    exact keeps_ofRead _
  | createTable schema =>
    obtain rfl := Option.some.inj h
    refine keeps_ofWrite fun result h => ?_
    obtain ⟨db, hdb, h⟩ := bind_eq_ok.1 h
    obtain ⟨made, hmade, h⟩ := bind_eq_ok.1 h
    obtain rfl := pure_eq_ok.1 h
    exact ⟨db, hdb, Database.name_createTable hmade⟩
  | dropTable name =>
    obtain rfl := Option.some.inj h
    refine keeps_ofWrite fun result h => ?_
    obtain ⟨db, hdb, h⟩ := bind_eq_ok.1 h
    obtain ⟨table, -, h⟩ := bind_eq_ok.1 h
    obtain ⟨next, hnext, h⟩ := bind_eq_ok.1 h
    obtain rfl := pure_eq_ok.1 h
    exact ⟨db, hdb, Database.name_dropTable hnext⟩
  | insert table columns values =>
    obtain rfl := Option.some.inj h
    refine keeps_ofWrite fun result h => ?_
    obtain ⟨db, hdb, h⟩ := bind_eq_ok.1 h
    obtain ⟨inserted, hinserted, h⟩ := bind_eq_ok.1 h
    obtain rfl := pure_eq_ok.1 h
    exact ⟨db, hdb, Database.name_insertRow hinserted⟩
  | update name items filter =>
    obtain rfl := Option.some.inj h
    refine keeps_ofWrite fun result h => ?_
    obtain ⟨db, hdb, h⟩ := bind_eq_ok.1 h
    obtain ⟨table, -, h⟩ := bind_eq_ok.1 h
    obtain ⟨assignments, -, h⟩ := bind_eq_ok.1 h
    obtain ⟨targets, -, h⟩ := bind_eq_ok.1 h
    obtain ⟨updated, hupdated, h⟩ := bind_eq_ok.1 h
    obtain rfl := pure_eq_ok.1 h
    exact ⟨db, hdb, Database.name_updateRows hupdated⟩
  | delete name filter =>
    obtain rfl := Option.some.inj h
    refine keeps_ofWrite fun result h => ?_
    obtain ⟨db, hdb, h⟩ := bind_eq_ok.1 h
    obtain ⟨table, -, h⟩ := bind_eq_ok.1 h
    obtain ⟨targets, -, h⟩ := bind_eq_ok.1 h
    obtain ⟨deleted, hdeleted, h⟩ := bind_eq_ok.1 h
    obtain rfl := pure_eq_ok.1 h
    exact ⟨db, hdb, Database.name_deleteRows hdeleted⟩

namespace Catalog

variable {catalog : Catalog} {session : Session} {clock : String} {statement : Statement}
  {effect : Effect}

/-- **The plan of a statement rests on the selected database and the names of all.** -/
theorem plan_of_effect?
    (h : statement.effect? (catalog.selected session) catalog.names = some effect) :
    catalog.plan session clock statement = effect.plan catalog session clock := by
  cases statement with
  | createDatabase _ | dropDatabase _ | useDatabase _ => cases h
  | showDatabases | unknown _ =>
    obtain rfl := Option.some.inj h
    rfl
  | showTables | describe _ | select _ =>
    obtain rfl := Option.some.inj h
    simp only [Effect.plan_ofRead, bind_assoc, pure_bind, Catalog.plan]
  | createTable _ | dropTable _ | insert _ _ _ | update _ _ _ | delete _ _ =>
    obtain rfl := Option.some.inj h
    simp only [Effect.plan_ofWrite, bind_assoc, pure_bind, Catalog.plan, planInsert, planUpdate,
      planDelete]

/-! ## Databases beside each other -/

variable {first second db next : Database} {name : String}

theorem databases_setDatabase (h : (catalog.database? db.name).isSome = true) :
    (catalog.setDatabase db).databases = catalog.databases.map fun other =>
      if sameName other.name db.name then db else other := by
  rw [setDatabase, if_pos h]

/-- Two known databases can be put into their places in either order. -/
theorem setDatabase_comm (hfirst : (catalog.database? first.name).isSome = true)
    (hsecond : (catalog.database? second.name).isSome = true)
    (hne : sameName first.name second.name = false) :
    (catalog.setDatabase first).setDatabase second =
      (catalog.setDatabase second).setDatabase first := by
  have hne' : sameName second.name first.name = false := Text.sameName_comm _ _ ▸ hne
  have hboth {db next : Database} (hdb : (catalog.database? db.name).isSome = true)
      (hnext : (catalog.database? next.name).isSome = true) :
      (catalog.setDatabase db).setDatabase next = { catalog with
        databases := (catalog.databases.map fun other =>
          if sameName other.name db.name then db else other).map fun other =>
            if sameName other.name next.name then next else other } := by
    have hknown : ((catalog.setDatabase db).database? next.name).isSome = true :=
      isSome_database?_setDatabase.2 (.inr hnext)
    rw [setDatabase, if_pos hknown, setDatabase, if_pos hdb]
  rw [hboth hfirst hsecond, hboth hsecond hfirst, List.map_map, List.map_map]
  refine congrArg (Catalog.mk catalog.store) (List.map_congr_left fun other _ => ?_)
  simp only [Function.comp_apply]
  cases hother : sameName other.name first.name with
  | true =>
    have hsecondNe : sameName other.name second.name = false := by
      rw [sameName_congr_left hother, hne]
    simp [hsecondNe, hne, hother]
  | false =>
    cases hother' : sameName other.name second.name <;> simp [hother, hother', hne']

theorem names_setDatabase (hdistinct : DistinctNames Database.name catalog.databases)
    (hdb : db ∈ catalog.databases) (hname : next.name = db.name) :
    (catalog.setDatabase next).names = catalog.names := by
  have hknown : (catalog.database? next.name).isSome = true :=
    isSome_database?_iff.2 ⟨db, hdb, hname ▸ Text.sameName_refl _⟩
  rw [names, names, databases_setDatabase hknown, List.map_map]
  refine congrArg sortNames (List.map_congr_left fun other hother => ?_)
  rw [Function.comp_apply]
  split
  next hsame => rw [hname, hdistinct.eq_of_sameName hother hdb (hname ▸ hsame)]
  next => rfl

/-- The database of a session stays as it is when another is put into its place. -/
theorem selected_setDatabase
    (h : ∀ name ∈ session.database, sameName next.name name = false) :
    (catalog.setDatabase next).selected session = catalog.selected session := by
  rw [selected, selected]
  cases hname : session.database with
  | none => rfl
  | some name =>
    have hne := h name hname
    simp only [requireDatabase, database?_setDatabase, hne, Bool.false_eq_true, if_false]

end Catalog

/-! ## Texts -/

/-- A text that is one statement neither chooses, makes nor drops a database. -/
def IsLocalText (sql : String) : Prop := ∀ statement, parse sql = .ok statement → statement.IsLocal

instance decidableIsLocalText (sql : String) : Decidable (IsLocalText sql) :=
  match hparse : parse sql with
  | .error _ => .isTrue fun statement h => by rw [hparse] at h; cases h
  | .ok statement =>
    have hiff : IsLocalText sql ↔ statement.IsLocal :=
      ⟨fun h => h statement hparse, fun h other hother => Except.ok.inj (hparse.symm.trans hother) ▸ h⟩
    decidable_of_iff' statement.IsLocal hiff

namespace Effect

variable {effect : Effect} {w : Workspace} {sql : String}

/-- The steps that an effect asks for. -/
def steps (effect : Effect) (store : Option Store) (clock : String) : List Step :=
  match effect, store with
  | .written next _ _, some store => store.saveSteps next clock
  | _, _ => []

/-- The catalog after an effect, whether or not it can be saved. -/
def after (effect : Effect) (catalog : Catalog) : Catalog :=
  match effect with
  | .written next _ _ => catalog.setDatabase next
  | _ => catalog

/-- What is told of a text with the effect, as its steps are carried out or refused. -/
def outcome (effect : Effect) (sql : String) (saved : Except Cause Unit) : Outcome :=
  match saved, effect.answer with
  | .ok (), .ok answer => .ok answer
  | .ok (), .error cause | .error cause, _ => .error ⟨cause, some sql⟩

/-- Carries out an effect. -/
def carryOut (effect : Effect) (w : Workspace) (sql : String) : Workspace × Outcome :=
  let steps := effect.steps w.engine.catalog.store w.engine.disk.clock
  let (disk, saved) := w.engine.disk.run steps
  (⟨⟨effect.after w.engine.catalog, disk⟩, w.session⟩, effect.outcome sql saved)

theorem run_of_plan {statement : Statement} (h : w.engine.catalog.plan w.session
    w.engine.disk.clock statement = effect.plan w.engine.catalog w.session w.engine.disk.clock) :
    w.runAs (some sql) statement = effect.carryOut w sql := by
  rw [Workspace.runAs, Workspace.run, h]
  cases effect with
  | refused cause => rfl
  | told answer => rfl
  | written next rowCount message =>
    have hsteps : (w.engine.catalog.replaceDatabase next w.engine.disk.clock).steps =
        (written next rowCount message).steps w.engine.catalog.store w.engine.disk.clock := by
      rw [Catalog.replaceDatabase, Catalog.saveSteps, Catalog.store_setDatabase]
      cases w.engine.catalog.store <;> rfl
    simp only [plan, answer, Except.map, change, Engine.apply, Change.apply, hsteps, carryOut]
    rcases w.engine.disk.run ((written next rowCount message).steps w.engine.catalog.store
      w.engine.disk.clock) with ⟨disk, cause | ⟨⟩⟩ <;> rfl

end Effect

/-- **What a text comes to rests on the selected database and the names of all.** -/
theorem IsLocalText.exists_effect {sql : String} (h : IsLocalText sql)
    (selected : Except Cause Database) (names : List String) : ∃ effect : Effect,
    effect.Keeps selected ∧ ∀ w : Workspace, w.engine.catalog.selected w.session = selected →
      w.engine.catalog.names = names → w.execute sql = effect.carryOut w sql := by
  cases hparse : parse sql with
  | error cause =>
    refine ⟨.refused cause, nofun, fun w _ _ => ?_⟩
    rw [Workspace.execute, hparse]
    rfl
  | ok statement =>
    obtain ⟨effect, heffect⟩ := (h statement hparse).exists_effect selected names
    refine ⟨effect, Effect.keeps_of_effect? heffect, ?_⟩
    rintro w rfl rfl
    rw [Workspace.execute, hparse]
    exact Effect.run_of_plan (Catalog.plan_of_effect? heffect)

end RelStore
