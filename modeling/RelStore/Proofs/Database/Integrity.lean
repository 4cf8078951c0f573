/-
The references of a database after any calls.

`referencesHeld_run`: where no table refers to itself, each reference leads to a key of an earlier
table that holds each value of the column. Where tables do refer to themselves, the references
between two tables are as sound (`sound_run`), and those of a table to itself are held up to the
first update that strands a value and not after it (`selfReferencesHeld_run_iff`). There are such
updates: `staffCalls` ends with one.
-/
import RelStore.Proofs.Database.Schema
import RelStore.Proofs.Database.Update

namespace RelStore.Database

open Text (sameName)

/-- A call that changes tables. -/
inductive Call where
  | create (schema : Schema)
  | drop (table : String)
  | insert (table : String) (values : List Value) (listed : Option (List String))
  | update (table : String) (ids : List Nat) (assignments : List (String × Value))
  | delete (table : String) (ids : List Nat)
  deriving Repr

def perform (db : Database) : Call → Except Cause Database
  | .create schema => (·.1) <$> db.createTable schema
  | .drop table => db.dropTable table
  | .insert table values listed => (·.1) <$> db.insertRow table values listed
  | .update table ids assignments => (·.1) <$> db.updateRows table ids assignments
  | .delete table ids => (·.1) <$> db.deleteRows table ids

/-- The database after a call, which is as before if the call fails. -/
def after (db : Database) (call : Call) : Database :=
  match db.perform call with
  | .ok next => next
  | .error _ => db

def run (db : Database) (calls : List Call) : Database := calls.foldl after db

/-! ## What is true of references -/

/-- A reference leads to a key that holds each value of the referencing column. -/
structure Resolves (db : Database) (table : Table) (column : Column) (ref : Reference)
    (target : Table) (key : Column) : Prop where
  target_found : db.table? ref.table = some target
  key_found : target.column? ref.column = some key
  isKey : key.isKey = true
  family : key.type.family = column.type.family
  held : ∀ stored ∈ table.rows, stored.row.get column.name ≠ none →
    ∃ other ∈ target.rows, (other.row.get key.name).same (stored.row.get column.name) = true

/-- Each reference resolves in a table that was created earlier. -/
def ReferencesHeld (db : Database) : Prop :=
  ∀ before table rest, db.tables = before ++ table :: rest → ∀ column ∈ table.columns, ∀ ref,
    column.references = some ref → ∃ target ∈ before, ∃ key, db.Resolves table column ref target key

/-- Each reference of a table to itself resolves in the table. -/
def SelfReferencesHeld (db : Database) : Prop :=
  ∀ table ∈ db.tables, ∀ column ∈ table.columns, ∀ ref, column.references = some ref →
    sameName ref.table table.name = true → ∃ key, db.Resolves table column ref table key

/-- One of the columns of a table refers to the table. -/
def RefersToItself (table : Table) : Prop :=
  ∃ column ∈ table.columns, ∃ ref, column.references = some ref ∧
    sameName ref.table table.name = true

/-- A call is an update that goes through and strands a value in its table. -/
def StrandedBy (db : Database) : Call → Prop
  | .update name ids assignments =>
    (∃ result, db.updateRows name ids assignments = .ok result) ∧
      ∃ table pending column key, db.table? name = some table ∧
        table.prepareUpdate ids assignments = .ok pending ∧ db.Link table column table key ∧
        Strands pending column key
  | _ => False

variable {db next : Database} {table target : Table} {column key : Column} {ref : Reference}
  {call : Call}

theorem Link.resolves_iff (hl : db.Link table column target key) (h : db.Sound)
    (href : column.references = some ref) :
    db.Resolves table column ref target key ↔ Held table column target key := by
  obtain ⟨ref', href', hn, hk⟩ := hl.refers
  obtain rfl : ref = ref' := Option.some.inj (href.symm.trans href')
  obtain ⟨hkm, hkey, hfamily⟩ := hl.key_spec h
  have hsame {other : StoredRow} (ho : other ∈ target.rows) (v : Value) :
      (other.row.get key.name).same v = true ↔ (other.row.get key.name).key = v.key :=
    Value.same_iff_of_conforms (((h.tables target hl.target_mem).admitted other ho).typed key hkm)
  constructor
  · intro hr stored hs hv
    obtain ⟨other, ho, hsm⟩ := hr.held stored hs hv
    exact ⟨other, ho, (hsame ho _).1 hsm⟩
  · intro hheld
    refine ⟨h.table?_eq_some_iff.2 ⟨hl.target_mem, hn⟩, hk, hkey, hfamily, fun stored hs hv => ?_⟩
    obtain ⟨other, ho, hkv⟩ := hheld stored hs hv
    exact ⟨other, ho, (hsame ho _).2 hkv⟩

theorem Sound.selfReferencesHeld_iff (h : db.Sound) : db.SelfReferencesHeld ↔ db.SelfHeld := by
  constructor
  · intro hall table column key hl
    obtain ⟨ref, href, hn, hk⟩ := hl.refers
    obtain ⟨found, hr⟩ := hall table hl.table_mem column hl.column_mem ref href
      (Text.sameName_comm _ _ ▸ hn)
    obtain rfl := Option.some.inj (hk.symm.trans hr.key_found)
    exact (hl.resolves_iff h href).1 hr
  · intro hself table ht column hc ref href hsame
    obtain ⟨target, htarget, key, hn, hk, -⟩ := h.exists_target ht hc href
    obtain rfl := (h.sameName_iff_eq htarget ht).1 (Text.sameName_trans hn hsame)
    have hl : db.Link target column target key := ⟨ht, hc, ht, ref, href, hn, hk⟩
    exact ⟨key, (hl.resolves_iff h href).2 (hself target column key hl)⟩

theorem Sound.referencesHeld (h : db.Sound) (hno : ∀ table ∈ db.tables, ¬ RefersToItself table) :
    db.ReferencesHeld := by
  intro before table rest hsplit column hc ref href
  have ht : table ∈ db.tables := by simp [hsplit]
  have hschemas : db.tables.map (·.schema) =
      before.map (·.schema) ++ table.schema :: rest.map (·.schema) := by
    simp [hsplit]
  obtain ⟨schema, hm, key, hn, hk, -⟩ := h.linked _ _ _ hschemas column hc ref href
  rcases List.mem_append.1 hm with hm | hm
  · obtain ⟨target, htm, rfl⟩ := List.mem_map.1 hm
    have htarget : target ∈ db.tables := by
      rw [hsplit]
      exact List.mem_append_left _ htm
    have hl : db.Link table column target key := ⟨ht, hc, htarget, ref, href, hn, hk⟩
    have hne : table ≠ target := by
      rintro rfl
      exact hno table ht ⟨column, hc, ref, href, Text.sameName_comm _ _ ▸ hn⟩
    exact ⟨target, htm, key, (hl.resolves_iff h href).2 (h.held _ _ _ _ hl hne)⟩
  · rw [List.mem_singleton.1 hm] at hn
    exact absurd ⟨column, hc, ref, href, Text.sameName_comm _ _ ▸ hn⟩ (hno table ht)

/-! ## Runs -/

theorem sound_empty (name : String) : (empty name).Sound where
  named := List.nodup_nil
  tables := nofun
  linked := fun before schema rest h => by simp [empty] at h
  held := fun _ _ _ _ hl => nomatch hl.table_mem

/-- What an update that goes through does: the rows of one table that are given change alike. -/
theorem Sound.spec_updateRows {name : String} {ids : List Nat} {assignments : List (String × Value)}
    {result : Database × Nat} (h : db.Sound) (hu : db.updateRows name ids assignments = .ok result) :
    ∃ table ∈ db.tables, ∃ changes pending, db.table? name = some table ∧
      table.prepareUpdate ids assignments = .ok pending ∧
      pending = (table.rowsOf ids).map (Table.pendingOf changes) ∧
      table.Prepared (table.rowsOf ids) changes ∧
      db.Passed table pending (changes.map (·.1)) ∧
      result = (db.setTable (table.applyUpdate pending), pending.length) := by
  obtain ⟨table, pending, changed, ht, hp, hm, hpassed, hresult⟩ := updateRows_eq_ok.1 hu
  have htm := (h.table?_eq_some_iff.1 ht).1
  obtain ⟨changes, hc, hpending, hprep⟩ := (h.tables table htm).prepared hp
  obtain rfl := changed_eq hc hm
  exact ⟨table, htm, changes, pending, ht, hp, hpending, hprep, hpassed, hresult⟩

theorem Sound.updateRows {name : String} {ids : List Nat} {assignments : List (String × Value)}
    {result : Database × Nat} (h : db.Sound)
    (hu : db.updateRows name ids assignments = .ok result) : result.1.Sound := by
  obtain ⟨table, htm, changes, _, -, -, rfl, hprep, hpassed, rfl⟩ := h.spec_updateRows hu
  exact h.setTable htm Table.sameFrame_applyUpdate.schema
    ((h.tables table htm).applyUpdate hprep) fun _ _ _ _ hl hne hheld =>
      hheld.update h hl htm hprep hpassed fun he => absurd he hne

theorem Sound.perform (h : db.Sound) (hc : db.perform call = .ok next) : next.Sound := by
  cases call with
  | create schema =>
    obtain ⟨made, hm, rfl⟩ := map_eq_ok.1 hc
    exact h.createTable hm
  | drop table => exact h.dropTable hc
  | insert table values listed =>
    obtain ⟨result, hr, rfl⟩ := map_eq_ok.1 hc
    exact h.insertRow hr
  | update table ids assignments =>
    obtain ⟨result, hr, rfl⟩ := map_eq_ok.1 hc
    exact h.updateRows hr
  | delete table ids =>
    obtain ⟨result, hr, rfl⟩ := map_eq_ok.1 hc
    exact h.deleteRows hr

theorem Sound.after (h : db.Sound) (call : Call) : (db.after call).Sound := by
  simp only [Database.after]
  split
  next hr => exact h.perform hr
  next => exact h

theorem sound_run (name : String) (calls : List Call) : ((empty name).run calls).Sound :=
  foldl_keeps (sound_empty name) fun _ hs call _ => hs.after call

/-- **References are held after any calls**, with any arguments, of which those that fail change
nothing, if no table that is left refers to itself. -/
theorem referencesHeld_run (name : String) (calls : List Call)
    (h : ∀ table ∈ ((empty name).run calls).tables, ¬ RefersToItself table) :
    ((empty name).run calls).ReferencesHeld :=
  (sound_run name calls).referencesHeld h

/-- Two tables, a row in each, and three calls that fail: they would refer to a row that is not
there, and take away one that is referred to. -/
def libraryCalls : List Call :=
  [.create ⟨"authors", [⟨"id", .int, true, false, none⟩]⟩,
    .create ⟨"books", [⟨"title", .string, true, false, none⟩,
      ⟨"author", .int, false, false, some ⟨"Authors", "ID"⟩⟩]⟩,
    .insert "authors" [.ofNat 1] none,
    .insert "books" [.ofText "Emma", .ofNat 1] none,
    .insert "books" [.ofText "Ivanhoe", .ofNat 2] none,
    .update "authors" [1] [("id", .ofNat 3)],
    .delete "authors" [1]]

theorem referencesHeld_run_library :
    (((empty "library").run libraryCalls).tables.map fun table => table.rows.map (·.row)) =
        [[⟨[("id", .ofNat 1)]⟩], [⟨[("title", .ofText "Emma"), ("author", .ofNat 1)]⟩]] ∧
      (∀ table ∈ ((empty "library").run libraryCalls).tables, ¬ RefersToItself table) ∧
      ((empty "library").run libraryCalls).ReferencesHeld := by
  have hother : ∀ table ∈ ((empty "library").run libraryCalls).tables,
      ∀ column ∈ table.columns, ∀ ref ∈ column.references.toList,
        sameName ref.table table.name = false := by
    decide +kernel
  have hno : ∀ table ∈ ((empty "library").run libraryCalls).tables, ¬ RefersToItself table := by
    intro table ht ⟨column, hc, ref, href, hsame⟩
    have := hother table ht column hc ref (by simp [href])
    rw [hsame] at this
    cases this
  exact ⟨by decide +kernel, hno, referencesHeld_run "library" libraryCalls hno⟩

/-! ## Tables that refer to themselves -/

theorem Link.written (h : db.Sound) (hl : db.Link table column table key) {written : Table}
    (hw : written.schema = table.schema) :
    (db.setTable written).Link written column written key := by
  have hmem : written ∈ (db.setTable written).tables := by
    rw [h.tables_setTable hl.table_mem hw]
    exact List.mem_map.2 ⟨table, hl.table_mem, if_pos rfl⟩
  obtain ⟨ref, href, hn, hk⟩ := hl.refers
  refine ⟨hmem, ?_, hmem, ref, href, ?_, ?_⟩
  · rw [Table.columns, hw]
    exact hl.column_mem
  · rw [Table.name, hw]
    exact hn
  · rw [Table.column?, hw]
    exact hk

theorem Sound.selfHeld_updateRows_iff (h : db.Sound) (hself : db.SelfHeld) {name : String}
    {ids : List Nat} {assignments : List (String × Value)} {result : Database × Nat}
    (hu : db.updateRows name ids assignments = .ok result) :
    result.1.SelfHeld ↔ ¬ db.StrandedBy (.update name ids assignments) := by
  have hok : ∃ result, db.updateRows name ids assignments = .ok result := ⟨result, hu⟩
  obtain ⟨table, htm, changes, _, ht, hp, rfl, hprep, hpassed, rfl⟩ := h.spec_updateRows hu
  constructor
  · intro hheld ⟨_, other, pending, column, key, ho, hop, hl, hs⟩
    obtain rfl := Option.some.inj (ht.symm.trans ho)
    obtain rfl := Except.ok.inj (hp.symm.trans hop)
    exact not_held_of_strands h hl hprep hs
      (hheld _ column key (hl.written h Table.sameFrame_applyUpdate.schema))
  · intro hnot
    refine hself.setTable h htm Table.sameFrame_applyUpdate.schema fun column key hl hheld => ?_
    have hspared : ¬ Strands ((table.rowsOf ids).map (Table.pendingOf changes)) column key :=
      fun hs => hnot ⟨hok, table, _, column, key, ht, hp, hl, hs⟩
    simpa only [exchanged, if_true] using
      hheld.update h hl htm hprep hpassed fun _ _ => hspared

/-- What a call does to the links of tables to themselves. -/
theorem Sound.selfHeld_after_iff (h : db.Sound) (hself : db.SelfHeld) (call : Call) :
    (db.after call).SelfHeld ↔ ¬ db.StrandedBy call := by
  cases hc : db.perform call with
  | error cause =>
    simp only [Database.after, hc]
    refine iff_of_true hself ?_
    cases call with
    | update name ids assignments =>
      intro ⟨⟨result, hr⟩, _⟩
      simp [Database.perform, hr] at hc
    | _ => exact not_false
  | ok next =>
    simp only [Database.after, hc]
    cases call with
    | create schema =>
      obtain ⟨made, hm, rfl⟩ := map_eq_ok.1 hc
      exact iff_of_true (hself.createTable hm) not_false
    | drop name => exact iff_of_true (hself.dropTable hc) not_false
    | insert name values listed =>
      obtain ⟨result, hr, rfl⟩ := map_eq_ok.1 hc
      exact iff_of_true (hself.insertRow h hr) not_false
    | update name ids assignments =>
      obtain ⟨result, hr, rfl⟩ := map_eq_ok.1 hc
      exact h.selfHeld_updateRows_iff hself hr
    | delete name ids =>
      obtain ⟨result, hr, rfl⟩ := map_eq_ok.1 hc
      exact iff_of_true (hself.deleteRows h hr) not_false

theorem run_take_succ {calls : List Call} {n : Nat} (hn : calls[n]? = some call) :
    db.run (calls.take (n + 1)) = (db.run (calls.take n)).after call := by
  rw [run, run, List.take_add_one, hn, Option.toList_some, List.foldl_append]
  rfl

/-- **References of tables to themselves are held throughout a run exactly if none of its calls
strands a value**: if no update that goes through gives a referencing column a value that it takes
away from the referenced key. -/
theorem selfReferencesHeld_run_iff (name : String) (calls : List Call) :
    (∀ n, ((empty name).run (calls.take n)).SelfReferencesHeld) ↔
      ∀ n call, calls[n]? = some call → ¬ ((empty name).run (calls.take n)).StrandedBy call := by
  have hsound (n : Nat) := sound_run name (calls.take n)
  simp only [(hsound _).selfReferencesHeld_iff]
  constructor
  · intro hall n call hn
    rw [← (hsound n).selfHeld_after_iff (hall n), ← run_take_succ hn]
    exact hall (n + 1)
  · intro hnone n
    induction n with
    | zero => exact fun _ _ _ hl => nomatch hl.table_mem
    | succ n ih =>
      cases hn : calls[n]? with
      | none =>
        have hlen : calls.length ≤ n := List.getElem?_eq_none_iff.1 hn
        rw [List.take_of_length_le (by omega)] at ih ⊢
        exact ih
      | some call =>
        rw [run_take_succ hn, (hsound n).selfHeld_after_iff ih]
        exact hnone n call hn

/-- Someone who is renumbered, and given the old number as that of a superior, in one update. -/
def staffCalls : List Call :=
  [.create ⟨"staff", [⟨"id", .int, true, false, none⟩,
      ⟨"manager_id", .int, false, false, some ⟨"staff", "id"⟩⟩]⟩,
    .insert "staff" [.ofNat 1, none] none,
    .update "staff" [1] [("id", .ofNat 2), ("manager_id", .ofNat 1)]]

/-- The update goes through, and leaves a number that no one has. -/
theorem not_selfReferencesHeld_staff :
    (((empty "hr").run staffCalls).tables.map fun table => table.rows.map (·.row)) =
        [[⟨[("id", .ofNat 2), ("manager_id", .ofNat 1)]⟩]] ∧
      ¬ ((empty "hr").run staffCalls).SelfReferencesHeld := by
  refine ⟨by decide +kernel, fun hall => ?_⟩
  have hdangling : ∃ table ∈ ((empty "hr").run staffCalls).tables, ∃ column ∈ table.columns,
      ∃ ref ∈ column.references.toList, sameName ref.table table.name = true ∧
        ∃ stored ∈ table.rows, stored.row.get column.name ≠ none ∧
          ∀ key ∈ table.columns, sameName key.name ref.column = true →
            ∀ other ∈ table.rows,
              (other.row.get key.name).same (stored.row.get column.name) = false := by
    decide +kernel
  obtain ⟨table, ht, column, hc, ref, href, hsame, stored, hs, hv, hnone⟩ := hdangling
  obtain ⟨key, hr⟩ := hall table ht column hc ref (by simpa using href) hsame
  obtain ⟨hkm, hkn⟩ := ((sound_run "hr" staffCalls).tables table ht).shaped.column?_eq_some_iff.1
    hr.key_found
  obtain ⟨other, ho, hheld⟩ := hr.held stored hs hv
  rw [hnone key hkm hkn other ho] at hheld
  cases hheld

end RelStore.Database
