/-
Updating rows keeps links between two tables held, and links of a table to itself with one
exception.

The values that an update writes are looked for in the referenced column as it is before the
update, and the values that it takes out of a key must not be held by rows that the update leaves
alone, nor by rows that it changes and that still hold them afterwards. The latter rows are looked
for in the index, which knows them by what they held before. So a row that comes to hold a value
by the very update that takes the value away passes both checks (`Strands`). This is the only case
in which a link that is held is not held after an update (`Held.update`, `not_held_of_strands`).
-/
import RelStore.Proofs.Database.Write

namespace RelStore.Database

open Table (pendingOf updated assign)

variable {db : Database} {table x y : Table} {column key : Column} {name : String}
  {ids : List Nat} {assignments : List (String × Value)} {changes : List (Column × Value)}
  {changed : List Column} {targets : List StoredRow} {pending : List PendingUpdate}

/-- The changes of some rows give a column a value that they take away from a key. -/
def Strands (pending : List PendingUpdate) (column key : Column) : Prop :=
  ∃ p ∈ pending, ∃ q ∈ pending, p.after.get column.name ≠ none ∧
    (q.before.get key.name).key = (p.after.get column.name).key ∧
    (q.after.get key.name).key ≠ (p.after.get column.name).key

/-! ## What an update is checked for -/

/-- The columns that are looked up again are those of the changes. -/
theorem mapM_requireColumn (hc : table.checkAssignments assignments = .ok changes) :
    (assignments.mapM fun (name, _) => table.requireColumn name) = .ok (changes.map (·.1)) :=
  mapM_eq_ok.2 <| List.forall₂_map_right_iff.2 <|
    (Table.checkAssignments_eq_ok.1 hc).imp fun _ _ h => Table.requireColumn_eq_ok.2 h.1

theorem changed_eq (hc : table.checkAssignments assignments = .ok changes)
    (hm : (assignments.mapM fun (name, _) => table.requireColumn name) = .ok changed) :
    changed = changes.map (·.1) :=
  Except.ok.inj (hm.symm.trans (mapM_requireColumn hc))

/-- What a successful update passed: the check of the references that it writes, and that of the
references to what it changes. -/
structure Passed (db : Database) (table : Table) (pending : List PendingUpdate)
    (changed : List Column) : Prop where
  held : ∀ change ∈ pending, ∀ column ∈ changed,
    db.checkReferenceHeld table change.after column = .ok ()
  restricted : ∀ r ∈ db.referrers table.name, checkUpdateOf table pending changed r = .ok ()

/-- Without a reference among the changed columns there is nothing to look for. -/
theorem checkReferencesHeld_iff :
    (changed.any (·.references.isSome) = true →
      (pending.forM fun change => db.checkReferencesHeld table change.after changed) = .ok ()) ↔
    ∀ change ∈ pending, ∀ column ∈ changed,
      db.checkReferenceHeld table change.after column = .ok () := by
  simp only [checkReferencesHeld, forM_eq_ok]
  constructor
  · intro h change hm column hc
    by_cases hany : changed.any (·.references.isSome) = true
    · exact h hany change hm column hc
    · refine checkReferenceHeld_eq_ok.2 fun ref href => absurd ?_ hany
      exact List.any_eq_true.2 ⟨column, hc, by simp [href]⟩
  · exact fun h _ => h

theorem updateRows_eq_ok {result : Database × Nat} :
    db.updateRows name ids assignments = .ok result ↔ ∃ table pending changed,
      db.table? name = some table ∧ table.prepareUpdate ids assignments = .ok pending ∧
        (assignments.mapM fun (name, _) => table.requireColumn name) = .ok changed ∧
        db.Passed table pending changed ∧
        result = (db.setTable (table.applyUpdate pending), pending.length) := by
  simp only [updateRows, bind_eq_ok, requireTable_eq_ok, ite_bind_eq_ok, checkReferencesHeld_iff,
    pure_eq_ok]
  constructor
  · rintro ⟨table, ht, pending, hp, changed, hm, hheld, ⟨⟩, hr, rfl⟩
    exact ⟨table, pending, changed, ht, hp, hm, ⟨hheld, forM_eq_ok.1 hr⟩, rfl⟩
  · rintro ⟨table, pending, changed, ht, hp, hm, ⟨hheld, hr⟩, rfl⟩
    exact ⟨table, ht, pending, hp, changed, hm, hheld, (), forM_eq_ok.2 hr, rfl⟩

theorem name_updateRows {result : Database × Nat}
    (hu : db.updateRows name ids assignments = .ok result) : result.1.name = db.name := by
  obtain ⟨table, pending, changed, -, -, -, -, rfl⟩ := updateRows_eq_ok.1 hu
  rfl

/-- The column that a reference leads to is found among the changed ones, if it is one of them. -/
theorem Link.find?_changed (hl : db.Link x column table key) (h : db.Sound) {ref : Reference}
    (hfound : table.column? ref.column = some key)
    (hsub : ∀ column ∈ changed, column ∈ table.columns) {found : Column} :
    changed.find? (fun column => Text.sameName column.name ref.column) = some found ↔
      found = key ∧ key ∈ changed := by
  have hshaped := (h.tables table hl.target_mem).shaped
  obtain ⟨hkm, hkn⟩ := hshaped.column?_eq_some_iff.1 hfound
  have hkey {other : Column} (hm : other ∈ changed)
      (hn : Text.sameName other.name ref.column = true) : other = key :=
    hshaped.columns.eq_of_sameName (hsub other hm) hkm
      (Text.sameName_trans hn (Text.sameName_comm _ _ ▸ hkn))
  constructor
  · intro hf
    have hm := List.mem_of_find?_eq_some hf
    obtain rfl := hkey hm (by simpa using List.find?_some hf)
    exact ⟨rfl, hm⟩
  · rintro ⟨rfl, hm⟩
    obtain ⟨other, hf⟩ : ∃ other,
        changed.find? (fun column => Text.sameName column.name ref.column) = some other :=
      Option.isSome_iff_exists.1 (List.find?_isSome.2 ⟨found, hm, hkn⟩)
    rw [hf, hkey (List.mem_of_find?_eq_some hf) (by simpa using List.find?_some hf)]

/-- A reference lets values go out of a key if no row holds one of them, as far as the rows are
known before the update and those that it changes are known after it. -/
theorem Link.checkUpdateOf_eq_ok (hl : db.Link x column table key) (h : db.Sound)
    {ref : Reference} (hfound : table.column? ref.column = some key)
    (hsub : ∀ column ∈ changed, column ∈ table.columns) :
    checkUpdateOf table pending changed ⟨x, column, ref⟩ = .ok () ↔
      (key ∈ changed → ∀ change ∈ pending, change.before.get key.name ≠ none →
        (change.before.get key.name).key ≠ (change.after.get key.name).key → ∀ stored ∈ x.rows,
          (stored.row.get column.name).key = (change.before.get key.name).key →
            stillHolds table pending ⟨x, column, ref⟩ (change.before.get key.name) stored.id =
              false) := by
  obtain ⟨index, hi, hrep⟩ := hl.index?_eq_some h
  by_cases hkey : key ∈ changed
  case neg =>
    have hnone : changed.find? (fun column => Text.sameName column.name ref.column) = none :=
      Option.eq_none_iff_forall_not_mem.2 fun found hf =>
        hkey ((hl.find?_changed h hfound hsub).1 hf).2
    simp only [checkUpdateOf, hnone]
    exact iff_of_true rfl fun hm => absurd hm hkey
  simp only [checkUpdateOf, (hl.find?_changed h hfound hsub).2 ⟨rfl, hkey⟩, hi, hkey, forall_const]
  refine forM_eq_ok.trans (forall₂_congr fun change _ => ?_)
  split
  next hgoes =>
    simp only [Bool.and_eq_true, Option.isSome_iff_ne_none, decide_eq_true_eq] at hgoes
    simp only [hgoes.1, hgoes.2, ne_eq, not_false_eq_true, forall_const]
    split
    next hany =>
      obtain ⟨id, hid, hholds⟩ := List.any_eq_true.1 hany
      obtain ⟨stored, hs, rfl, hk⟩ := (hrep.mem_lookup _ _).1 hid
      refine iff_of_false throw_ne_ok fun hall => ?_
      rw [hall stored hs hk] at hholds
      cases hholds
    next hnot =>
      simp only [Bool.not_eq_true, List.any_eq_false] at hnot
      exact iff_of_true rfl fun stored hs hk =>
        by simpa using hnot stored.id ((hrep.mem_lookup _ _).2 ⟨stored, hs, rfl, hk⟩)
  next hstays =>
    refine iff_of_true rfl fun hv hgoes => absurd ?_ hstays
    simp only [Option.isSome_iff_ne_none.2 hv, hgoes, ne_eq, not_false_eq_true, decide_true,
      Bool.and_self]

/-- A row that no longer holds a value after an update is one that the update changes. -/
theorem Link.of_stillHolds_eq_false (hl : db.Link x column table key) (h : db.Sound)
    {ref : Reference} {v : Value} {id : Nat}
    (hgone : stillHolds table pending ⟨x, column, ref⟩ v id = false) :
    x = table ∧ ∃ change ∈ pending, change.id = id := by
  simp only [stillHolds, afterUpdate] at hgone
  split at hgone
  next after hafter =>
    simp only [Option.ite_none_right_eq_some, Option.map_eq_some_iff] at hafter
    obtain ⟨hsame, change, hchange, -⟩ := hafter
    exact ⟨(h.sameName_iff_eq hl.table_mem hl.target_mem).1 hsame, change,
      List.mem_of_find?_eq_some hchange, by simpa using List.find?_some hchange⟩
  next => cases hgone

/-! ## Links after an update -/

/-- A row after an update is one that the update leaves alone or one that it changes. -/
theorem mem_rows_exchanged {written : Table}
    (hrows : written.rows = table.rows.map (updated targets changes)) {stored : StoredRow}
    (hs : stored ∈ (exchanged table written x).rows) :
    stored ∈ x.rows ∧ (x = table → stored ∉ targets) ∨
      x = table ∧ ∃ old ∈ targets, stored = { old with row := assign changes old.row } := by
  rw [exchanged] at hs
  split at hs
  next he =>
    rw [hrows] at hs
    obtain ⟨old, ho, rfl⟩ := List.mem_map.1 hs
    rw [updated]
    split
    next hm => exact .inr ⟨he, old, hm, rfl⟩
    next hm => exact .inl ⟨he ▸ ho, fun _ => hm⟩
  next he => exact .inl ⟨hs, fun e => absurd e he⟩

/-- A column in which an update gives a row another value is one that the update assigns. -/
theorem mem_changed_of_get_ne (hsound : db.Sound) (htm : table ∈ db.tables)
    (hprep : table.Prepared targets changes) (hc : column ∈ table.columns) {row : Row}
    (hne : (assign changes row).get column.name ≠ row.get column.name) :
    column ∈ changes.map (·.1) := by
  rcases Table.get_assign_cases changes column.name with ⟨-, hsame⟩ | ⟨change, hm, hn, -⟩
  · exact absurd (hsame row) hne
  · have hcolumn : change.1 = column := (hsound.tables table htm).shaped.columns.eq_of_name_eq
      (hprep.typed change hm).1 hc hn
    exact hcolumn ▸ List.mem_map_of_mem hm

/-- What a row holds after an update, the key has before it. -/
theorem Held.hasKey_before (h : db.Sound) (hl : db.Link x column y key)
    (hheld : Held x column y key) (hprep : table.Prepared targets changes)
    (hpassed : db.Passed table (targets.map (pendingOf changes)) (changes.map (·.1)))
    {stored : StoredRow} (hs : stored ∈ x.rows ∨
      x = table ∧ ∃ old ∈ targets, stored = { old with row := assign changes old.row })
    (hv : stored.row.get column.name ≠ none) :
    y.HasKey key.name (stored.row.get column.name).key := by
  rcases hs with hsx | ⟨rfl, old, ho, rfl⟩
  · exact hheld stored hsx hv
  · by_cases hsame : (assign changes old.row).get column.name = old.row.get column.name
    · simp only [hsame] at hv ⊢
      exact hheld old (hprep.stored old ho) hv
    · have hassigned := mem_changed_of_get_ne h hl.table_mem hprep hl.column_mem hsame
      exact hl.hasKey_of_checkReferenceHeld h
        (hpassed.held _ (List.mem_map_of_mem ho) column hassigned) hv

/-- No row that an update leaves alone holds a value that the update takes out of a key. -/
theorem Link.keeps_value (hl : db.Link x column table key) (h : db.Sound)
    (hprep : table.Prepared targets changes)
    (hpassed : db.Passed table (targets.map (pendingOf changes)) (changes.map (·.1)))
    {stored other : StoredRow} (hs : stored ∈ x.rows) (hout : x = table → stored ∉ targets)
    (hother : other ∈ targets) (hv : stored.row.get column.name ≠ none)
    (hk : (other.row.get key.name).key = (stored.row.get column.name).key) :
    ((assign changes other.row).get key.name).key = (stored.row.get column.name).key := by
  by_contra hgoes
  have hvalue : other.row.get key.name ≠ none := Value.ne_none_of_key_eq hk.symm hv
  have hassigned : key ∈ changes.map (·.1) :=
    mem_changed_of_get_ne h hl.target_mem hprep (hl.key_spec h).1 fun e => hgoes (by rw [e, hk])
  obtain ⟨ref, hr, hfound⟩ := hl.mem_referrers
  obtain ⟨hx, change, hm, hid⟩ := hl.of_stillHolds_eq_false h <|
    (hl.checkUpdateOf_eq_ok h hfound hprep.mem_columns).1 (hpassed.restricted _ hr) hassigned _
      (List.mem_map_of_mem hother) hvalue (fun e => hgoes (e ▸ hk)) stored hs hk.symm
  obtain ⟨target, ht, rfl⟩ := List.mem_map.1 hm
  have hsame : target = stored :=
    Table.eq_of_id_eq (h.tables table hl.target_mem).ascending (hprep.stored target ht) (hx ▸ hs) hid
  exact hout hx (hsame ▸ ht)

/-- An update keeps a link held, unless it is one of the table to itself and the update strands a
value. -/
theorem Held.update (h : db.Sound) (hl : db.Link x column y key) (hheld : Held x column y key)
    (htm : table ∈ db.tables) (hprep : table.Prepared targets changes)
    (hpassed : db.Passed table (targets.map (pendingOf changes)) (changes.map (·.1)))
    (hnot : x = y → x = table → ¬ Strands (targets.map (pendingOf changes)) column key) :
    Held (exchanged table (table.applyUpdate (targets.map (pendingOf changes))) x) column
      (exchanged table (table.applyUpdate (targets.map (pendingOf changes))) y) key := by
  have hrows : (table.applyUpdate (targets.map (pendingOf changes))).rows =
      table.rows.map (updated targets changes) :=
    Table.rows_applyUpdate (h.tables table htm).ascending hprep.stored
  intro stored hs hv
  have hbefore := mem_rows_exchanged hrows hs
  obtain ⟨other, ho, hk⟩ := hheld.hasKey_before h hl hprep hpassed (hbefore.imp_left And.left) hv
  rw [exchanged]
  split
  case isFalse => exact ⟨other, ho, hk⟩
  case isTrue he =>
    subst he
    rw [Table.HasKey, hrows]
    refine ⟨updated targets changes other, List.mem_map_of_mem ho, ?_⟩
    rw [updated]
    split
    case isFalse => exact hk
    case isTrue hmem =>
      rcases hbefore with ⟨hsx, hout⟩ | ⟨hxy, old, hold, rfl⟩
      · exact hl.keeps_value h hprep hpassed hsx hout hmem hv hk
      · by_contra hgoes
        exact hnot hxy hxy
          ⟨_, List.mem_map_of_mem hold, _, List.mem_map_of_mem hmem, hv, hk, hgoes⟩

/-- A value that an update takes out of a key is not in it any more. -/
theorem not_hasKey_of_gone (h : table.Invariant) (hprep : table.Prepared targets changes)
    (hkm : key ∈ table.columns) (hkey : key.isKey = true) {gone : StoredRow}
    (hgone : gone ∈ targets) (hv : gone.row.get key.name ≠ none)
    (hgoes : ((assign changes gone.row).get key.name).key ≠ (gone.row.get key.name).key) :
    ¬ (table.applyUpdate (targets.map (pendingOf changes))).HasKey key.name
      (gone.row.get key.name).key := by
  rintro ⟨_, hm, hk⟩
  rw [Table.rows_applyUpdate h.ascending hprep.stored] at hm
  obtain ⟨other, ho, rfl⟩ := List.mem_map.1 hm
  simp only [updated] at hk
  split at hk
  next hother =>
    -- a row of the update has the key that the changed row has
    rcases Table.get_assign_cases changes key.name with ⟨-, hsame⟩ | ⟨change, -, -, hset⟩
    · exact hgoes (by rw [hsame])
    · refine hgoes (Eq.trans ?_ hk)
      simp only [hset]
  next hother =>
    -- a row that the update leaves alone shares no key with one that it changes
    have hid := h.apart key hkm hkey other ho gone (hprep.stored gone hgone)
      (Value.ne_none_of_key_eq hk.symm hv) hk
    exact hother (Table.eq_of_id_eq h.ascending ho (hprep.stored gone hgone) hid ▸ hgone)

/-- What an update strands is not held. -/
theorem not_held_of_strands (h : db.Sound) (hl : db.Link table column table key)
    (hprep : table.Prepared targets changes)
    (hs : Strands (targets.map (pendingOf changes)) column key) :
    ¬ Held (table.applyUpdate (targets.map (pendingOf changes))) column
      (table.applyUpdate (targets.map (pendingOf changes))) key := by
  intro hheld
  have hinv := h.tables table hl.table_mem
  obtain ⟨hkm, hkey, -⟩ := hl.key_spec h
  obtain ⟨p, hp, q, hq, hv, hbefore, hafter⟩ := hs
  obtain ⟨holder, hholder, rfl⟩ := List.mem_map.1 hp
  obtain ⟨gone, hgone, rfl⟩ := List.mem_map.1 hq
  have hstored : updated targets changes holder ∈
      (table.applyUpdate (targets.map (pendingOf changes))).rows := by
    rw [Table.rows_applyUpdate hinv.ascending hprep.stored]
    exact List.mem_map_of_mem (hprep.stored holder hholder)
  have hkept := hheld _ hstored (Table.row_updated_of_mem hholder ▸ hv)
  rw [Table.row_updated_of_mem hholder] at hkept
  refine not_hasKey_of_gone hinv hprep hkm hkey hgone (Value.ne_none_of_key_eq hbefore.symm hv)
    (fun e => hafter (e.trans hbefore)) ?_
  exact hbefore.symm ▸ hkept

end RelStore.Database
