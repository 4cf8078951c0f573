/-
Updating rows keeps the invariant of a table.

All rows of an update get the same values, so a column is either left as it was in each of them or
gets one value in all (`get_assign_cases`). What an update was checked for is `Prepared`. The rows
after it are the rows before it with the changed ones in place (`rows_applyUpdate`), also where an
id was given twice: an index entry is then moved twice, the second time from and to the place where
it already is (`Represented.applyChange`).
-/
import RelStore.Proofs.Table.Insert

namespace RelStore.Table

variable {table : Table} {ids : List Nat} {assignments : List (String × Value)}
  {changes : List (Column × Value)} {targets : List StoredRow} {pending : List PendingUpdate}

/-- The change of a stored row. -/
def pendingOf (changes : List (Column × Value)) (stored : StoredRow) : PendingUpdate :=
  ⟨stored.id, stored.row, assign changes stored.row⟩

/-! ## Assigning -/

/-- A column is left alone in all rows, or gets one of the assigned values in all rows. -/
theorem get_assign_cases (changes : List (Column × Value)) (name : String) :
    ((∀ change ∈ changes, change.1.name ≠ name) ∧
        ∀ row, (assign changes row).get name = row.get name) ∨
      ∃ change ∈ changes, change.1.name = name ∧
        ∀ row, (assign changes row).get name = change.2 := by
  induction changes with
  | nil => exact .inl ⟨List.forall_mem_nil _, fun _ => rfl⟩
  | cons change rest ih =>
    rcases ih with ⟨hne, hrest⟩ | ⟨last, hm, hn, hlast⟩
    · by_cases hc : change.1.name = name
      · refine .inr ⟨change, List.mem_cons_self, hc, fun row => ?_⟩
        exact (hrest _).trans (by rw [Row.get_set, if_pos hc.symm])
      · refine .inl ⟨List.forall_mem_cons.2 ⟨hc, hne⟩, fun row => ?_⟩
        exact (hrest _).trans (by rw [Row.get_set, if_neg fun e => hc e.symm])
    · exact .inr ⟨last, List.mem_cons_of_mem _ hm, hn, fun row => hlast _⟩

theorem checkAssignments_eq_ok : table.checkAssignments assignments = .ok changes ↔
    List.Forall₂ (fun assignment change => table.column? assignment.1 = some change.1 ∧
      change.2 = assignment.2 ∧ change.2.conforms change.1.type = true) assignments changes := by
  have hone (assignment : String × Value) (change : Column × Value) :
      (do let column ← table.requireColumn assignment.1
          table.checkType column assignment.2
          return (column, assignment.2) : Except Cause (Column × Value)) = .ok change ↔
        table.column? assignment.1 = some change.1 ∧
          change.2 = assignment.2 ∧ change.2.conforms change.1.type = true := by
    obtain ⟨column, value⟩ := change
    simp only [bind_eq_ok, requireColumn_eq_ok, pure_eq_ok, Prod.mk.injEq]
    constructor
    · rintro ⟨_, hc, ⟨⟩, ht, rfl, rfl⟩
      exact ⟨hc, rfl, checkType_eq_ok.1 ht⟩
    · rintro ⟨hc, rfl, ht⟩
      exact ⟨column, hc, (), checkType_eq_ok.2 ht, rfl, rfl⟩
  rw [checkAssignments, mapM_eq_ok]
  simp only [hone]

theorem Shaped.typed_of_checkAssignments (h : table.Shaped)
    (hc : table.checkAssignments assignments = .ok changes) : ∀ change ∈ changes,
      change.1 ∈ table.columns ∧ change.2.conforms change.1.type = true := by
  intro change hm
  obtain ⟨_, -, hcolumn, -, ht⟩ := exists_left_of_mem (checkAssignments_eq_ok.1 hc) hm
  exact ⟨(h.column?_eq_some_iff.1 hcolumn).1, ht⟩

/-! ## What is prepared -/

/-- What an update of some rows was checked for. -/
structure Prepared (table : Table) (targets : List StoredRow) (changes : List (Column × Value)) :
    Prop where
  stored : ∀ target ∈ targets, target ∈ table.rows
  typed : ∀ change ∈ changes,
    change.1 ∈ table.columns ∧ change.2.conforms change.1.type = true
  identified : ∀ target ∈ targets, (assign changes target.row).get table.primaryKey.name ≠ none
  free : ∀ target ∈ targets, ∀ column ∈ table.columns, column.isKey = true →
    (assign changes target.row).get column.name ≠ none → ∀ stored ∈ table.rows,
      (stored.row.get column.name).key = ((assign changes target.row).get column.name).key →
        stored.id ∈ targets.map (·.id)
  alone : 1 < targets.length → ∀ change ∈ changes, change.1.isKey = true → change.2 = none

theorem prepareUpdate_eq_ok : table.prepareUpdate ids assignments = .ok pending ↔
    ∃ changes, table.checkAssignments assignments = .ok changes ∧
      (∀ target ∈ table.rowsOf ids,
        table.checkKeys ((table.rowsOf ids).map (·.id)) (assign changes target.row) = .ok ()) ∧
      (1 < (table.rowsOf ids).length → ∀ change ∈ changes, change.1.isKey = true →
        change.2 = none) ∧
      pending = (table.rowsOf ids).map (pendingOf changes) := by
  simp only [prepareUpdate, bind_eq_ok]
  refine exists_congr fun changes => and_congr_right fun _ => ?_
  have hmade (batch : List Nat) (made : List PendingUpdate) :
      ((table.rowsOf ids).mapM fun target => do
        table.checkKeys batch (assign changes target.row)
        return pendingOf changes target) = .ok made ↔
      (∀ target ∈ table.rowsOf ids, table.checkKeys batch (assign changes target.row) = .ok ()) ∧
        made = (table.rowsOf ids).map (pendingOf changes) :=
    mapM_checked_eq_ok
  constructor
  · rintro ⟨made, hm, hp⟩
    obtain ⟨hkeys, rfl⟩ := (hmade _ made).1 hm
    rw [List.length_map] at hp
    split at hp
    next hlen =>
      split at hp
      next => exact absurd hp throw_ne_ok
      next hnone =>
        refine ⟨hkeys, fun _ change hm hk => ?_, (pure_eq_ok.1 hp).symm⟩
        simpa [hk] using List.find?_eq_none.1 hnone change hm
    next hlen => exact ⟨hkeys, fun hl => absurd hl hlen, (pure_eq_ok.1 hp).symm⟩
  · rintro ⟨hkeys, halone, rfl⟩
    refine ⟨_, (hmade _ _).2 ⟨hkeys, rfl⟩, ?_⟩
    rw [List.length_map]
    split
    next hlen =>
      split
      next column value hfound =>
        have hcollides : column.isKey = true ∧ value.isSome = true := by
          simpa using List.find?_some hfound
        have hnone : value = none := halone hlen _ (List.mem_of_find?_eq_some hfound) hcollides.1
        simp [hnone] at hcollides
      next => rfl
    next => rfl

theorem Prepared.mem_columns (hp : table.Prepared targets changes) :
    ∀ column ∈ changes.map (·.1), column ∈ table.columns := by
  rw [List.forall_mem_map]
  exact fun change hm => (hp.typed change hm).1

/-- An update is prepared exactly if its changes pass all that they are checked for. -/
theorem Invariant.prepareUpdate_eq_ok (h : table.Invariant) :
    table.prepareUpdate ids assignments = .ok pending ↔
      ∃ changes, table.checkAssignments assignments = .ok changes ∧
        table.Prepared (table.rowsOf ids) changes ∧
        pending = (table.rowsOf ids).map (pendingOf changes) := by
  rw [Table.prepareUpdate_eq_ok]
  refine exists_congr fun changes => and_congr_right fun hc => ?_
  rw [← and_assoc]
  refine and_congr_left fun _ => ?_
  constructor
  · intro ⟨hkeys, halone⟩
    constructor
    case stored => exact fun target ht => ((mem_rowsOf h.ascending).1 ht).1
    case typed => exact h.shaped.typed_of_checkAssignments hc
    case identified => exact fun target ht => (h.checkKeys_eq_ok.1 (hkeys target ht)).1
    case free => exact fun target ht => (h.checkKeys_eq_ok.1 (hkeys target ht)).2
    case alone => exact halone
  · intro hprep
    exact ⟨fun target ht => h.checkKeys_eq_ok.2 ⟨hprep.identified target ht, hprep.free target ht⟩,
      hprep.alone⟩

theorem Invariant.prepared (h : table.Invariant)
    (hp : table.prepareUpdate ids assignments = .ok pending) :
    ∃ changes, table.checkAssignments assignments = .ok changes ∧
      pending = (table.rowsOf ids).map (pendingOf changes) ∧
      table.Prepared (table.rowsOf ids) changes := by
  obtain ⟨changes, hc, hprep, hmap⟩ := h.prepareUpdate_eq_ok.1 hp
  exact ⟨changes, hc, hmap, hprep⟩

/-! ## Rows after an update -/

/-- A stored row after one change. -/
def changed (stored : StoredRow) (change : PendingUpdate) : StoredRow :=
  if stored.id = change.id then { stored with row := change.after } else stored

/-- A stored row after an update. -/
def updated (targets : List StoredRow) (changes : List (Column × Value)) (stored : StoredRow) :
    StoredRow :=
  if stored ∈ targets then { stored with row := assign changes stored.row } else stored

@[simp] theorem changed_id (stored : StoredRow) (change : PendingUpdate) :
    (changed stored change).id = stored.id := by
  simp only [changed]
  split <;> rfl

@[simp] theorem updated_id (stored : StoredRow) :
    (updated targets changes stored).id = stored.id := by
  simp only [updated]
  split <;> rfl

theorem row_updated_of_mem {stored : StoredRow} (hm : stored ∈ targets) :
    (updated targets changes stored).row = assign changes stored.row := by
  rw [updated, if_pos hm]

theorem updated_of_not_mem {stored : StoredRow} (hm : stored ∉ targets) :
    updated targets changes stored = stored :=
  if_neg hm

theorem rows_applyChange (change : PendingUpdate) :
    (table.applyChange change).rows = table.rows.map (changed · change) := by
  simp only [applyChange, Option.isNone_iff_eq_none]
  split
  next hnone =>
    have hsame : ∀ stored ∈ table.rows, changed stored change = stored := by
      intro stored hs
      rw [changed, if_neg (row?_eq_none_iff.1 hnone stored hs)]
    exact ((List.map_congr_left hsame).trans table.rows.map_id).symm
  next => rfl

theorem rows_foldl_applyChange :
    (table.applyUpdate pending).rows = table.rows.map fun stored => pending.foldl changed stored := by
  simp only [applyUpdate]
  induction pending generalizing table with
  | nil => simp
  | cons change rest ih =>
    rw [List.foldl_cons, ih, rows_applyChange, List.map_map]
    rfl

theorem foldl_changed_of_mem {stored : StoredRow} {row : Row}
    (hm : ∃ change ∈ pending, change.id = stored.id)
    (hrow : ∀ change ∈ pending, change.id = stored.id → change.after = row) :
    pending.foldl changed stored = { stored with row := row } := by
  induction pending generalizing stored with
  | nil => obtain ⟨_, ⟨⟩, -⟩ := hm
  | cons change rest ih =>
    obtain ⟨hfirst, hrest⟩ := List.forall_mem_cons.1 hrow
    by_cases hlater : ∃ change ∈ rest, change.id = stored.id
    · rw [List.foldl_cons, ih (by simpa using hlater) (by simpa using hrest)]
      simp only [changed]
      split <;> rfl
    · have hid : change.id = stored.id := by
        obtain ⟨other, ho, hid⟩ := hm
        rcases List.mem_cons.1 ho with rfl | ho
        · exact hid
        · exact absurd ⟨other, ho, hid⟩ hlater
      have hstays (s : StoredRow) (hs : s.id = stored.id) : rest.foldl changed s = s := by
        refine foldl_keeps (P := (· = s)) rfl fun t ht other ho => ?_
        rw [ht, changed, if_neg fun e => hlater ⟨other, ho, e.symm.trans hs⟩]
      rw [List.foldl_cons, hstays _ (changed_id _ _), changed, if_pos hid.symm, hfirst hid]

/-- **The rows after an update**: the same ids, with the changed rows in place. -/
theorem rows_applyUpdate (hasc : (table.rows.map (·.id)).Pairwise (· < ·))
    (hsub : ∀ target ∈ targets, target ∈ table.rows) :
    (table.applyUpdate (targets.map (pendingOf changes))).rows =
      table.rows.map (updated targets changes) := by
  rw [rows_foldl_applyChange]
  refine List.map_congr_left fun stored hs => ?_
  have hsame : ∀ target ∈ targets, target.id = stored.id → target = stored :=
    fun target ht hid => eq_of_id_eq hasc (hsub target ht) hs hid
  rw [updated]
  split
  next hm =>
    refine foldl_changed_of_mem ⟨_, List.mem_map_of_mem hm, rfl⟩ fun change hc hid => ?_
    obtain ⟨target, ht, rfl⟩ := List.mem_map.1 hc
    rw [← hsame target ht hid]
    rfl
  next hm =>
    refine foldl_keeps (P := (· = stored)) rfl fun t ht change hc => ?_
    obtain ⟨target, hmem, rfl⟩ := List.mem_map.1 hc
    have hne : ¬ stored.id = (pendingOf changes target).id :=
      fun hid => hm (hsame target hmem hid.symm ▸ hmem)
    rw [ht, changed, if_neg hne]

/-! ## Indexes after an update -/

/-- A row moves in the indexes from where it is, or to where it is already. -/
theorem Represented.applyChange {change : PendingUpdate} (h : table.Represented)
    (hcurrent : ∀ stored ∈ table.rows, stored.id = change.id →
      stored.row = change.before ∨ stored.row = change.after) :
    (table.applyChange change).Represented := by
  intro index hi
  have hrows := table.rows_applyChange change
  simp only [Table.applyChange, Option.isNone_iff_eq_none] at hi hrows ⊢
  split at hi
  next hnone => rw [if_pos hnone] at hrows ⊢; exact h index hi
  next hsome =>
    rw [if_neg hsome] at hrows ⊢
    obtain ⟨old, ho, rfl⟩ := List.mem_map.1 hi
    obtain ⟨there, hthere, hthereid⟩ : ∃ stored ∈ table.rows, stored.id = change.id := by
      simpa [row?_eq_none_iff] using hsome
    refine (((h old ho).remove _ _).add _ _).congr fun id v => ?_
    simp only [Holds, Index.add, Index.remove, List.mem_map, exists_exists_and_eq_and]
    constructor
    · rintro (⟨⟨stored, hs, rfl, hk⟩, hne⟩ | ⟨rfl, hk⟩)
      · by_cases hid : stored.id = change.id
        · rcases hcurrent stored hs hid with hrow | hrow
          · exact absurd ⟨hid, by rw [← hk, hrow]⟩ hne
          · exact ⟨stored, hs, by simp [hid], by simpa [hid, ← hrow] using hk⟩
        · exact ⟨stored, hs, by simp [hid], by simpa [hid] using hk⟩
      · exact ⟨there, hthere, by simp [hthereid], by simp [hthereid, hk]⟩
    · rintro ⟨stored, hs, hid, hk⟩
      by_cases hsid : stored.id = change.id
      · simp only [hsid, if_true] at hid hk
        exact .inr ⟨hid.symm, hk.symm⟩
      · simp only [hsid, if_false] at hid hk
        exact .inl ⟨⟨stored, hs, hid, hk⟩, fun e => hsid (hid.trans e.1)⟩

/-- While changes go on, the row of each is as before it or as after it. -/
structure Midway (pending : List PendingUpdate) (table : Table) : Prop where
  represented : table.Represented
  current : ∀ change ∈ pending, ∀ stored ∈ table.rows, stored.id = change.id →
    stored.row = change.before ∨ stored.row = change.after

theorem Represented.applyUpdate (h : table.Represented)
    (hagree : ∀ p ∈ pending, ∀ q ∈ pending, p.id = q.id → p = q)
    (hcurrent : ∀ change ∈ pending, ∀ stored ∈ table.rows, stored.id = change.id →
      stored.row = change.before) : (table.applyUpdate pending).Represented := by
  have hstart : Midway pending table := ⟨h, fun c hc s hs hid => .inl (hcurrent c hc s hs hid)⟩
  refine (foldl_keeps hstart ?_).represented
  intro state ⟨hrep, hcur⟩ change hc
  refine ⟨hrep.applyChange (hcur change hc), fun other ho stored hs hid => ?_⟩
  rw [rows_applyChange] at hs
  obtain ⟨old, hold, rfl⟩ := List.mem_map.1 hs
  by_cases hold' : old.id = change.id
  · have heq : other = change := hagree other ho change hc (by rw [← hid, changed_id, hold'])
    rw [heq, changed, if_pos hold']
    exact .inr rfl
  · rw [changed, if_neg hold'] at hid ⊢
    exact hcur other ho old hold hid

/-! ## The invariant -/

theorem sameFrame_applyUpdate : table.SameFrame (table.applyUpdate pending) := by
  refine foldl_keeps ⟨rfl, rfl, rfl, rfl⟩ ?_
  intro state ⟨hs, hk, hn, hi⟩ change _
  simp only [applyChange]
  split
  · exact ⟨hs, hk, hn, hi⟩
  · exact ⟨hs, hk, hn, by simp [← hi, Index.add, Index.remove, Function.comp_def]⟩

theorem Fits.assign (h : table.Shaped) {row : Row} (hfits : table.Fits row)
    (htyped : ∀ change ∈ changes,
      change.1 ∈ table.columns ∧ change.2.conforms change.1.type = true) :
    table.Fits (assign changes row) := by
  refine foldl_keeps hfits fun row hrow change hc => ?_
  exact hrow.set h (htyped change hc).1 (htyped change hc).2

/-- A key is given a value in one row only. -/
theorem Prepared.eq_of_mem (hp : table.Prepared targets changes) {change : Column × Value}
    (hm : change ∈ changes) (hk : change.1.isKey = true) (hv : change.2 ≠ none) {a b : StoredRow}
    (ha : a ∈ targets) (hb : b ∈ targets) : a = b := by
  have hlen : targets.length ≤ 1 := by
    by_contra hmore
    exact hv (hp.alone (by omega) change hm hk)
  have hone : targets.length = 1 := by
    have := List.length_pos_of_mem ha
    omega
  obtain ⟨only, rfl⟩ := List.length_eq_one_iff.1 hone
  rw [List.mem_singleton.1 ha, List.mem_singleton.1 hb]

/-- A row outside an update has no value that the update gives a key. -/
theorem Prepared.key_ne_of_not_mem (hp : table.Prepared targets changes) (h : table.Invariant)
    {column : Column} (hc : column ∈ table.columns) (hk : column.isKey = true) {v : Value}
    (hset : ∀ row, (assign changes row).get column.name = v) (hv : v ≠ none) {a b : StoredRow}
    (ha : a ∈ targets) (hb : b ∈ table.rows) (hout : b ∉ targets) :
    v.key ≠ (b.row.get column.name).key := by
  intro hkey
  have hid := hp.free a ha column hc hk (hset a.row ▸ hv) b hb (by rw [hset, hkey])
  obtain ⟨target, htm, hti⟩ := List.mem_map.1 hid
  exact hout (eq_of_id_eq h.ascending (hp.stored target htm) hb hti ▸ htm)

/-- Rows that share a key after an update shared it before, or are one row. -/
theorem Prepared.apart (hp : table.Prepared targets changes) (h : table.Invariant)
    {column : Column} (hc : column ∈ table.columns) (hk : column.isKey = true) {a b : StoredRow}
    (ha : a ∈ table.rows) (hb : b ∈ table.rows)
    (hv : (updated targets changes a).row.get column.name ≠ none)
    (he : ((updated targets changes a).row.get column.name).key =
      ((updated targets changes b).row.get column.name).key) : a.id = b.id := by
  rcases get_assign_cases changes column.name with ⟨-, hsame⟩ | ⟨change, hm, hn, hset⟩
  · -- the column is left alone
    have hrow (s : StoredRow) :
        (updated targets changes s).row.get column.name = s.row.get column.name := by
      simp only [updated]
      split
      · exact hsame s.row
      · rfl
    rw [hrow] at hv
    rw [hrow, hrow] at he
    exact h.apart column hc hk a ha b hb hv he
  have hcolumn : change.1 = column :=
    h.shaped.columns.eq_of_name_eq (hp.typed change hm).1 hc hn
  have hin (s : StoredRow) (hs : s ∈ targets) :
      (updated targets changes s).row.get column.name = change.2 := by
    rw [row_updated_of_mem hs]
    exact hset s.row
  by_cases hat : a ∈ targets <;> by_cases hbt : b ∈ targets
  · rw [hin a hat] at hv
    rw [hp.eq_of_mem hm (hcolumn ▸ hk) hv hat hbt]
  · rw [hin a hat] at hv he
    rw [updated_of_not_mem hbt] at he
    exact absurd he (hp.key_ne_of_not_mem h hc hk hset hv hat hb hbt)
  · rw [updated_of_not_mem hat] at hv he
    rw [hin b hbt] at he
    have hvalue : change.2 ≠ none := Value.ne_none_of_key_eq he hv
    exact absurd he.symm (hp.key_ne_of_not_mem h hc hk hset hvalue hbt ha hat)
  · rw [updated_of_not_mem hat] at hv he
    rw [updated_of_not_mem hbt] at he
    exact h.apart column hc hk a ha b hb hv he

theorem Invariant.applyUpdate (h : table.Invariant) (hp : table.Prepared targets changes) :
    (table.applyUpdate (targets.map (pendingOf changes))).Invariant := by
  have hframe : table.SameFrame (table.applyUpdate (targets.map (pendingOf changes))) :=
    sameFrame_applyUpdate
  have hrows : (table.applyUpdate (targets.map (pendingOf changes))).rows =
      table.rows.map (updated targets changes) := rows_applyUpdate h.ascending hp.stored
  constructor
  case shaped => exact hframe.shaped h.shaped
  case ascending =>
    have hids : (table.rows.map (updated targets changes)).map (·.id) =
        table.rows.map (·.id) := by
      simp [Function.comp_def]
    rw [hrows, hids]
    exact h.ascending
  case fresh =>
    simp only [hrows, hframe.nextId, List.forall_mem_map, updated_id]
    exact h.fresh
  case admitted =>
    simp only [hrows, List.forall_mem_map]
    intro stored hs
    refine hframe.admits ?_
    have hadmits := h.admitted stored hs
    simp only [updated]
    split
    next hm =>
      have hfits := Fits.assign h.shaped ⟨hadmits.names, hadmits.typed⟩ hp.typed
      exact ⟨hfits.names, hfits.typed, hp.identified stored hm⟩
    next => exact hadmits
  case apart =>
    simp only [hrows, hframe.columns, List.forall_mem_map, updated_id]
    intro column hc hk a ha b hb hv he
    exact hp.apart h hc hk ha hb hv he
  case represented =>
    have hpending : ∀ change ∈ targets.map (pendingOf changes),
        ∃ target ∈ table.rows, change = pendingOf changes target := by
      intro change hm
      obtain ⟨target, ht, rfl⟩ := List.mem_map.1 hm
      exact ⟨target, hp.stored target ht, rfl⟩
    refine Represented.applyUpdate h.represented (fun p hpm q hqm hid => ?_)
      fun change hm stored hs hid => ?_
    · obtain ⟨a, ha, rfl⟩ := hpending p hpm
      obtain ⟨b, hb, rfl⟩ := hpending q hqm
      rw [eq_of_id_eq h.ascending ha hb hid]
    · obtain ⟨a, ha, rfl⟩ := hpending change hm
      rw [eq_of_id_eq h.ascending hs ha hid]
      rfl

theorem Invariant.update (h : table.Invariant)
    (hp : table.prepareUpdate ids assignments = .ok pending) :
    (table.applyUpdate pending).Invariant := by
  obtain ⟨changes, -, rfl, hprep⟩ := h.prepared hp
  exact h.applyUpdate hprep

end RelStore.Table
