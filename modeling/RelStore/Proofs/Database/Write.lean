/-
Inserting and deleting rows keeps all links held, those of a table to itself too.

An inserted row was asked of each of its references whether the referenced column holds its value,
and what a table holds it still holds with one row more. A row that is deleted was asked of each
reference to its table whether some other row holds its value there.
-/
import RelStore.Proofs.Database.Reference

namespace RelStore

open Text (sameName)

theorem Table.HasKey.mono {table other : Table} {name : String} {key : Key}
    (h : table.HasKey name key) (hsub : table.rows ⊆ other.rows) : other.HasKey name key := by
  obtain ⟨stored, hs, hk⟩ := h
  exact ⟨stored, hsub hs, hk⟩

namespace Database

variable {db : Database} {table target x y : Table} {column key : Column} {name : String}
  {row : Row} {ids : List Nat}

/-! ## Inserting -/

theorem checkReferenceHeld_eq_ok : db.checkReferenceHeld table row column = .ok () ↔
    ∀ ref, column.references = some ref → row.get column.name ≠ none →
      ∃ target, db.table? ref.table = some target ∧
        holdsValue target ref.column (row.get column.name) = true := by
  simp only [checkReferenceHeld]
  cases column.references with
  | none => simp [pure_eq_ok]
  | some ref =>
    cases hv : row.get column.name with
    | none => simp [pure_eq_ok]
    | some v =>
      simp only [Option.isSome_some, if_true, bind_eq_ok, requireTable_eq_ok, Option.some.injEq,
        forall_eq', ne_eq, reduceCtorEq, not_false_eq_true, forall_const]
      refine exists_congr fun target => and_congr_right fun _ => ?_
      cases holdsValue target ref.column (some v) with
      | false => simp [throw_ne_ok]
      | true => simp [pure_eq_ok]

/-- A row that passes the check of a reference has a value there that the key has. -/
theorem Link.hasKey_of_checkReferenceHeld (hl : db.Link table column target key) (h : db.Sound)
    (hc : db.checkReferenceHeld table row column = .ok ()) (hv : row.get column.name ≠ none) :
    target.HasKey key.name (row.get column.name).key := by
  obtain ⟨ref, href, hn, hk⟩ := hl.refers
  obtain ⟨found, hfound, hholds⟩ := checkReferenceHeld_eq_ok.1 hc ref href hv
  obtain rfl : found = target := by
    have := h.table?_eq_some_iff.2 ⟨hl.target_mem, hn⟩
    simpa [hfound] using this
  exact (hl.holdsValue_iff h hk _).1 hholds

theorem insertRow_eq_ok {values : List Value} {listed : Option (List String)}
    {result : Database × Nat} : db.insertRow name values listed = .ok result ↔
      ∃ table row, db.table? name = some table ∧ table.prepareInsert values listed = .ok row ∧
        (∀ column ∈ table.columns, db.checkReferenceHeld table row column = .ok ()) ∧
        result = (db.setTable (table.applyInsert row), table.nextId) := by
  simp only [insertRow, checkReferencesHeld, bind_eq_ok, requireTable_eq_ok, pure_eq_ok]
  constructor
  · rintro ⟨table, ht, row, hp, ⟨⟩, hall, rfl⟩
    exact ⟨table, row, ht, hp, forM_eq_ok.1 hall, rfl⟩
  · rintro ⟨table, row, ht, hp, hall, rfl⟩
    exact ⟨table, ht, row, hp, (), forM_eq_ok.2 hall, rfl⟩

theorem name_insertRow {values : List Value} {listed : Option (List String)}
    {result : Database × Nat} (hi : db.insertRow name values listed = .ok result) :
    result.1.name = db.name := by
  obtain ⟨table, row, -, -, -, rfl⟩ := insertRow_eq_ok.1 hi
  rfl

theorem Held.insert (h : db.Sound) (hl : db.Link x column y key) (hheld : Held x column y key)
    (hall : ∀ column ∈ table.columns, db.checkReferenceHeld table row column = .ok ()) :
    Held (exchanged table (table.applyInsert row) x) column
      (exchanged table (table.applyInsert row) y) key := by
  have hmore : y.rows ⊆ (exchanged table (table.applyInsert row) y).rows := by
    simp only [exchanged]
    split
    next he => exact he ▸ List.subset_append_left _ _
    next => exact List.Subset.refl _
  intro stored hs hv
  refine Table.HasKey.mono ?_ hmore
  simp only [exchanged] at hs
  split at hs
  next he =>
    subst he
    rcases List.mem_append.1 hs with hs | hs
    · exact hheld stored hs hv
    · obtain rfl := List.mem_singleton.1 hs
      exact hl.hasKey_of_checkReferenceHeld h (hall column hl.column_mem) hv
  next => exact hheld stored hs hv

theorem Sound.insertRow {values : List Value} {listed : Option (List String)}
    {result : Database × Nat} (h : db.Sound) (hi : db.insertRow name values listed = .ok result) :
    result.1.Sound := by
  obtain ⟨table, row, ht, hp, hall, rfl⟩ := insertRow_eq_ok.1 hi
  have htm := (h.table?_eq_some_iff.1 ht).1
  obtain ⟨hadmits, hapart⟩ := (h.tables table htm).admits_of_prepareInsert hp
  exact h.setTable htm rfl ((h.tables table htm).applyInsert hadmits hapart)
    fun _ _ _ _ hl _ hheld => hheld.insert h hl hall

theorem SelfHeld.insertRow {values : List Value} {listed : Option (List String)}
    {result : Database × Nat} (hself : db.SelfHeld) (h : db.Sound)
    (hi : db.insertRow name values listed = .ok result) : result.1.SelfHeld := by
  obtain ⟨table, row, ht, -, hall, rfl⟩ := insertRow_eq_ok.1 hi
  refine hself.setTable h (h.table?_eq_some_iff.1 ht).1 rfl fun column key hl hheld => ?_
  simpa only [exchanged, if_true] using hheld.insert h hl hall

/-! ## Deleting -/

/-- A reference lets rows go if all rows that hold a value of theirs go too. -/
theorem Link.checkDeleteOf_eq_ok (hl : db.Link x column table key) (h : db.Sound)
    {ref : Reference} (hfound : table.column? ref.column = some key) {targets : List StoredRow} :
    checkDeleteOf table targets ⟨x, column, ref⟩ = .ok () ↔
      ∀ target ∈ targets, target.row.get key.name ≠ none → ∀ stored ∈ x.rows,
        (stored.row.get column.name).key = (target.row.get key.name).key →
          x = table ∧ stored.id ∈ targets.map (·.id) := by
  obtain ⟨index, hi, hrep⟩ := hl.index?_eq_some h
  simp only [checkDeleteOf, Table.requireColumn_eq_ok.2 hfound, hi]
  refine forM_eq_ok.trans (forall₂_congr fun target _ => ?_)
  have hremains {id : Nat} : (!sameName x.name table.name || !(targets.map (·.id)).contains id) = false ↔
      x = table ∧ id ∈ targets.map (·.id) := by
    rw [Bool.or_eq_false_iff, Bool.not_eq_false', Bool.not_eq_false', List.contains_iff_mem,
      h.sameName_iff_eq hl.table_mem hl.target_mem]
  split
  next hrefused =>
    obtain ⟨hsome, hany⟩ := Bool.and_eq_true_iff.1 hrefused
    obtain ⟨id, hid, hstays⟩ := List.any_eq_true.1 hany
    obtain ⟨stored, hs, rfl, hk⟩ := (hrep.mem_lookup _ _).1 hid
    refine iff_of_false throw_ne_ok fun hall => ?_
    rw [hremains.2 (hall (Option.isSome_iff_ne_none.1 hsome) stored hs hk)] at hstays
    cases hstays
  next hnot =>
    refine iff_of_true rfl fun hv stored hs hk => ?_
    simp only [Option.isSome_iff_ne_none.2 hv, Bool.true_and, Bool.not_eq_true,
      List.any_eq_false] at hnot
    exact hremains.1 (hnot stored.id ((hrep.mem_lookup _ _).2 ⟨stored, hs, rfl, hk⟩))

theorem deleteRows_eq_ok {result : Database × Nat} : db.deleteRows name ids = .ok result ↔
    ∃ table, db.table? name = some table ∧
      (∀ r ∈ db.referrers table.name, checkDeleteOf table (table.rowsOf ids) r = .ok ()) ∧
      result = (db.setTable (table.delete ((table.rowsOf ids).map (·.id))).1,
        (table.delete ((table.rowsOf ids).map (·.id))).2) := by
  simp only [deleteRows, bind_eq_ok, requireTable_eq_ok, pure_eq_ok]
  refine exists_congr fun table => and_congr_right fun _ => ?_
  constructor
  · rintro ⟨⟨⟩, hall, rfl⟩
    exact ⟨forM_eq_ok.1 hall, rfl⟩
  · rintro ⟨hall, rfl⟩
    exact ⟨(), forM_eq_ok.2 hall, rfl⟩

theorem name_deleteRows {result : Database × Nat} (hd : db.deleteRows name ids = .ok result) :
    result.1.name = db.name := by
  obtain ⟨table, -, -, rfl⟩ := deleteRows_eq_ok.1 hd
  rfl

theorem Held.delete (h : db.Sound) (hl : db.Link x column y key) (hheld : Held x column y key)
    (htm : table ∈ db.tables)
    (hall : ∀ r ∈ db.referrers table.name, checkDeleteOf table (table.rowsOf ids) r = .ok ()) :
    Held (exchanged table (table.delete ((table.rowsOf ids).map (·.id))).1 x) column
      (exchanged table (table.delete ((table.rowsOf ids).map (·.id))).1 y) key := by
  have hstays {stored : StoredRow} :
      stored ∈ (table.delete ((table.rowsOf ids).map (·.id))).1.rows ↔
        stored ∈ table.rows ∧ stored.id ∉ (table.rowsOf ids).map (·.id) := by
    rw [Table.rows_delete, List.mem_filter]
    simp
  intro stored hs hv
  have hsx : stored ∈ x.rows ∧
      (x = table → stored.id ∉ (table.rowsOf ids).map (·.id)) := by
    simp only [exchanged] at hs
    split at hs
    next he =>
      subst he
      exact ⟨(hstays.1 hs).1, fun _ => (hstays.1 hs).2⟩
    next he => exact ⟨hs, fun e => absurd e he⟩
  obtain ⟨other, ho, hk⟩ := hheld stored hsx.1 hv
  simp only [exchanged]
  split
  next he =>
    subst he
    refine ⟨other, hstays.2 ⟨ho, fun hgone => ?_⟩, hk⟩
    -- the referenced row goes, so that the row that refers to it would have to go too
    have hasc := (h.tables y htm).ascending
    obtain ⟨target, htarget, hid⟩ := List.mem_map.1 hgone
    obtain rfl := Table.eq_of_id_eq hasc ((Table.mem_rowsOf hasc).1 htarget).1 ho hid
    have hvalue : target.row.get key.name ≠ none := Value.ne_none_of_key_eq hk.symm hv
    obtain ⟨ref, hr, hfound⟩ := hl.mem_referrers
    obtain ⟨hxy, hmem⟩ := (hl.checkDeleteOf_eq_ok h hfound).1 (hall _ hr) target htarget hvalue
      stored hsx.1 hk.symm
    exact hsx.2 hxy hmem
  next => exact ⟨other, ho, hk⟩

theorem Sound.deleteRows {result : Database × Nat} (h : db.Sound)
    (hd : db.deleteRows name ids = .ok result) : result.1.Sound := by
  obtain ⟨table, ht, hall, rfl⟩ := deleteRows_eq_ok.1 hd
  have htm := (h.table?_eq_some_iff.1 ht).1
  exact h.setTable htm (Table.sameFrame_delete _).schema ((h.tables table htm).delete _)
    fun _ _ _ _ hl _ hheld => hheld.delete h hl htm hall

theorem SelfHeld.deleteRows {result : Database × Nat} (hself : db.SelfHeld) (h : db.Sound)
    (hd : db.deleteRows name ids = .ok result) : result.1.SelfHeld := by
  obtain ⟨table, ht, hall, rfl⟩ := deleteRows_eq_ok.1 hd
  have htm := (h.table?_eq_some_iff.1 ht).1
  refine hself.setTable h htm (Table.sameFrame_delete _).schema fun column key hl hheld => ?_
  simpa only [exchanged, if_true] using hheld.delete h hl htm hall

end Database

end RelStore
