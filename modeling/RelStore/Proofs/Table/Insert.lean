/-
Inserting a row keeps the invariant of a table.

A prepared row has exactly the columns of the table, each with a value of its type: it begins as a
row of NULLs and is changed in one listed column after the other (`Fits`). The check of its keys
then makes it one that may stand beside the others (`Invariant.applyInsert`).
-/
import RelStore.Proofs.Table.Invariant

namespace RelStore.Table

variable {table : Table} {row : Row} {values : List Value} {listed : Option (List String)}

/-- The columns that the values of an insertion are for. -/
def targets (table : Table) : Option (List String) → Except Cause (List Column)
  | some names => names.mapM table.requireColumn
  | none => .ok table.columns

/-- A row of NULLs. -/
def blank (table : Table) : Row := .ofList (table.columns.map fun column => (column.name, none))

theorem prepareInsert_eq_ok : table.prepareInsert values listed = .ok row ↔
    ∃ columns, table.targets listed = .ok columns ∧ values.length = columns.length ∧
      table.fillRow [] table.blank (columns.zip values) = .ok row ∧
      table.checkKeys [] row = .ok () := by
  have hfilled (columns : List Column) :
      (table.fillRow [] table.blank (columns.zip values) >>= fun row =>
        table.checkKeys [] row >>= fun _ => pure row) = .ok row ↔
      table.fillRow [] table.blank (columns.zip values) = .ok row ∧
        table.checkKeys [] row = .ok () := by
    simp only [bind_eq_ok, pure_eq_ok]
    constructor
    · rintro ⟨_, hf, ⟨⟩, hc, rfl⟩
      exact ⟨hf, hc⟩
    · intro ⟨hf, hc⟩
      exact ⟨row, hf, (), hc, rfl⟩
  cases listed with
  | none =>
    simp only [prepareInsert, targets, pure_bind, Except.ok.injEq, exists_eq_left']
    by_cases hlen : values.length = table.columns.length
    · simp only [hlen, ne_eq, not_true_eq_false, if_false, true_and]
      exact hfilled table.columns
    · simp [hlen, bind_eq_ok, throw_ne_ok]
  | some names =>
    simp only [prepareInsert, targets, bind_eq_ok (x := names.mapM table.requireColumn)]
    refine exists_congr fun columns => and_congr_right fun _ => ?_
    by_cases hlen : values.length = columns.length
    · simp only [hlen, ne_eq, not_true_eq_false, if_false, true_and]
      exact hfilled columns
    · simp [hlen, bind_eq_ok, throw_ne_ok]

/-! ## What is prepared -/

/-- A row that has the columns of the table with values of their types. -/
structure Fits (table : Table) (row : Row) : Prop where
  names : row.names = table.columns.map (·.name)
  typed : ∀ column ∈ table.columns, (row.get column.name).conforms column.type = true

theorem Shaped.fits_blank (h : table.Shaped) : table.Fits table.blank where
  names := by
    have hnames : (table.columns.map fun column => (column.name, (none : Value))).map (·.1) =
        table.columns.map (·.name) := by
      simp
    rw [blank, Row.names_ofList (by rw [hnames]; exact h.nodup_names), hnames]
  typed column _ := by
    have hnone : table.blank.get column.name = none := by
      have := Row.get_foldl_set_none (table.columns.map (·.name)) Row.empty column.name rfl
      rwa [List.map_map] at this
    rw [hnone, Value.conforms_none]

theorem Fits.set (hfits : table.Fits row) (h : table.Shaped) {column : Column} {value : Value}
    (hc : column ∈ table.columns) (hv : value.conforms column.type = true) :
    table.Fits (row.set column.name value) where
  names := by
    have hmem : column.name ∈ row.names := hfits.names ▸ List.mem_map_of_mem hc
    rw [Row.names_set_of_mem value hmem, hfits.names]
  typed other ho := by
    rw [Row.get_set]
    split
    next he => rwa [h.columns.eq_of_name_eq ho hc he]
    next => exact hfits.typed other ho

theorem checkType_eq_ok {column : Column} {value : Value} :
    table.checkType column value = .ok () ↔ value.conforms column.type = true := by
  simp only [checkType]
  split <;> simp_all

theorem Fits.fillRow (h : table.Shaped) {assigned : List String} {pairs : List (Column × Value)}
    {filled : Row} (hfits : table.Fits row) (hc : ∀ pair ∈ pairs, pair.1 ∈ table.columns)
    (hf : table.fillRow assigned row pairs = .ok filled) : table.Fits filled := by
  induction pairs generalizing assigned row with
  | nil =>
    cases hf
    exact hfits
  | cons pair rest ih =>
    obtain ⟨column, value⟩ := pair
    obtain ⟨hcolumn, hrest⟩ := List.forall_mem_cons.1 hc
    simp only [Table.fillRow] at hf
    split at hf
    · simp [bind_eq_ok, throw_ne_ok] at hf
    · obtain ⟨_, ht, hf⟩ := bind_eq_ok.1 hf
      exact ih (hfits.set h hcolumn (checkType_eq_ok.1 ht)) hrest hf

theorem Shaped.mem_of_targets (h : table.Shaped) {columns : List Column}
    (ht : table.targets listed = .ok columns) : ∀ column ∈ columns, column ∈ table.columns := by
  cases listed with
  | none =>
    cases ht
    exact fun _ hc => hc
  | some names =>
    have hall := mapM_eq_ok.1 ht
    intro column hc
    obtain ⟨name, -, hr⟩ := exists_left_of_mem hall hc
    exact h.mem_of_requireColumn hr

/-- A prepared row is one that the table admits, and shares no key with a row of the table. -/
theorem Invariant.admits_of_prepareInsert (h : table.Invariant)
    (hp : table.prepareInsert values listed = .ok row) : table.Admits row ∧
      ∀ column ∈ table.columns, column.isKey = true → row.get column.name ≠ none →
        ∀ stored ∈ table.rows, (stored.row.get column.name).key ≠ (row.get column.name).key := by
  obtain ⟨columns, ht, -, hf, hc⟩ := prepareInsert_eq_ok.1 hp
  have hpairs : ∀ pair ∈ columns.zip values, pair.1 ∈ table.columns :=
    fun pair hm => h.shaped.mem_of_targets ht _ (List.of_mem_zip hm).1
  have hfits := h.shaped.fits_blank.fillRow h.shaped hpairs hf
  obtain ⟨hid, hkeys⟩ := h.checkKeys_eq_ok.1 hc
  refine ⟨⟨hfits.names, hfits.typed, hid⟩, fun column hm hk hv stored hs he => ?_⟩
  exact List.not_mem_nil (hkeys column hm hk hv stored hs he)

/-! ## What is applied -/

theorem Invariant.applyInsert (h : table.Invariant) (hadmits : table.Admits row)
    (hapart : ∀ column ∈ table.columns, column.isKey = true → row.get column.name ≠ none →
      ∀ stored ∈ table.rows, (stored.row.get column.name).key ≠ (row.get column.name).key) :
    (table.applyInsert row).Invariant where
  shaped := h.shaped.congr rfl rfl (by simp [Table.applyInsert, Index.add, Function.comp_def])
  ascending := by
    have hbelow : ∀ id ∈ table.rows.map (·.id), id < table.nextId := by
      simpa using h.fresh
    simp only [Table.applyInsert, List.map_append, List.pairwise_append]
    exact ⟨h.ascending, by simp, fun id hid other ho => by
      rw [List.mem_singleton.1 ho]
      exact hbelow id hid⟩
  fresh stored hs := by
    rcases List.mem_append.1 hs with hs | hs
    · exact Nat.lt_succ_of_lt (h.fresh stored hs)
    · rw [List.mem_singleton.1 hs]
      exact Nat.lt_succ_self _
  admitted stored hs := by
    rcases List.mem_append.1 hs with hs | hs
    · obtain ⟨hn, ht, hi⟩ := h.admitted stored hs
      exact ⟨hn, ht, hi⟩
    · rw [List.mem_singleton.1 hs]
      exact ⟨hadmits.names, hadmits.typed, hadmits.identified⟩
  apart column hc hk a ha b hb hv he := by
    rcases List.mem_append.1 ha with ha | ha <;> rcases List.mem_append.1 hb with hb | hb
    · exact h.apart column hc hk a ha b hb hv he
    · obtain rfl := List.mem_singleton.1 hb
      have hv' : row.get column.name ≠ none := Value.ne_none_of_key_eq he hv
      exact absurd he (hapart column hc hk hv' a ha)
    · obtain rfl := List.mem_singleton.1 ha
      exact absurd he.symm (hapart column hc hk hv b hb)
    · rw [List.mem_singleton.1 ha, List.mem_singleton.1 hb]
  represented index hi := by
    obtain ⟨old, ho, rfl⟩ := List.mem_map.1 hi
    refine ((h.represented old ho).add _ _).congr fun id v => ?_
    simp only [Holds, Table.applyInsert, List.mem_append, List.mem_singleton, Index.add]
    constructor
    · rintro (⟨stored, hs, hid, hk⟩ | ⟨rfl, hk⟩)
      · exact ⟨stored, .inl hs, hid, hk⟩
      · exact ⟨_, .inr rfl, rfl, hk.symm⟩
    · rintro ⟨stored, hs | rfl, hid, hk⟩
      · exact .inl ⟨stored, hs, hid, hk⟩
      · exact .inr ⟨hid.symm, hk.symm⟩

theorem insert_eq_ok {result : Table × Nat} : table.insert values listed = .ok result ↔
    ∃ row, table.prepareInsert values listed = .ok row ∧
      result = (table.applyInsert row, table.nextId) := by
  simp only [Table.insert, bind_eq_ok, pure_eq_ok]
  exact exists_congr fun row => and_congr_right fun _ => eq_comm

theorem Invariant.insert (h : table.Invariant) {result : Table × Nat}
    (hi : table.insert values listed = .ok result) : result.1.Invariant := by
  obtain ⟨row, hp, rfl⟩ := insert_eq_ok.1 hi
  obtain ⟨hadmits, hapart⟩ := h.admits_of_prepareInsert hp
  exact h.applyInsert hadmits hapart

end RelStore.Table
