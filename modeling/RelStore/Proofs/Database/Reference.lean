/-
References between the tables of a database.

A `Link` is a referencing column of one table together with the key, of another table or of the
same, that it refers to; it is `Held` if each value of the column is one of the key. What every
state of a database has in common is `Sound`: the tables are in order each, their names differ, a
reference leads to an earlier table or to its own, and links between two tables are held. Links of
a table to itself are not part of it, as an update can break them.

A write puts one table in the place of another, so that the links after it are links before it
with that table exchanged (`Link.of_setTable`).
-/
import RelStore.Database
import RelStore.Proofs.Table.Delete

namespace RelStore

open Text (sameName)

/-- The rows of a table hold a value of some key in a column. -/
def Table.HasKey (table : Table) (name : String) (key : Key) : Prop :=
  ∃ stored ∈ table.rows, (stored.row.get name).key = key

namespace Database

/-- A referencing column of a table, and the key that it refers to. -/
structure Link (db : Database) (table : Table) (column : Column) (target : Table) (key : Column) :
    Prop where
  table_mem : table ∈ db.tables
  column_mem : column ∈ table.columns
  target_mem : target ∈ db.tables
  refers : ∃ ref, column.references = some ref ∧ sameName target.name ref.table = true ∧
    target.column? ref.column = some key

/-- Each value of a referencing column is one of the key. -/
def Held (table : Table) (column : Column) (target : Table) (key : Column) : Prop :=
  ∀ stored ∈ table.rows, stored.row.get column.name ≠ none →
    target.HasKey key.name (stored.row.get column.name).key

/-- A reference leads to a key of the same family in a table that comes before, or in its own. -/
def Linked (schemas : List Schema) : Prop :=
  ∀ before schema rest, schemas = before ++ schema :: rest → ∀ column ∈ schema.columns,
    ∀ ref, column.references = some ref →
      ∃ target ∈ before ++ [schema], ∃ key, sameName target.name ref.table = true ∧
        target.column? ref.column = some key ∧ key.isKey = true ∧
        key.type.family = column.type.family

structure Sound (db : Database) : Prop where
  named : DistinctNames Table.name db.tables
  tables : ∀ table ∈ db.tables, table.Invariant
  linked : Linked (db.tables.map (·.schema))
  held : ∀ table column target key, db.Link table column target key → table ≠ target →
    Held table column target key

/-- Links of tables to themselves are held. -/
def SelfHeld (db : Database) : Prop :=
  ∀ table column key, db.Link table column table key → Held table column table key

variable {db : Database} {table target : Table} {column key : Column} {name : String}

/-! ## Tables by their names -/

theorem requireTable_eq_ok : db.requireTable name = .ok table ↔ db.table? name = some table := by
  simp only [requireTable]
  cases db.table? name <;> simp

theorem mem_of_requireTable (h : db.requireTable name = .ok table) : table ∈ db.tables :=
  List.mem_of_find?_eq_some (requireTable_eq_ok.1 h)

theorem Sound.table?_eq_some_iff (h : db.Sound) :
    db.table? name = some table ↔ table ∈ db.tables ∧ sameName table.name name = true :=
  h.named.find?_eq_some_iff

theorem Sound.sameName_iff_eq (h : db.Sound) (ht : table ∈ db.tables) (ho : target ∈ db.tables) :
    sameName table.name target.name = true ↔ table = target :=
  ⟨h.named.eq_of_sameName ht ho, fun e => e ▸ Text.sameName_refl _⟩

/-! ## Links -/

theorem mem_referrers {r : Referrer} : r ∈ db.referrers name ↔ r.table ∈ db.tables ∧
    r.column ∈ r.table.columns ∧ r.column.references = some r.target ∧
      sameName r.target.table name = true := by
  simp only [referrers, List.mem_flatMap, List.mem_filterMap]
  constructor
  · intro ⟨table, ht, column, hc, hr⟩
    cases href : column.references with
    | none => simp [href] at hr
    | some ref =>
      simp only [href, Option.ite_none_right_eq_some, Option.some.injEq] at hr
      obtain ⟨hn, rfl⟩ := hr
      exact ⟨ht, hc, href, hn⟩
  · intro ⟨ht, hc, href, hn⟩
    exact ⟨r.table, ht, r.column, hc, by simp [href, hn]⟩

/-- The referrers of a table are the links to it. -/
theorem Link.mem_referrers (h : db.Link table column target key) :
    ∃ ref, ⟨table, column, ref⟩ ∈ db.referrers target.name ∧
      target.column? ref.column = some key := by
  obtain ⟨ref, href, hn, hk⟩ := h.refers
  refine ⟨ref, Database.mem_referrers.2 ⟨h.table_mem, h.column_mem, href, ?_⟩, hk⟩
  rw [Text.sameName_comm]
  exact hn

/-- A reference of a table leads to one of the tables, and to a key of it. -/
theorem Sound.exists_target (h : db.Sound) (ht : table ∈ db.tables) (hc : column ∈ table.columns)
    {ref : Reference} (href : column.references = some ref) :
    ∃ target ∈ db.tables, ∃ key, sameName target.name ref.table = true ∧
      target.column? ref.column = some key ∧ key.isKey = true ∧
      key.type.family = column.type.family := by
  obtain ⟨before, rest, hsplit⟩ := List.append_of_mem ht
  have hschemas : db.tables.map (·.schema) =
      before.map (·.schema) ++ table.schema :: rest.map (·.schema) := by
    simp [hsplit]
  obtain ⟨schema, hm, key, hkey⟩ := h.linked _ _ _ hschemas column hc ref href
  have hall : schema ∈ db.tables.map (·.schema) := by
    rw [hschemas]
    simp only [List.mem_append, List.mem_cons, List.not_mem_nil, or_false] at hm ⊢
    tauto
  obtain ⟨target, htarget, rfl⟩ := List.mem_map.1 hall
  exact ⟨target, htarget, key, hkey⟩

/-- A link leads where its reference says. -/
theorem Link.key_spec (h : db.Link table column target key) (hs : db.Sound) :
    key ∈ target.columns ∧ key.isKey = true ∧ key.type.family = column.type.family := by
  obtain ⟨ref, href, hn, hk⟩ := h.refers
  obtain ⟨other, ho, found, hsn, hf, hkey, hfamily⟩ :=
    hs.exists_target h.table_mem h.column_mem href
  have hsame : sameName other.name target.name = true :=
    Text.sameName_trans hsn (Text.sameName_comm _ _ ▸ hn)
  obtain rfl := (hs.sameName_iff_eq ho h.target_mem).1 hsame
  obtain rfl : found = key := by simpa [hf] using hk
  exact ⟨(((hs.tables other ho).shaped.column?_eq_some_iff).1 hk).1, hkey, hfamily⟩

/-- The index of a referencing column represents it. -/
theorem Link.index?_eq_some (h : db.Link table column target key) (hs : db.Sound) :
    ∃ index, table.index? column.name = some index ∧
      index.Represents (table.Holds column.name) := by
  obtain ⟨ref, href, -, -⟩ := h.refers
  have hx : column.isIndexed = true := by simp [Column.isIndexed, href]
  obtain ⟨index, hm, he, hi⟩ := (hs.tables table h.table_mem).shaped.exists_index h.column_mem hx
    (Text.sameName_refl _)
  exact ⟨index, hi, he ▸ (hs.tables table h.table_mem).represented index hm⟩

/-- Asking whether the referenced column holds a value is asking for a row that does. -/
theorem Link.holdsValue_iff (h : db.Link table column target key) (hs : db.Sound)
    {ref : Reference} (hk : target.column? ref.column = some key) (v : Value) :
    holdsValue target ref.column v = true ↔ target.HasKey key.name v.key := by
  obtain ⟨hkm, hkey, -⟩ := h.key_spec hs
  have hshaped := (hs.tables target h.target_mem).shaped
  have hx : key.isIndexed = true := by simp [Column.isIndexed, hkey]
  obtain ⟨index, hm, he, hi⟩ := hshaped.exists_index hkm hx (hshaped.column?_eq_some_iff.1 hk).2
  have hr : index.Represents (target.Holds key.name) :=
    he ▸ (hs.tables target h.target_mem).represented index hm
  simp only [holdsValue, hi, hr.has_iff]
  constructor
  · rintro ⟨_, stored, hst, _, hkv⟩
    exact ⟨stored, hst, hkv⟩
  · rintro ⟨stored, hst, hkv⟩
    exact ⟨stored.id, stored, hst, rfl, hkv⟩

/-! ## Putting a table in the place of one -/

/-- What stands in the place of a table after a write. -/
def exchanged (table written other : Table) : Table := if other = table then written else other

theorem Sound.tables_setTable (h : db.Sound) (ht : table ∈ db.tables) {written : Table}
    (hw : written.schema = table.schema) :
    (db.setTable written).tables = db.tables.map (exchanged table written) := by
  have hname : written.name = table.name := congrArg Schema.name hw
  refine List.map_congr_left fun other ho => ?_
  rw [exchanged, hname]
  by_cases he : other = table
  · rw [if_pos he, if_pos ((h.sameName_iff_eq ho ht).2 he)]
  · rw [if_neg he, if_neg fun hs => he ((h.sameName_iff_eq ho ht).1 hs)]

theorem exchanged_schema {written : Table} (hw : written.schema = table.schema) (other : Table) :
    (exchanged table written other).schema = other.schema := by
  simp only [exchanged]
  split
  next he => rw [hw, he]
  next => rfl

/-- A link after a write is one before it, with the written table in place. -/
theorem Link.of_setTable (h : db.Sound) (ht : table ∈ db.tables) {written : Table}
    (hw : written.schema = table.schema) {t u : Table}
    (hl : (db.setTable written).Link t column u key) :
    ∃ x y, db.Link x column y key ∧ t = exchanged table written x ∧
      u = exchanged table written y ∧ (x = y ↔ t = u) := by
  have hnamed (other : Table) : (exchanged table written other).name = other.name :=
    congrArg Schema.name (exchanged_schema hw other)
  obtain ⟨htm, hcm, hum, ref, href, hn, hk⟩ := hl
  rw [h.tables_setTable ht hw] at htm hum
  obtain ⟨x, hx, rfl⟩ := List.mem_map.1 htm
  obtain ⟨y, hy, rfl⟩ := List.mem_map.1 hum
  refine ⟨x, y, ⟨hx, ?_, hy, ref, href, hnamed y ▸ hn, ?_⟩, rfl, rfl, fun e => e ▸ rfl, fun e => ?_⟩
  · rwa [Table.columns, exchanged_schema hw] at hcm
  · rwa [Table.column?, exchanged_schema hw] at hk
  · rw [← h.sameName_iff_eq hx hy, ← hnamed x, ← hnamed y, e]
    exact Text.sameName_refl _

/-- A write keeps a database sound if it keeps the links between two tables held. -/
theorem Sound.setTable (h : db.Sound) (ht : table ∈ db.tables) {written : Table}
    (hw : written.schema = table.schema) (hi : written.Invariant)
    (hheld : ∀ x column y key, db.Link x column y key → x ≠ y → Held x column y key →
      Held (exchanged table written x) column (exchanged table written y) key) :
    (db.setTable written).Sound := by
  have htables := h.tables_setTable ht hw
  have hschemas : (db.setTable written).tables.map (·.schema) = db.tables.map (·.schema) := by
    rw [htables, List.map_map]
    exact List.map_congr_left fun other _ => exchanged_schema hw other
  constructor
  case named =>
    have hnames := congrArg (List.map fun schema : Schema => Text.lower schema.name) hschemas
    simp only [List.map_map, Function.comp_def] at hnames
    have hnamed := h.named
    simp only [DistinctNames, Table.name] at hnamed ⊢
    rwa [hnames]
  case tables =>
    rw [htables, List.forall_mem_map]
    intro other ho
    simp only [exchanged]
    split
    · exact hi
    · exact h.tables other ho
  case linked => exact hschemas ▸ h.linked
  case held =>
    intro t column u key hl hne
    obtain ⟨x, y, hlink, rfl, rfl, heq⟩ := Link.of_setTable h ht hw hl
    have hxy : x ≠ y := fun e => hne (heq.1 e)
    exact hheld x column y key hlink hxy (h.held x column y key hlink hxy)

/-- The links of a table to itself are held after a write if it keeps them held. -/
theorem SelfHeld.setTable (hself : db.SelfHeld) (h : db.Sound) (ht : table ∈ db.tables)
    {written : Table} (hw : written.schema = table.schema)
    (hheld : ∀ column key, db.Link table column table key → Held table column table key →
      Held written column written key) : (db.setTable written).SelfHeld := by
  intro t column key hl
  obtain ⟨x, y, hlink, ht', -, heq⟩ := Link.of_setTable h ht hw hl
  obtain rfl := heq.2 rfl
  have hx := hself x column key hlink
  rw [ht', exchanged]
  split
  next he =>
    subst he
    exact hheld column key hlink hx
  next => exact hx

end Database

end RelStore
