/-
Databases are built again from their documents.

Reading a document inserts row after row. Each insertion is accepted because the row stood beside
the same others before, so that the table is there again with alike rows in their order, numbered
from one (`Table.Renumbers`), and the database with its tables in theirs (`Database.Renumbers`).
It is so whatever way of writing values has been at work on the document meanwhile, as long as it
leaves them alike.
-/
import RelStore.Proofs.Alike
import RelStore.Proofs.Catalog
import RelStore.Proofs.Table.Insert

namespace RelStore

/-- The document with its values written in some way. -/
def TableDocument.rewritten (doc : TableDocument) (write : Value → Value) : TableDocument :=
  { doc with rows := doc.rows.map fun row => row.map write }

theorem Value.readBack_alike (v : Value) : v.readBack.Alike v := by
  rcases v with _ | ⟨⟨_ | ⟨negative, rank⟩⟩ | s | b⟩
  case some.number.signed =>
    refine congrArg Key.number (Binary64.place_eq_iff.2 ⟨rfl, ?_⟩)
    by_cases hzero : rank.val = 0
    · exact .inl hzero
    · exact .inr (by simp [hzero])
  all_goals rfl

/-! ## Rows -/

namespace Table

variable {table other : Table} {row : Row} {stored : StoredRow} {before rest : List StoredRow}
  {write : Value → Value}

/-- What a document has of a row. -/
def valuesOf (table : Table) (stored : StoredRow) : List Value :=
  table.columns.map fun column => stored.row.get column.name

theorem get_foldl_set_of_mem {pairs : List (Column × Value)} {column : Column} {value : Value}
    (hnodup : (pairs.map (·.1.name)).Nodup) (hmem : (column, value) ∈ pairs) (row : Row) :
    (pairs.foldl (fun row pair => row.set pair.1.name pair.2) row).get column.name = value := by
  induction pairs generalizing row with
  | nil => cases hmem
  | cons pair rest ih =>
    rw [List.map_cons, List.nodup_cons] at hnodup
    rcases List.mem_cons.1 hmem with rfl | hmem
    · -- the columns that follow have other names
      suffices hstays : ∀ row : Row, row.get column.name = value →
          (rest.foldl (fun row pair => row.set pair.1.name pair.2) row).get column.name = value from
        hstays _ (by rw [Row.get_set, if_pos rfl])
      have hne : ∀ pair ∈ rest, column.name ≠ pair.1.name :=
        fun pair hp heq => hnodup.1 (heq ▸ List.mem_map_of_mem hp)
      intro row hrow
      refine foldl_keeps (P := fun row : Row => row.get column.name = value) hrow ?_
      intro row hrow pair hp
      rw [Row.get_set, if_neg (hne pair hp), hrow]
    · exact ih hnodup.2 hmem _

/-- Values of their types, in different columns, are all set. -/
theorem fillRow_eq_foldl {assigned : List String} {pairs : List (Column × Value)}
    (hnodup : (pairs.map (·.1.name)).Nodup) (hnew : ∀ pair ∈ pairs, pair.1.name ∉ assigned)
    (htyped : ∀ pair ∈ pairs, pair.2.conforms pair.1.type = true) (row : Row) :
    table.fillRow assigned row pairs =
      .ok (pairs.foldl (fun row pair => row.set pair.1.name pair.2) row) := by
  induction pairs generalizing assigned row with
  | nil => rfl
  | cons pair rest ih =>
    obtain ⟨column, value⟩ := pair
    rw [List.map_cons, List.nodup_cons] at hnodup
    obtain ⟨hcolumn, hrest⟩ := List.forall_mem_cons.1 hnew
    obtain ⟨hvalue, hvalues⟩ := List.forall_mem_cons.1 htyped
    have hlisted : assigned.contains column.name = false := by simpa using hcolumn
    have hothers : ∀ pair ∈ rest, pair.1.name ∉ column.name :: assigned := by
      intro pair hp hmem
      rcases List.mem_cons.1 hmem with heq | hmem
      · exact hnodup.1 (heq ▸ List.mem_map_of_mem hp)
      · exact hrest pair hp hmem
    rw [Table.fillRow, hlisted, checkType_eq_ok.2 hvalue]
    exact ih hnodup.2 hothers hvalues _

/-! ## Tables -/

/-- A table has alike rows to some, in one order and numbered from one, and knows them by its
indexes. -/
structure Numbers (schema : Schema) (rows : List StoredRow) (other : Table) : Prop where
  schema : other.schema = schema
  alike : List.Forall₂ (fun a b => a.row.Alike b.row) rows other.rows
  ids : other.rows.map (·.id) = List.range' 1 rows.length
  nextId : other.nextId = rows.length + 1
  invariant : other.Invariant

/-- A table is another with its rows numbered from one. -/
def Renumbers (table other : Table) : Prop := Numbers table.schema table.rows other

theorem Shaped.primaryKey_eq (h : table.Shaped) (ho : other.Shaped)
    (hschema : other.schema = table.schema) : other.primaryKey = table.primaryKey := by
  have hkeys := ho.primaryKey
  rw [show other.columns = table.columns from congrArg Schema.columns hschema, h.primaryKey] at hkeys
  exact (List.singleton_inj.1 hkeys).symm

theorem Numbers.columns {schema : Schema} (h : Numbers schema before other) :
    other.columns = schema.columns := congrArg Schema.columns h.schema

/-- The values of a row are set again. -/
theorem Numbers.exists_fillRow (h : table.Invariant) (hwrite : ∀ v, (write v).Alike v)
    (hmem : stored ∈ table.rows) (hnumbers : Numbers table.schema before other) : ∃ row,
      other.fillRow [] other.blank (other.columns.zip ((table.valuesOf stored).map write)) =
          .ok row ∧
        stored.row.Alike row := by
  have hcolumns : other.columns = table.columns := hnumbers.columns
  obtain ⟨hnames, htyped, -⟩ := h.admitted stored hmem
  let pairs := table.columns.map fun column => (column, write (stored.row.get column.name))
  have hzip : other.columns.zip ((table.valuesOf stored).map write) = pairs := by
    rw [hcolumns, valuesOf, List.map_map]
    conv_lhs => rw [← List.map_id table.columns, List.map_map]
    exact List.zip_map'
  have hnodup : (pairs.map (·.1.name)).Nodup := by
    simpa [pairs, Function.comp_def] using h.shaped.nodup_names
  have hpairs : ∀ pair ∈ pairs, pair.1 ∈ other.columns ∧ pair.2.conforms pair.1.type = true := by
    intro pair hp
    obtain ⟨column, hc, rfl⟩ := List.mem_map.1 hp
    refine ⟨hcolumns ▸ hc, ?_⟩
    rw [(hwrite _).conforms_eq]
    exact htyped column hc
  have hfill := @fillRow_eq_foldl other [] pairs hnodup (fun _ _ => List.not_mem_nil)
    (fun pair hp => (hpairs pair hp).2) other.blank
  have hfits := hnumbers.invariant.shaped.fits_blank.fillRow hnumbers.invariant.shaped
    (fun pair hp => (hpairs pair hp).1) hfill
  rw [hzip]
  refine ⟨_, hfill, Row.alike_of_get (hnames ▸ h.shaped.nodup_names) ?_ fun name hname => ?_⟩
  · rw [hnames, hfits.names, hcolumns]
  · rw [hnames] at hname
    obtain ⟨column, hc, rfl⟩ := List.mem_map.1 hname
    have hset := get_foldl_set_of_mem hnodup (List.mem_map_of_mem hc) other.blank
    rw [hset]
    exact (hwrite _).symm

/-- It shares no key with the rows before it, since it did not with what they were. -/
theorem Numbers.checkKeys (h : table.Invariant) (hrows : table.rows = before ++ stored :: rest)
    (hnumbers : Numbers table.schema before other) (halike : stored.row.Alike row) :
    other.checkKeys [] row = .ok () := by
  have hcolumns : other.columns = table.columns := hnumbers.columns
  have hmem : stored ∈ table.rows := hrows ▸ List.mem_append_right _ List.mem_cons_self
  refine hnumbers.invariant.checkKeys_eq_ok.2 ⟨?_, fun column hc hk hv held hheld heq => ?_⟩
  · rw [h.shaped.primaryKey_eq hnumbers.invariant.shaped hnumbers.schema]
    exact fun hnone => (h.admitted stored hmem).identified ((halike.get _).eq_none_iff.2 hnone)
  · obtain ⟨was, hwas, hsame⟩ := exists_left_of_mem hnumbers.alike hheld
    have hin : was ∈ table.rows := hrows ▸ List.mem_append_left _ hwas
    have hid : stored.id = was.id :=
      h.apart column (hcolumns ▸ hc) hk stored hmem was hin
        (fun hnone => hv ((halike.get _).eq_none_iff.1 hnone))
        ((halike.get _).trans (heq.symm.trans (hsame.get _).symm))
    have hbefore := h.ascending
    rw [hrows, List.map_append, List.map_cons, List.pairwise_append] at hbefore
    exact absurd hid.symm (Nat.ne_of_lt
      (hbefore.2.2 _ (List.mem_map_of_mem hwas) _ List.mem_cons_self))

/-- **A row is accepted again** beside those that it followed. -/
theorem Numbers.insert (h : table.Invariant) (hwrite : ∀ v, (write v).Alike v)
    (hrows : table.rows = before ++ stored :: rest)
    (hnumbers : Numbers table.schema before other) : ∃ result,
      other.insert ((table.valuesOf stored).map write) none = .ok result ∧
        Numbers table.schema (before ++ [stored]) result.1 := by
  have hmem : stored ∈ table.rows := hrows ▸ List.mem_append_right _ List.mem_cons_self
  obtain ⟨row, hfill, halike⟩ := hnumbers.exists_fillRow h hwrite hmem
  have hlength : ((table.valuesOf stored).map write).length = other.columns.length := by
    rw [hnumbers.columns, valuesOf, List.length_map, List.length_map]
    rfl
  have hprepared : other.prepareInsert ((table.valuesOf stored).map write) none = .ok row :=
    prepareInsert_eq_ok.2
      ⟨other.columns, rfl, hlength, hfill, hnumbers.checkKeys h hrows halike⟩
  have hinsert : other.insert ((table.valuesOf stored).map write) none =
      .ok (other.applyInsert row, other.nextId) := insert_eq_ok.2 ⟨row, hprepared, rfl⟩
  refine ⟨_, hinsert, hnumbers.schema, ?_, ?_, ?_, hnumbers.invariant.insert hinsert⟩
  · exact List.rel_append hnumbers.alike (.cons halike .nil)
  · rw [Table.applyInsert, List.map_append, hnumbers.ids, hnumbers.nextId, List.length_append,
      List.length_singleton, List.range'_1_concat, Nat.add_comm 1]
    rfl
  · rw [Table.applyInsert, hnumbers.nextId, List.length_append, List.length_singleton]

theorem Numbers.insertAll (h : table.Invariant) (hwrite : ∀ v, (write v).Alike v)
    (hrows : table.rows = before ++ rest)
    (hnumbers : Numbers table.schema before other) : ∃ last,
      (rest.map fun stored => (table.valuesOf stored).map write).foldlM
          (fun table values => (·.1) <$> table.insert values none) other = .ok last ∧
        Numbers table.schema table.rows last := by
  induction rest generalizing before other with
  | nil =>
    rw [hrows, List.append_nil]
    exact ⟨other, rfl, hnumbers⟩
  | cons stored rest ih =>
    obtain ⟨result, hinsert, hnext⟩ := hnumbers.insert h hwrite hrows
    obtain ⟨last, hlast, hall⟩ := ih (hrows.trans (List.append_cons _ _ _)) hnext
    refine ⟨last, ?_, hall⟩
    rw [List.map_cons, List.foldlM_cons, hinsert]
    exact hlast

/-- **A table is read back from its document**, with its rows numbered from one. -/
theorem Invariant.ofDocument (h : table.Invariant) (hwrite : ∀ v, (write v).Alike v) : ∃ other,
    ofDocument (table.toDocument.rewritten write) = .ok other ∧ table.Renumbers other := by
  have hkey : table.schema.check = .ok table.primaryKey := by
    refine Schema.check_eq_ok.2 ⟨fun hnil => ?_, h.shaped.columns, h.shaped.primaryKey⟩
    have hone := h.shaped.primaryKey
    rw [columns, hnil] at hone
    cases hone
  obtain ⟨start, hcreate, hblank⟩ : ∃ start, create table.schema = .ok start ∧
      start = ⟨table.schema, table.primaryKey, [], 1,
        (table.schema.columns.filter (·.isIndexed)).map fun column => .empty column.name⟩ :=
    ⟨_, create_eq_ok.2 ⟨table.primaryKey, hkey, rfl⟩, rfl⟩
  have hstart : Numbers table.schema [] start := by
    refine ⟨?_, ?_, ?_, ?_, invariant_create hcreate⟩
    · rw [hblank]
    · rw [hblank]
      exact .nil
    · rw [hblank]
      rfl
    · rw [hblank]
      rfl
  obtain ⟨last, hlast, hall⟩ := hstart.insertAll h hwrite rfl
  refine ⟨last, ?_, hall⟩
  rw [Table.ofDocument, bind_eq_ok]
  refine ⟨_, hcreate, ?_⟩
  simpa [toDocument, TableDocument.rewritten, valuesOf, Function.comp_def] using hlast

end Table

/-! ## Databases -/

/-- The halves of one character never stand side by side in the text, if it is one. -/
def Value.Joined (v : Value) : Prop := ∀ s, v = some (.text s) → Json.joined s = s

def Row.Joined (row : Row) : Prop := ∀ name, (row.get name).Joined

/-- A value that a column takes can be written: it is no number without end. -/
theorem Value.Joined.writable {v : Value} {t : DataType} (h : v.Joined)
    (hconforms : v.conforms t = true) : v.Writable := by
  intro s hs
  obtain rfl := Option.mem_def.1 hs
  cases s with
  | number n => exact Value.finite_of_conforms hconforms _ rfl n rfl
  | text s => exact h s rfl
  | bool b => trivial

/-- A table that can be written and read. -/
structure Table.Storable (table : Table) : Prop where
  invariant : table.Invariant
  name : IsName table.name
  columns : ∀ column ∈ table.columns, column.Writable
  joined : ∀ stored ∈ table.rows, stored.row.Joined

/-- A database that can be written and read. -/
structure Database.Storable (db : Database) : Prop where
  name : IsName db.name
  distinct : DistinctNames Table.name db.tables
  tables : ∀ table ∈ db.tables, table.Storable

/-- A database is another with the rows of its tables numbered from one. -/
structure Database.Renumbers (db other : Database) : Prop where
  name : other.name = db.name
  tables : List.Forall₂ Table.Renumbers db.tables other.tables

theorem Table.Storable.writable_toDocument {table : Table} (h : table.Storable) :
    table.toDocument.Writable where
  name := h.name
  columns := h.columns
  values row hrow v hv := by
    obtain ⟨stored, hs, rfl⟩ := List.mem_map.1 hrow
    obtain ⟨column, hc, rfl⟩ := List.mem_map.1 hv
    exact (h.joined stored hs column.name).writable
      ((h.invariant.admitted stored hs).typed column hc)

namespace Database

variable {db other : Database} {clock : String}

theorem Storable.writable_toDocument (h : db.Storable) : (db.toDocument clock).Writable where
  version := joined_version
  name := h.name
  tables doc hdoc := by
    obtain ⟨table, ht, rfl⟩ := List.mem_map.1 hdoc
    exact (h.tables table ht).writable_toDocument

theorem addDocuments {before rest done : List Table} {write : Value → Value}
    (hwrite : ∀ v, (write v).Alike v) (hdistinct : DistinctNames Table.name (before ++ rest))
    (hrest : ∀ table ∈ rest, table.Invariant) (hdone : List.Forall₂ Table.Renumbers before done)
    (name : String) : ∃ last,
      (rest.map fun table => table.toDocument.rewritten write).foldlM addDocument ⟨name, done⟩ =
        .ok ⟨name, last⟩ ∧ List.Forall₂ Table.Renumbers (before ++ rest) last := by
  induction rest generalizing before done with
  | nil => exact ⟨done, rfl, by rwa [List.append_nil]⟩
  | cons table rest ih =>
    obtain ⟨htable, hrest⟩ := List.forall_mem_cons.1 hrest
    obtain ⟨opened, hopened, hrenumbers⟩ := htable.ofDocument hwrite
    have hnew : table? ⟨name, done⟩ table.name = none := by
      refine List.find?_eq_none.2 fun other ho hsame => ?_
      obtain ⟨was, hwas, hrows⟩ := exists_left_of_mem hdone ho
      have hname : other.name = was.name := congrArg Schema.name hrows.schema
      rw [hname, (DistinctNames.append_iff.1 hdistinct).2.2 was hwas table List.mem_cons_self] at hsame
      cases hsame
    obtain ⟨last, hlast, hall⟩ := ih (by rwa [List.append_cons] at hdistinct) hrest
      (List.rel_append hdone (.cons hrenumbers .nil))
    refine ⟨last, ?_, by rwa [List.append_cons]⟩
    have hadd : addDocument ⟨name, done⟩ (table.toDocument.rewritten write) =
        .ok ⟨name, done ++ [opened]⟩ := by
      have hname : (table.toDocument.rewritten write).name = table.name := rfl
      simp only [addDocument, hname, hnew, hopened]
      rfl
    rw [List.map_cons, List.foldlM_cons, hadd]
    exact hlast

/-- **A database is built again from a document that has its tables**, with their rows numbered
from one. -/
theorem exists_ofDocument {doc : DatabaseDocument} {write : Value → Value}
    (hwrite : ∀ v, (write v).Alike v) (hdistinct : DistinctNames Table.name db.tables)
    (htables : ∀ table ∈ db.tables, table.Invariant) (hname : doc.name = db.name)
    (hdoc : doc.tables = db.tables.map fun table => table.toDocument.rewritten write) :
    ∃ other, ofDocument doc = .ok other ∧ db.Renumbers other := by
  obtain ⟨last, hlast, hall⟩ := @addDocuments [] db.tables [] _ hwrite hdistinct htables .nil db.name
  refine ⟨⟨db.name, last⟩, ?_, rfl, hall⟩
  rw [Database.ofDocument, hdoc, hname]
  exact hlast

/-- A database is read back from its document. -/
theorem Storable.ofDocument (h : db.Storable) (clock : String) : ∃ other,
    ofDocument (db.toDocument clock).readBack = .ok other ∧ db.Renumbers other := by
  refine exists_ofDocument Value.readBack_alike h.distinct
    (fun table ht => (h.tables table ht).invariant) rfl ?_
  rw [DatabaseDocument.readBack, toDocument, List.map_map]
  rfl

end Database

/-- **A database that is saved is loaded**, with the rows of its tables numbered from one. -/
theorem Store.load_of_saved {store : Store} {disk : Disk} {name clock : String} {db : Database}
    (h : db.Storable) (hpossible : (store.databasePath name).isPossible = true)
    (hread : disk.read? (store.databasePath name) = some (db.toDocument clock).toJson.pretty) :
    ∃ other, store.load disk name = .ok other ∧ db.Renumbers other := by
  obtain ⟨other, hother, hrenumbers⟩ := h.ofDocument clock
  exact ⟨other, load_of_read? h.writable_toDocument hpossible hread hother, hrenumbers⟩

/-! ## Contents -/

theorem Table.Renumbers.contents_eq {table other : Table} (h : table.Renumbers other) :
    other.contents = table.contents := by
  have hcolumns : other.columns = table.columns := h.columns
  have hrows : List.Forall₂ (· = ·)
      (table.rows.map fun stored => table.columns.map fun c => (stored.row.get c.name).key)
      (other.rows.map fun stored => table.columns.map fun c => (stored.row.get c.name).key) :=
    List.rel_map (fun a b hab => List.map_congr_left fun c _ => hab.get c.name) h.alike
  rw [List.forall₂_eq_eq_eq] at hrows
  rw [contents, contents, hcolumns, hrows]
  exact congrArg (TableContents.mk · _ _) (congrArg Schema.name h.schema)

theorem Database.Renumbers.contents_eq {db other : Database} (h : db.Renumbers other) :
    other.contents = db.contents := by
  have htables : List.Forall₂ (· = ·) (db.tables.map Table.contents)
      (other.tables.map Table.contents) :=
    List.rel_map (fun _ _ hab => hab.contents_eq.symm) h.tables
  rw [List.forall₂_eq_eq_eq] at htables
  rw [contents, contents, htables, h.name]

end RelStore
