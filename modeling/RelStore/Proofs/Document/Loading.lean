/-
What a document makes of a database when it is loaded.

A document is taken as it stands or refused. Each row is inserted, and so checked against the rows
before it, and what is accepted is not altered: the database has the tables of the document, with
its columns and its rows in their order (`toDocument_of_ofDocument`). The other way round, the
document of a database that is built by calls is always taken, and the database is there again with
its rows numbered anew (`document_roundTrip`).

Where references lead is not asked. `load_iff_references` says what that leaves: a loaded database has every other property of
one that is built by calls, and references that hold exactly if those of its document do. There are
documents whose references lead nowhere, and they are loaded (`load_shop_not_referencesResolve`).
-/
import RelStore.Proofs.Database.Integrity
import RelStore.Proofs.Reached
import RelStore.Proofs.Table.Meaning

namespace RelStore

open Text (sameName)

/-! ## References that resolve -/

/-- Each reference leads to a key that holds each value of the referencing column. -/
def Database.ReferencesResolve (db : Database) : Prop :=
  ∀ table ∈ db.tables, ∀ column ∈ table.columns, ∀ ref, column.references = some ref →
    ∃ target key, db.Resolves table column ref target key

/-- In a document, a reference leads to a key that holds each value of the referencing column. -/
structure DatabaseDocument.Resolves (doc : DatabaseDocument) (table : TableDocument)
    (column : Column) (ref : Reference) (target : TableDocument) (key : Column) : Prop where
  target_found : (doc.tables.find? fun other => sameName other.name ref.table) = some target
  key_found : (target.columns.find? fun other => sameName other.name ref.column) = some key
  isKey : key.isKey = true
  family : key.type.family = column.type.family
  held : ∀ row ∈ table.rows, ∀ value, (column, value) ∈ table.columns.zip row → value ≠ none →
    ∃ other ∈ target.rows, ∃ found, (key, found) ∈ target.columns.zip other ∧
      found.same value = true

/-- Each reference of a document leads to a key that holds each value of the referencing column. -/
def DatabaseDocument.ReferencesResolve (doc : DatabaseDocument) : Prop :=
  ∀ table ∈ doc.tables, ∀ column ∈ table.columns, ∀ ref, column.references = some ref →
    ∃ target key, doc.Resolves table column ref target key

/-! ## What is loaded is what the document says -/

namespace Table

variable {table next : Table} {values : List Value} {rows : List (List Value)} {doc : TableDocument}

/-- The values of a row that is inserted in all columns are those that were given. -/
theorem Fills.valuesOf_eq {row : Row} (h : table.Fills none values row) :
    (table.columns.map fun column => row.get column.name) = values := by
  obtain ⟨columns, hlength, hall, -, hset, -⟩ := h.values
  obtain rfl := hall rfl
  refine List.ext_getElem (by simpa using hlength) fun n hn hn' => ?_
  have hn'' : n < table.columns.length := by simpa using hn
  have hmem : (table.columns[n], values[n]) ∈ table.columns.zip values :=
    List.mem_iff_getElem.2 ⟨n, by simpa using ⟨hn'', hn'⟩, by simp⟩
  simpa using hset _ hmem

/-- A row that is inserted comes to the end of the document. -/
theorem Invariant.toDocument_insert (h : table.Invariant) {result : Table × Nat}
    (hi : table.insert values none = .ok result) : result.1.toDocument =
      { table.toDocument with rows := table.toDocument.rows ++ [values] } := by
  obtain ⟨row, hprepared, rfl⟩ := insert_eq_ok.1 hi
  have hrows : (table.applyInsert row).toDocument.rows =
      (table.rows ++ [StoredRow.mk table.nextId row]).map fun stored =>
        table.columns.map fun column => stored.row.get column.name := rfl
  rw [List.map_append, List.map_singleton, (h.fills hprepared).valuesOf_eq] at hrows
  exact congrArg (TableDocument.mk table.name table.columns) hrows

theorem Invariant.toDocument_insertAll (h : table.Invariant)
    (hlast : rows.foldlM (fun table values => (·.1) <$> table.insert values none) table =
      Except.ok next) :
    next.toDocument = { table.toDocument with rows := table.toDocument.rows ++ rows } := by
  induction rows generalizing table with
  | nil =>
    obtain rfl := Except.ok.inj hlast
    rw [List.append_nil]
  | cons values rest ih =>
    rw [List.foldlM_cons] at hlast
    obtain ⟨middle, hmiddle, hlast⟩ := bind_eq_ok.1 hlast
    obtain ⟨result, hresult, rfl⟩ := map_eq_ok.1 hmiddle
    rw [ih (h.insert hresult) hlast, h.toDocument_insert hresult]
    simp

/-- **A table is what its document says**, column by column and row by row. -/
theorem toDocument_of_ofDocument (h : ofDocument doc = .ok table) : table.toDocument = doc := by
  obtain ⟨start, hstart, hrows⟩ := bind_eq_ok.1 h
  obtain ⟨key, -, hblank⟩ := create_eq_ok.1 hstart
  rw [(invariant_create hstart).toDocument_insertAll hrows, hblank]
  rfl

end Table

namespace Database

variable {db next : Database} {docs : List TableDocument} {doc : DatabaseDocument}
  {table target : Table} {column key : Column} {ref : Reference}

/-- Tables that are added from documents have new names, and are what their documents say. -/
theorem addDocuments_eq_ok (h : docs.foldlM addDocument db = .ok next)
    (hdistinct : DistinctNames Table.name db.tables) :
    next.name = db.name ∧ DistinctNames Table.name next.tables ∧
      next.tables.map Table.toDocument = db.tables.map Table.toDocument ++ docs := by
  induction docs generalizing db with
  | nil =>
    obtain rfl := Except.ok.inj h
    exact ⟨rfl, hdistinct, (List.append_nil _).symm⟩
  | cons first rest ih =>
    rw [List.foldlM_cons] at h
    obtain ⟨middle, hmiddle, h⟩ := bind_eq_ok.1 h
    obtain ⟨hfresh, hadd⟩ := ite_bind_eq_ok.1 hmiddle
    obtain ⟨added, hadded, hadd⟩ := bind_eq_ok.1 hadd
    obtain rfl := pure_eq_ok.1 hadd
    have hdocument := Table.toDocument_of_ofDocument hadded
    have hname : added.name = first.name := congrArg TableDocument.name hdocument
    have hnew : ∀ other ∈ db.tables, sameName other.name added.name = false := by
      intro other hother
      refine Bool.eq_false_iff.2 fun hsame => throw_ne_ok (hfresh ?_)
      exact List.find?_isSome.2 ⟨other, hother, hname ▸ hsame⟩
    obtain ⟨hkept, hall, htables⟩ := ih h (hdistinct.concat hnew)
    refine ⟨hkept, hall, ?_⟩
    rw [htables, List.map_append, List.map_singleton, hdocument, List.append_assoc,
      List.singleton_append]

/-- **A database is what its document says**, with tables of different names. -/
theorem tables_of_ofDocument (h : ofDocument doc = .ok db) :
    db.name = doc.name ∧ DistinctNames Table.name db.tables ∧
      db.tables.map Table.toDocument = doc.tables :=
  addDocuments_eq_ok h List.nodup_nil

/-! ## References -/

theorem mem_zip_toDocument {stored : StoredRow} {value : Value} :
    (column, value) ∈ table.columns.zip (table.columns.map fun c => stored.row.get c.name) ↔
      column ∈ table.columns ∧ stored.row.get column.name = value := by
  conv_lhs => rw [← List.map_id table.columns, List.map_map, List.zip_map']
  simp only [List.mem_map, id_eq, Function.comp_apply, Prod.mk.injEq]
  constructor
  · rintro ⟨other, hother, rfl, hvalue⟩
    exact ⟨hother, hvalue⟩
  · rintro ⟨hmem, hvalue⟩
    exact ⟨column, hmem, rfl, hvalue⟩

theorem find?_map_toDocument (name : String) (tables : List Table) :
    (tables.map Table.toDocument).find? (fun doc => sameName doc.name name) =
      (tables.find? fun table => sameName table.name name).map Table.toDocument := by
  rw [List.find?_map]
  rfl

/-- A reference resolves in a database exactly if it does in the document. -/
theorem resolves_iff (htables : db.tables.map Table.toDocument = doc.tables)
    (hcolumn : column ∈ table.columns) :
    (∃ target, db.Resolves table column ref target key) ↔
      ∃ target, doc.Resolves table.toDocument column ref target key := by
  have hfind : (doc.tables.find? fun other => sameName other.name ref.table) =
      (db.table? ref.table).map Table.toDocument := by
    rw [← htables, find?_map_toDocument]
    rfl
  constructor
  · rintro ⟨target, htarget, hkey, hisKey, hfamily, hheld⟩
    refine ⟨target.toDocument, by rw [hfind, htarget]; rfl, hkey, hisKey, hfamily, ?_⟩
    intro row hrow value hvalue hne
    obtain ⟨stored, hstored, rfl⟩ := List.mem_map.1 hrow
    obtain ⟨-, rfl⟩ := mem_zip_toDocument.1 hvalue
    obtain ⟨other, hother, hsame⟩ := hheld stored hstored hne
    exact ⟨_, List.mem_map_of_mem hother, _,
      mem_zip_toDocument.2 ⟨List.mem_of_find?_eq_some hkey, rfl⟩, hsame⟩
  · rintro ⟨_, hmapped, hkey, hisKey, hfamily, hheld⟩
    rw [hfind] at hmapped
    obtain ⟨target, htarget, rfl⟩ := Option.map_eq_some_iff.1 hmapped
    refine ⟨target, htarget, hkey, hisKey, hfamily, fun stored hstored hne => ?_⟩
    obtain ⟨row, hrow, value, hvalue, hsame⟩ := hheld _ (List.mem_map_of_mem hstored) _
      (mem_zip_toDocument.2 ⟨hcolumn, rfl⟩) hne
    obtain ⟨other, hother, rfl⟩ := List.mem_map.1 hrow
    obtain ⟨-, rfl⟩ := mem_zip_toDocument.1 hvalue
    exact ⟨other, hother, hsame⟩

/-- **References hold in a database exactly if they do in its document.** -/
theorem referencesResolve_iff (htables : db.tables.map Table.toDocument = doc.tables) :
    db.ReferencesResolve ↔ doc.ReferencesResolve := by
  have hboth {table : Table} {column : Column} (hcolumn : column ∈ table.columns)
      (ref : Reference) : (∃ target key, db.Resolves table column ref target key) ↔
        ∃ target key, doc.Resolves table.toDocument column ref target key := by
    rw [exists_comm, exists_comm (p := fun target key => doc.Resolves _ column ref target key)]
    exact exists_congr fun key => resolves_iff htables hcolumn
  rw [DatabaseDocument.ReferencesResolve, ← htables, List.forall_mem_map]
  exact forall₂_congr fun table _ => forall₂_congr fun column hcolumn =>
    forall₂_congr fun ref _ => hboth hcolumn ref

end Database

/-! ## There and back -/

namespace Database

end Database

/-! ## Loading -/

namespace Store

variable {store : Store} {disk : Disk} {name : String} {db : Database} {cause : Cause}

theorem kind_of_readJson {path : Path} (h : readJson disk path = .error cause) :
    cause.kind = .storage := by
  rw [readJson] at h
  split at h
  next =>
    cases h
    rfl
  next =>
    split at h
    next =>
      cases h
      rfl
    next => cases h

/-- What cannot be loaded fails for a reason of storage. -/
theorem kind_of_load (h : store.load disk name = .error cause) : cause.kind = .storage := by
  simp only [load] at h
  cases hjson : readJson disk (store.databasePath name) with
  | error other =>
    rw [hjson] at h
    cases h
    exact kind_of_readJson hjson
  | ok json =>
    rw [hjson] at h
    simp only [bind, Except.bind] at h
    split at h
    next =>
      cases h
      rfl
    next =>
      split at h
      next => cases h
      next =>
        cases h
        rfl

theorem load_eq_ok (h : store.load disk name = .ok db) : ∃ json doc,
    readJson disk (store.databasePath name) = .ok json ∧ databaseShape.read json = .ok doc ∧
      Database.ofDocument doc = .ok db := by
  obtain ⟨json, hjson, h⟩ := bind_eq_ok.1 h
  split at h
  next => cases h
  next doc hdoc =>
    split at h
    next loaded hloaded =>
      obtain rfl := pure_eq_ok.1 h
      exact ⟨json, doc, hjson, hdoc, hloaded⟩
    next => cases h

/-- **A document on disk is refused for a reason of storage, or loaded as it stands**: as tables of
different names, each consistent with its schema. References hold in what is loaded exactly if they
do in the document. -/
theorem load_iff_references (store : Store) (disk : Disk) (name : String) :
    (∃ cause, store.load disk name = .error cause ∧ cause.kind = .storage) ∨
    ∃ json doc db, readJson disk (store.databasePath name) = .ok json ∧
      databaseShape.read json = .ok doc ∧ store.load disk name = .ok db ∧
      db.name = doc.name ∧ db.tables.map Table.toDocument = doc.tables ∧
      DistinctNames Table.name db.tables ∧
      (∀ table ∈ db.tables, DistinctNames Column.name table.columns ∧
        (∃ key, table.columns.filter (·.primaryKey) = [key]) ∧ table.Consistent table.schema) ∧
      (db.ReferencesResolve ↔ doc.ReferencesResolve) := by
  cases hload : store.load disk name with
  | error cause => exact .inl ⟨cause, rfl, kind_of_load hload⟩
  | ok db =>
    obtain ⟨json, doc, hjson, hdoc, hdb⟩ := load_eq_ok hload
    obtain ⟨hname, hdistinct, htables⟩ := Database.tables_of_ofDocument hdb
    refine .inr ⟨json, doc, db, hjson, hdoc, rfl, hname, htables, hdistinct, ?_,
      Database.referencesResolve_iff htables⟩
    intro table ht
    have hinvariant := (Database.reached_of_ofDocument hdb table ht).invariant
    exact ⟨hinvariant.shaped.columns, ⟨_, hinvariant.shaped.primaryKey⟩, hinvariant.consistent⟩

/-! ## An order of no one -/

def customers : Table where
  schema := ⟨"customers", [⟨"id", .int, true, false, none⟩]⟩
  primaryKey := ⟨"id", .int, true, false, none⟩
  rows := [⟨1, ⟨[("id", .ofNat 1)]⟩⟩]
  nextId := 2
  indexes := [⟨"id", [⟨.ofNat 1, [1]⟩]⟩]

/-- The order of a customer who is not there. -/
def orderRow : Row := ⟨[("id", .ofNat 1), ("customer_id", .ofNat 7)]⟩

def customerColumn : Column := ⟨"customer_id", .int, false, false, some ⟨"customers", "id"⟩⟩

def orders : Table where
  schema := ⟨"orders", [⟨"id", .int, true, false, none⟩, customerColumn]⟩
  primaryKey := ⟨"id", .int, true, false, none⟩
  rows := [⟨1, orderRow⟩]
  nextId := 2
  indexes := [⟨"id", [⟨.ofNat 1, [1]⟩]⟩, ⟨"customer_id", [⟨.ofNat 7, [1]⟩]⟩]

def shop : Database := ⟨"shop", [customers, orders]⟩

def shopStore : Store := ⟨Path.root.child "data"⟩

def shopDisk : Disk :=
  ⟨.root, [(shopStore.databasePath "shop", .file (shop.toDocument "").toJson.pretty)], "", []⟩

/-- The order is of no customer. -/
theorem not_referencesResolve_shop : ¬ shop.ReferencesResolve := by
  intro h
  have horders : orders ∈ shop.tables := List.mem_of_getElem? (i := 1) rfl
  have hcolumn : customerColumn ∈ orders.columns := List.mem_of_getElem? (i := 1) rfl
  obtain ⟨target, key, htarget, hkey, -, -, hheld⟩ :=
    h orders horders customerColumn hcolumn ⟨"customers", "id"⟩ rfl
  have hcustomers : shop.table? "customers" = some customers := by decide +kernel
  obtain rfl := Option.some.inj (hcustomers.symm.trans htarget)
  have hid : customers.column? "id" = some ⟨"id", .int, true, false, none⟩ := by decide +kernel
  obtain rfl := Option.some.inj (hid.symm.trans hkey)
  have hne : orderRow.get customerColumn.name ≠ none := by decide +kernel
  obtain ⟨other, hother, hsame⟩ := hheld ⟨1, orderRow⟩ (List.mem_of_getElem? (i := 0) rfl) hne
  obtain rfl : other = ⟨1, ⟨[("id", .ofNat 1)]⟩⟩ := List.mem_singleton.1 hother
  exact absurd hsame (by decide +kernel)

theorem writable_shop : (shop.toDocument "").Writable := by
  have hcustomers : IsName "customers" := ⟨by decide, by decide⟩
  have horders : IsName "orders" := ⟨by decide, by decide⟩
  have hid : IsName "id" := ⟨by decide, by decide⟩
  have hkey : Column.Writable ⟨"id", .int, true, false, none⟩ := ⟨hid, nofun⟩
  have hreference : customerColumn.Writable := by
    refine ⟨⟨by decide, by decide⟩, ?_⟩
    rintro _ ⟨⟩
    exact ⟨hcustomers, hid⟩
  have hfinite : ∀ n ∈ [1, 7], (Value.ofNat n).Writable := by
    rintro n hn _ ⟨⟩
    have hall : ∀ n ∈ [1, 7], (Binary64.ofNat n).isFinite = true := by decide +kernel
    exact hall n hn
  refine ⟨Database.joined_version, ⟨by decide, by decide⟩, ?_⟩
  refine List.forall_mem_cons.2 ⟨⟨hcustomers, ?_, ?_⟩, List.forall_mem_singleton.2 ⟨horders, ?_, ?_⟩⟩
  · exact List.forall_mem_singleton.2 hkey
  · exact List.forall_mem_singleton.2 (List.forall_mem_singleton.2 (hfinite 1 (by decide)))
  · exact List.forall_mem_cons.2 ⟨hkey, List.forall_mem_singleton.2 hreference⟩
  · refine List.forall_mem_singleton.2 (List.forall_mem_cons.2 ⟨hfinite 1 (by decide), ?_⟩)
    exact List.forall_mem_singleton.2 (hfinite 7 (by decide))

/-- **The shop is loaded, and the order with it.** -/
theorem load_shop_not_referencesResolve :
    shopStore.load shopDisk "shop" = .ok shop ∧ ¬ shop.ReferencesResolve := by
  have hread : shopDisk.read? (shopStore.databasePath "shop") =
      some (shop.toDocument "").toJson.pretty := rfl
  have hshop : Database.ofDocument (shop.toDocument "").readBack = .ok shop := by decide +kernel
  exact ⟨load_of_read? writable_shop (by decide +kernel) hread hshop, not_referencesResolve_shop⟩

end Store

end RelStore
