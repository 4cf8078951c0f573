/-
Catalogs of matching databases.

Matching catalogs know matching databases under the same names (`Matches`), in whatever order they
came to be known; their names are the same once sorted, and so are the texts of the documents that
are saved for them. A catalog and what is opened on a directory that mirrors it match
(`Mirrors.opens_matching`).
-/
import RelStore.Proofs.Catalog.Mirror
import RelStore.Proofs.Database.Matches
import RelStore.Proofs.Plan
import RelStore.Proofs.Text.Order

namespace RelStore

open Std (OrientedCmp TransCmp)
open List (Forall₂)
open Text (lower sameName)

/-! ## Names in order -/

/-- **Different names are sorted in one way**, in whatever order they come. -/
theorem Catalog.sortNames_eq_of_perm {names others : List String}
    (hdistinct : DistinctNames id names) (hperm : names.Perm others) :
    sortNames names = sortNames others := by
  have hsorted (names : List String) :
      (sortNames names).Pairwise fun a b => (!Text.lt (lower b) (lower a)) = true := by
    refine List.pairwise_mergeSort (fun a b c => ?_) (fun a b => ?_) names
    · rw [Text.not_lt_eq, Text.not_lt_eq, Text.not_lt_eq]
      exact TransCmp.isLE_trans
    · rw [Text.not_lt_eq, Text.not_lt_eq, @OrientedCmp.eq_swap _ Text.order]
      cases Text.order (lower b) (lower a) <;> rfl
  refine List.Perm.eq_of_pairwise (fun a b ha hb hab hba => ?_) (hsorted names) (hsorted others)
    ((List.mergeSort_perm _ _).trans (hperm.trans (List.mergeSort_perm _ _).symm))
  rw [Text.not_lt_eq] at hab hba
  refine hdistinct.eq_of_sameName (List.mem_mergeSort.1 ha) ?_ (sameName_iff.2 ?_)
  · exact hperm.mem_iff.2 (List.mem_mergeSort.1 hb)
  · exact Text.eq_of_order_eq (OrientedCmp.isLE_antisymm hab hba)

/-! ## Documents -/

namespace Json

variable {items others : List Json} {fields others' : List (String × Json)}

/-- Values that are written alike, at every depth. -/
def SameText (json other : Json) : Prop := ∀ depth, json.prettyAt depth = other.prettyAt depth

theorem SameText.refl (json : Json) : json.SameText json := fun _ => rfl

theorem SameText.array (h : Forall₂ SameText items others) : (array items).SameText (.array others) := by
  have hitems (depth : Nat) : prettyItems depth items = prettyItems depth others := by
    induction h with
    | nil => rfl
    | cons hitem _ ih => rw [prettyItems, prettyItems, hitem, ih]
  intro depth
  rw [prettyAt, prettyAt, hitems]

theorem SameText.object (h : Forall₂ (fun a b => a.1 = b.1 ∧ SameText a.2 b.2) fields others') :
    (object fields).SameText (.object others') := by
  have hfields (depth : Nat) : prettyFields depth fields = prettyFields depth others' := by
    induction h with
    | nil => rfl
    | @cons a b _ _ hfield _ ih => rw [prettyFields, prettyFields, hfield.1, hfield.2, ih]
  intro depth
  rw [prettyAt, prettyAt, hfields]

end Json

theorem Value.Alike.sameText {v w : Value} (h : v.Alike w) : v.toJson.SameText w.toJson := fun depth =>
  h.congr (fun v => v.toJson.prettyAt depth) (by
    rw [Value.toJson, Value.toJson, Scalar.zero, Scalar.zero, Scalar.toJson, Scalar.toJson,
      Json.prettyAt, Json.prettyAt]
    decide +kernel)

theorem Table.Matches.sameText {table other : Table} (h : table.Matches other) :
    table.toDocument.toJson.SameText other.toDocument.toJson := by
  rw [Table.toDocument, Table.toDocument, TableDocument.toJson, TableDocument.toJson, h.name_eq,
    h.columns_eq]
  refine .object (.cons ⟨rfl, .refl _⟩ (.cons ⟨rfl, .refl _⟩ (.cons ⟨rfl, .array ?_⟩ .nil)))
  simp only [List.map_map, List.forall₂_map_left_iff, List.forall₂_map_right_iff]
  refine h.rows.imp fun s t hst => .array ?_
  rw [List.forall₂_map_left_iff, List.forall₂_map_right_iff, List.forall₂_map_left_iff,
    List.forall₂_map_right_iff]
  exact List.forall₂_same.2 fun column _ => (hst.get column.name).sameText

/-- **Matching databases are saved as one text.** -/
theorem Database.Matches.saveSteps_eq {db other : Database} (h : db.Matches other) (store : Store)
    (clock : String) : store.saveSteps db clock = store.saveSteps other clock := by
  have htext : (db.toDocument clock).toJson.SameText (other.toDocument clock).toJson := by
    rw [toDocument, toDocument, DatabaseDocument.toJson, DatabaseDocument.toJson, h.name]
    refine .object (.cons ⟨rfl, .refl _⟩ (.cons ⟨rfl, .refl _⟩ (.cons ⟨rfl, .refl _⟩
      (.cons ⟨rfl, .array ?_⟩ .nil))))
    simp only [List.forall₂_map_left_iff, List.forall₂_map_right_iff]
    exact h.tables.imp fun _ _ ht => ht.sameText
  rw [Store.saveSteps, Store.saveSteps, Store.writeSteps, Store.writeSteps, Json.pretty, Json.pretty,
    htext, h.name]

theorem Database.Renumbers.matches {db other : Database} (h : db.Storable)
    (hrenumbers : db.Renumbers other) : db.Matches other where
  name := hrenumbers.name.symm
  distinct := h.distinct
  tables := (forall₂_and_mem hrenumbers.tables).imp fun table _ ⟨hrows, ht, _⟩ =>
    hrows.matches (h.tables table ht).invariant

/-! ## Catalogs -/

/-- One store, and matching databases under each name. -/
structure Catalog.Matches (catalog other : Catalog) : Prop where
  store : catalog.store = other.store
  distinct : DistinctNames Database.name catalog.databases
  distinct' : DistinctNames Database.name other.databases
  databases : ∀ name, Option.Rel Database.Matches (catalog.database? name) (other.database? name)

/-- The same steps, which lead to matching catalogs. -/
structure Change.Alike (change other : Change) : Prop where
  steps : change.steps = other.steps
  done : change.done.Matches other.done

namespace Catalog

variable {catalog other : Catalog} {db db' : Database} {name clock : String} {store : Store}
  {disk : Disk}

/-- What is known under each name after a database is put in its place. -/
theorem database?_setDatabase (catalog : Catalog) (db : Database) (name : String) :
    (catalog.setDatabase db).database? name =
      if sameName db.name name then some db else catalog.database? name := by
  rw [setDatabase]
  split
  next hknown =>
    -- what goes by the name goes by it after the database is put in its place
    have hgoes : (fun other => sameName (if sameName other.name db.name then db else other).name name) =
        fun other : Database => sameName other.name name := by
      funext other
      split
      next hsame => exact (sameName_congr_left hsame name).symm
      next => rfl
    have hfound : ((catalog.databases.map fun other =>
          if sameName other.name db.name then db else other).find? fun db => sameName db.name name) =
        (catalog.database? name).map fun other =>
          if sameName other.name db.name then db else other := by
      rw [List.find?_map, database?]
      exact congrArg (fun p => (catalog.databases.find? p).map _) hgoes
    rw [database?, hfound]
    split
    next hsame =>
      rw [database?_congr hsame, Option.isSome_iff_exists] at hknown
      obtain ⟨known, hknown⟩ := hknown
      have hnamed : sameName known.name name = true := by simpa using List.find?_some hknown
      rw [hknown, Option.map_some, sameName_congr hsame, if_pos hnamed]
    next hother =>
      cases hfind : catalog.database? name with
      | none => rfl
      | some other =>
        have hnamed : sameName other.name name = true := by simpa using List.find?_some hfind
        rw [Option.map_some, sameName_congr_left hnamed, Text.sameName_comm, if_neg hother]
  next hnew =>
    rw [database?, List.find?_append, List.find?_singleton]
    split
    next hsame =>
      rw [database?_congr hsame, Bool.not_eq_true, Option.isSome_eq_false_iff,
        Option.isNone_iff_eq_none] at hnew
      rw [← database?, hnew, Option.none_or]
    next => rw [Option.or_none, database?]

theorem database?_eraseDatabase (catalog : Catalog) (erased name : String) :
    (catalog.eraseDatabase erased).database? name =
      if sameName erased name then none else catalog.database? name := by
  rw [database?, eraseDatabase, List.find?_filter]
  split
  next hsame =>
    refine List.find?_eq_none.2 fun db _ => ?_
    rw [sameName_congr hsame]
    simp
  next hother =>
    refine List.find?_congr fun db _ => ?_
    cases hnamed : sameName db.name name with
    | false => simp
    | true =>
      rw [sameName_congr_left hnamed, Text.sameName_comm, Bool.eq_false_iff.2 hother]
      rfl

namespace Matches

theorem database?_cases (h : catalog.Matches other) (name : String) :
    catalog.database? name = none ∧ other.database? name = none ∨
      ∃ db db', catalog.database? name = some db ∧ other.database? name = some db' ∧
        db.Matches db' := by
  have hrel := h.databases name
  revert hrel
  generalize catalog.database? name = found, other.database? name = found'
  rintro (hboth | _)
  · exact .inr ⟨_, _, rfl, rfl, hboth⟩
  · exact .inl ⟨rfl, rfl⟩

theorem names_eq (h : catalog.Matches other) : catalog.names = other.names := by
  have hnames {catalog : Catalog} (hdistinct : DistinctNames Database.name catalog.databases)
      {name : String} : name ∈ catalog.databases.map (·.name) ↔
        ∃ db, catalog.database? name = some db ∧ db.name = name := by
    rw [List.mem_map]
    refine exists_congr fun db => and_congr_left fun hname => ?_
    rw [database?, hdistinct.find?_eq_some_iff, hname, Text.sameName_refl, eq_self, and_true]
  refine sortNames_eq_of_perm (by simpa [DistinctNames, List.map_map, Function.comp_def] using h.distinct) ?_
  refine (List.perm_ext_iff_of_nodup h.distinct.nodup_names h.distinct'.nodup_names).2 fun name => ?_
  rw [hnames h.distinct, hnames h.distinct']
  obtain ⟨hnone, hnone'⟩ | ⟨db, db', hdb, hdb', hboth⟩ := h.database?_cases name
  · rw [hnone, hnone']
  · simp only [hdb, hdb', Option.some.injEq, exists_eq_left', hboth.name]

theorem ends_requireDatabase (h : catalog.Matches other) (name : String) :
    Ends (fun db db' => db.Matches db' ∧ catalog.database? name = some db ∧
      other.database? name = some db') (catalog.requireDatabase name)
      (other.requireDatabase name) := by
  rw [requireDatabase, requireDatabase]
  obtain ⟨hnone, hnone'⟩ | ⟨db, db', hdb, hdb', hboth⟩ := h.database?_cases name
  · rw [hnone, hnone']
    exact .error (.refl _)
  · rw [hdb, hdb']
    exact .ok ⟨hboth, rfl, rfl⟩

theorem setDatabase (h : catalog.Matches other) (hdb : db.Matches db') :
    (catalog.setDatabase db).Matches (other.setDatabase db') where
  store := by rw [store_setDatabase, store_setDatabase, h.store]
  distinct := distinct_setDatabase h.distinct db
  distinct' := distinct_setDatabase h.distinct' db'
  databases name := by
    rw [database?_setDatabase, database?_setDatabase, hdb.name]
    split
    · exact .some hdb
    · exact h.databases name

theorem eraseDatabase (h : catalog.Matches other) (name : String) :
    (catalog.eraseDatabase name).Matches (other.eraseDatabase name) where
  store := h.store
  distinct := h.distinct.sublist List.filter_sublist
  distinct' := h.distinct'.sublist List.filter_sublist
  databases name := by
    rw [database?_eraseDatabase, database?_eraseDatabase]
    split
    · exact .none
    · exact h.databases name

theorem saveSteps_eq (h : catalog.Matches other) (hdb : db.Matches db') (clock : String) :
    catalog.saveSteps db clock = other.saveSteps db' clock := by
  rw [saveSteps, saveSteps, h.store]
  split
  · exact hdb.saveSteps_eq _ clock
  · rfl

theorem saveNamesSteps_eq (h : catalog.Matches other) (names : List String) :
    catalog.saveNamesSteps names = other.saveNamesSteps names := by
  rw [saveNamesSteps, saveNamesSteps, h.store]

theorem deleteSteps_eq (h : catalog.Matches other) (name : String) :
    catalog.deleteSteps name = other.deleteSteps name := by
  rw [deleteSteps, deleteSteps, h.store]

/-! ## Changes -/

theorem alike_unchanged (h : catalog.Matches other) : catalog.unchanged.Alike other.unchanged :=
  ⟨rfl, h⟩

theorem alike_replaceDatabase (h : catalog.Matches other) (hdb : db.Matches db') (clock : String) :
    (catalog.replaceDatabase db clock).Alike (other.replaceDatabase db' clock) where
  steps := (h.setDatabase hdb).saveSteps_eq hdb clock
  done := h.setDatabase hdb

theorem matches_empty (name : String) : (Database.empty name).Matches (.empty name) :=
  ⟨rfl, List.nodup_nil, .nil⟩

theorem ends_createDatabase (h : catalog.Matches other) (name clock : String) :
    Ends Change.Alike (catalog.createDatabase name clock) (other.createDatabase name clock) := by
  refine (Ends.of_eq rfl).bind fun _ _ _ => ?_
  have hdb := matches_empty name
  obtain ⟨hnone, hnone'⟩ | ⟨db, db', hknown, hknown', -⟩ := h.database?_cases name
  · rw [hnone, hnone', h.names_eq]
    exact .ok ⟨congrArg₂ (· ++ ·) (h.saveSteps_eq hdb clock) (h.saveNamesSteps_eq _),
      h.setDatabase hdb⟩
  · rw [hknown, hknown']
    exact .error (.refl _)

theorem ends_dropDatabase (h : catalog.Matches other) (name : String) :
    Ends Change.Alike (catalog.dropDatabase name) (other.dropDatabase name) := by
  refine (h.ends_requireDatabase name).bind fun db db' ⟨hboth, _, _⟩ => ?_
  rw [h.names_eq, hboth.name]
  exact .ok ⟨congrArg₂ (· ++ ·) (h.saveNamesSteps_eq _) (h.deleteSteps_eq _), h.eraseDatabase name⟩

end Matches

/-! ## Opening -/

theorem home_of_ofStore (h : ofStore store disk = .ok catalog) :
    catalog.store = some store ∧ DistinctNames Database.name catalog.databases := by
  obtain ⟨listed, -, rfl⟩ := ofStore_eq_ok.1 h
  refine foldl_keeps (P := fun catalog : Catalog => catalog.store = some store ∧
      DistinctNames Database.name catalog.databases) ⟨rfl, List.nodup_nil⟩ ?_
  intro before ⟨hhome, hdistinct⟩ name _
  cases hload : store.load disk name with
  | error cause =>
    rw [loadListed_of_load_error before hload]
    exact ⟨hhome, hdistinct⟩
  | ok db =>
    rw [loadListed_of_load_ok before hload, store_setDatabase]
    exact ⟨hhome, distinct_setDatabase hdistinct db⟩

/-- **What is opened on a directory matches the catalog that it mirrors.** -/
theorem Mirrors.opens_matching (h : catalog.Mirrors store disk) : ∃ opened,
    ofStore store disk = .ok opened ∧ catalog.Renumbers opened ∧ catalog.Matches opened := by
  obtain ⟨opened, hopened, hrenumbers⟩ := h.opens
  obtain ⟨hhome, hdistinct⟩ := home_of_ofStore hopened
  refine ⟨opened, hopened, hrenumbers, h.home.trans hhome.symm, h.distinct, hdistinct, fun name => ?_⟩
  have hrel := hrenumbers name
  have hstorable : ∀ db ∈ catalog.database? name, db.Storable := fun db hdb =>
    h.storable db (List.mem_of_find?_eq_some hdb)
  revert hrel hstorable
  generalize catalog.database? name = found, opened.database? name = found'
  rintro (hboth | _) hstorable
  · exact .some (hboth.matches (hstorable _ rfl))
  · exact .none

end Catalog

end RelStore
