/-
The name of a saved database.

Every document that is saved is a text of JSON, whatever its values are: numbers that have no JSON
text are written as NULL, and texts are read with their halves joined. What is loaded from it, if
anything is, has the name of the database that was saved (`Store.name_of_load_saved`).
-/
import RelStore.Proofs.Document.Loading
import RelStore.Proofs.Store

namespace RelStore

open Json (Reads KeepOrder)

namespace Json

/-- Some value is read for each. -/
def Readable (json : Json) : Prop := ∃ read, Reads json read

theorem readable_string (s : String) : (Json.string s).Readable := ⟨_, reads_string s⟩

theorem readable_number (n : Binary64) : (Json.number n).Readable := by
  cases hfinite : n.isFinite with
  | true => exact ⟨_, reads_number hfinite⟩
  | false =>
    refine ⟨.null, fun depth => ?_⟩
    have htext : prettyAt depth (.number n) = prettyAt depth .null := by
      simp [prettyAt, numberText, hfinite]
    rw [htext]
    exact reads_null depth

/-- The items of an array are read one by one. -/
theorem readable_array {α : Type} {items : List α} {written : α → Json}
    (h : ∀ item ∈ items, (written item).Readable) : (Json.array (items.map written)).Readable := by
  choose! read hread using h
  exact ⟨_, reads_map hread⟩

theorem readable_record {fields : List (String × Json)} (hne : fields ≠ [])
    (hkeys : KeepOrder (fields.map Prod.fst)) (h : ∀ field ∈ fields, field.2.Readable) :
    (Json.object fields).Readable := by
  choose! read hread using h
  refine ⟨.object (fields.map fun field => (field.1, read field)), reads_record hne hkeys ?_⟩
  exact List.forall₂_map_right_iff.2 (List.forall₂_same.2 fun field hfield => ⟨rfl, hread field hfield⟩)

end Json

theorem Value.readable_toJson (v : Value) : v.toJson.Readable := by
  rcases v with _ | ⟨n | s | b⟩
  · exact ⟨_, Json.reads_null⟩
  · exact Json.readable_number n
  · exact Json.readable_string s
  · exact ⟨_, Json.reads_bool b⟩

theorem Reference.readable_toJson (r : Reference) : r.toJson.Readable :=
  Json.readable_record (List.cons_ne_nil _ _) (by decide : KeepOrder ["table", "column"]) <|
    List.forall_mem_cons.2 ⟨Json.readable_string _, List.forall_mem_singleton.2 (Json.readable_string _)⟩

theorem Column.readable_toJson (c : Column) : c.toJson.Readable := by
  obtain ⟨name, type, primaryKey, unique, references⟩ := c
  have hkeys : ∀ keys ∈ [[], ["references"]],
      KeepOrder (["name", "type", "primaryKey", "unique"] ++ keys) := by decide
  refine Json.readable_record (List.cons_ne_nil _ _) ?_ ?_
  · cases references with
    | none => exact hkeys [] (by decide)
    | some r => exact hkeys ["references"] (by decide)
  · refine List.forall_mem_append.2 ⟨?_, ?_⟩
    · simp only [List.forall_mem_cons, Json.readable_string, true_and]
      exact ⟨⟨_, Json.reads_bool _⟩, ⟨_, Json.reads_bool _⟩, nofun⟩
    · cases references with
      | none => exact nofun
      | some r => exact List.forall_mem_singleton.2 r.readable_toJson

theorem TableDocument.readable_toJson (doc : TableDocument) : doc.toJson.Readable := by
  have hcolumns := Json.readable_array fun column (_ : column ∈ doc.columns) => column.readable_toJson
  have hrows := Json.readable_array fun row (_ : row ∈ doc.rows) =>
    Json.readable_array fun v (_ : v ∈ row) => v.readable_toJson
  refine Json.readable_record (List.cons_ne_nil _ _) (by decide : KeepOrder ["name", "columns", "rows"]) ?_
  simp only [List.forall_mem_cons, Json.readable_string, true_and]
  exact ⟨hcolumns, hrows, nofun⟩

/-- A document is read under its name. -/
theorem DatabaseDocument.exists_reads_named (doc : DatabaseDocument) : ∃ version savedAt tables,
    Reads doc.toJson (.object [("version", version), ("name", .string (Json.joined doc.name)),
      ("savedAt", savedAt), ("tables", tables)]) := by
  have hkeys : KeepOrder ["version", "name", "savedAt", "tables"] := by decide
  obtain ⟨tables, htables⟩ := Json.readable_array fun table (_ : table ∈ doc.tables) =>
    table.readable_toJson
  exact ⟨.string (Json.joined doc.version), .string (Json.joined doc.savedAt), tables, Json.reads_record (List.cons_ne_nil _ _) hkeys <|
    .cons ⟨rfl, Json.reads_string _⟩ <| .cons ⟨rfl, Json.reads_string _⟩ <|
      .cons ⟨rfl, Json.reads_string _⟩ <| .cons ⟨rfl, htables⟩ .nil⟩

/-- A document that is read has the name that stands in it. -/
theorem name_of_databaseShape {version savedAt tables : Json} {name : String} {doc : DatabaseDocument}
    (h : databaseShape.read (.object [("version", version), ("name", .string name),
      ("savedAt", savedAt), ("tables", tables)]) = .ok doc) : doc.name = name := by
  obtain ⟨⟨_, read, _⟩, hboth, rfl⟩ := map_eq_ok.1 h
  obtain ⟨-, hrest⟩ := Checked.both_eq_ok.1 hboth
  obtain ⟨hname, -⟩ := Checked.both_eq_ok.1 hrest
  have hnonempty : Shape.nonempty ["name"] (some (.string name)) = .ok read := hname
  rw [Shape.nonempty] at hnonempty
  split at hnonempty
  next => cases hnonempty
  next => exact (Except.ok.inj hnonempty).symm

namespace Store

variable {store : Store} {disk : Disk} {name clock : String} {db other : Database}

/-- **What is loaded from a saved document has the name of the database that was saved.** -/
theorem name_of_load_saved (hread : disk.read? (store.databasePath name) =
      some (db.toDocument clock).toJson.pretty) (h : store.load disk name = .ok other) :
    other.name = Json.joined db.name := by
  obtain ⟨json, doc, hjson, hdoc, hother⟩ := load_eq_ok h
  obtain ⟨version, savedAt, tables, hreads⟩ := (db.toDocument clock).exists_reads_named
  have hsame := hjson
  rw [readJson, hread] at hsame
  split at hsame
  next => cases hsame
  next text htext =>
    split at htext
    next hpossible =>
      obtain rfl := Except.ok.inj ((readJson_of_read? hpossible hread hreads).symm.trans hjson)
      exact (Database.tables_of_ofDocument hother).1.trans (name_of_databaseShape hdoc)
    next => cases htext

end Store

end RelStore
