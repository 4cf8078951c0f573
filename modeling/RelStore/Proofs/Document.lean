/-
Documents are read back from their texts.

A document that is written is read as the same document, but for zeros, which lose their sign, and
for the time it is marked with (`read_document`). What a text is read as is put together from its
parts as the text is, and so is what the shapes of documents take from it: one lemma for each kind
of part, up to the whole document.
-/
import RelStore.Document
import RelStore.Proofs.Json.Number

namespace RelStore

/-! ## What is written -/

/-- What a scalar is read back as. -/
def Scalar.readBack : Scalar → Scalar
  | .number n => .number n.readBack
  | v => v

/-- What a value is read back as. -/
def Value.readBack (v : Value) : Value := v.map Scalar.readBack

/-- A scalar that has a JSON text of its own. The two halves of one character never stand side by
side in a text. -/
def Scalar.Writable : Scalar → Prop
  | .number n => n.isFinite = true
  | .text s => Json.joined s = s
  | .bool _ => True

def Value.Writable (v : Value) : Prop := ∀ s ∈ v, s.Writable

/-- A name that documents take. -/
structure IsName (name : String) : Prop where
  nonempty : name.isEmpty = false
  joined : Json.joined name = name

structure Reference.Writable (r : Reference) : Prop where
  table : IsName r.table
  column : IsName r.column

structure Column.Writable (c : Column) : Prop where
  name : IsName c.name
  references : ∀ r ∈ c.references, r.Writable

structure TableDocument.Writable (doc : TableDocument) : Prop where
  name : IsName doc.name
  columns : ∀ column ∈ doc.columns, column.Writable
  values : ∀ row ∈ doc.rows, ∀ v ∈ row, v.Writable

structure DatabaseDocument.Writable (doc : DatabaseDocument) : Prop where
  version : Json.joined doc.version = doc.version
  name : IsName doc.name
  tables : ∀ table ∈ doc.tables, table.Writable

/-- What a document is read back as: with its zeros without a sign. -/
def TableDocument.readBack (doc : TableDocument) : TableDocument :=
  { doc with rows := doc.rows.map fun row => row.map Value.readBack }

def DatabaseDocument.readBack (doc : DatabaseDocument) : DatabaseDocument :=
  { doc with savedAt := Json.joined doc.savedAt, tables := doc.tables.map (·.readBack) }

theorem Scalar.Writable.readBack {v : Scalar} (h : v.Writable) : v.readBack.Writable := by
  rcases v with ⟨_ | ⟨negative, rank⟩⟩ | s | b <;> exact h

theorem Value.Writable.readBack {v : Value} (h : v.Writable) : v.readBack.Writable := by
  intro s hs
  obtain ⟨old, hold, rfl⟩ := Option.map_eq_some_iff.1 hs
  exact (h old hold).readBack

theorem TableDocument.Writable.readBack {doc : TableDocument} (h : doc.Writable) :
    doc.readBack.Writable where
  name := h.name
  columns := h.columns
  values row hrow v hv := by
    obtain ⟨old, hold, rfl⟩ := List.mem_map.1 hrow
    obtain ⟨w, hw, rfl⟩ := List.mem_map.1 hv
    exact (h.values old hold w hw).readBack

theorem DatabaseDocument.Writable.readBack {doc : DatabaseDocument} (h : doc.Writable) :
    doc.readBack.Writable where
  version := h.version
  name := h.name
  tables table ht := by
    obtain ⟨old, hold, rfl⟩ := List.mem_map.1 ht
    exact (h.tables old hold).readBack

/-! ## From texts to JSON values -/

namespace Json

theorem reads_joined {s : String} (h : joined s = s) : Reads (.string s) (.string s) := by
  have := reads_string s
  rwa [h] at this

/-- The items of an array are read one by one. -/
theorem reads_map {α : Type} {items : List α} {written read : α → Json}
    (h : ∀ item ∈ items, Reads (written item) (read item)) :
    Reads (.array (items.map written)) (.array (items.map read)) := by
  refine reads_array ?_
  rw [List.forall₂_map_left_iff, List.forall₂_map_right_iff]
  exact List.forall₂_same.2 h

end Json

open Json (Reads KeepOrder)

theorem Value.reads_toJson {v : Value} (h : v.Writable) : Reads v.toJson v.readBack.toJson := by
  rcases v with _ | ⟨n | s | b⟩
  · exact Json.reads_null
  · exact Json.reads_number (h _ rfl)
  · exact Json.reads_joined (h _ rfl)
  · exact Json.reads_bool b

theorem Reference.reads_toJson {r : Reference} (h : r.Writable) : Reads r.toJson r.toJson := by
  have hkeys : KeepOrder ["table", "column"] := by decide
  exact Json.reads_record (List.cons_ne_nil _ _) hkeys <|
    .cons ⟨rfl, Json.reads_joined h.table.joined⟩ <|
      .cons ⟨rfl, Json.reads_joined h.column.joined⟩ .nil

theorem DataType.joined_name (t : DataType) : Json.joined t.name = t.name := by
  cases t <;> decide

theorem Column.reads_toJson {c : Column} (h : c.Writable) : Reads c.toJson c.toJson := by
  obtain ⟨name, type, primaryKey, unique, references⟩ := c
  have hname : Reads (.string name) (.string name) := Json.reads_joined h.name.joined
  have htype : Reads (.string type.name) (.string type.name) :=
    Json.reads_joined type.joined_name
  cases references with
  | none =>
    have hkeys : KeepOrder ["name", "type", "primaryKey", "unique"] := by decide
    exact Json.reads_record (List.cons_ne_nil _ _) hkeys <|
      .cons ⟨rfl, hname⟩ <| .cons ⟨rfl, htype⟩ <| .cons ⟨rfl, Json.reads_bool _⟩ <|
        .cons ⟨rfl, Json.reads_bool _⟩ .nil
  | some r =>
    have hkeys : KeepOrder ["name", "type", "primaryKey", "unique", "references"] := by decide
    exact Json.reads_record (List.cons_ne_nil _ _) hkeys <|
      .cons ⟨rfl, hname⟩ <| .cons ⟨rfl, htype⟩ <| .cons ⟨rfl, Json.reads_bool _⟩ <|
        .cons ⟨rfl, Json.reads_bool _⟩ <|
          .cons ⟨rfl, Reference.reads_toJson (h.references r rfl)⟩ .nil

theorem TableDocument.reads_toJson {doc : TableDocument} (h : doc.Writable) :
    Reads doc.toJson doc.readBack.toJson := by
  have hkeys : KeepOrder ["name", "columns", "rows"] := by decide
  have hcolumns := Json.reads_map fun column hc => Column.reads_toJson (h.columns column hc)
  have hrows := Json.reads_map fun row hrow =>
    Json.reads_map fun v hv => Value.reads_toJson (h.values row hrow v hv)
  rw [toJson, toJson, readBack]
  simp only [List.map_map, Function.comp_def]
  exact Json.reads_record (List.cons_ne_nil _ _) hkeys <|
    .cons ⟨rfl, Json.reads_joined h.name.joined⟩ <| .cons ⟨rfl, hcolumns⟩ <|
      .cons ⟨rfl, hrows⟩ .nil

theorem DatabaseDocument.reads_toJson {doc : DatabaseDocument} (h : doc.Writable) :
    Reads doc.toJson doc.readBack.toJson := by
  have hkeys : KeepOrder ["version", "name", "savedAt", "tables"] := by decide
  have htables := Json.reads_map fun table ht => TableDocument.reads_toJson (h.tables table ht)
  rw [toJson, toJson, readBack]
  simp only [List.map_map, Function.comp_def]
  exact Json.reads_record (List.cons_ne_nil _ _) hkeys <|
    .cons ⟨rfl, Json.reads_joined h.version⟩ <| .cons ⟨rfl, Json.reads_joined h.name.joined⟩ <|
      .cons ⟨rfl, Json.reads_string _⟩ <| .cons ⟨rfl, htables⟩ .nil

/-! ## From JSON values to documents -/

/-- A shape takes a JSON value for something, wherever it stands. -/
def Shape.Takes {α : Type} (shape : Shape α) (json : Json) (a : α) : Prop :=
  ∀ place, shape place (some json) = .ok a

namespace Shape

variable {α : Type} {shape : Shape α}

theorem takes_nonempty {s : String} (h : s.isEmpty = false) : nonempty.Takes (.string s) s := by
  intro place
  simp only [nonempty, h, Bool.false_eq_true, if_false]

theorem takes_arrayOf {items : List α} {written : α → Json}
    (h : ∀ item ∈ items, shape.Takes (written item) item) :
    (arrayOf shape).Takes (.array (items.map written)) items := by
  intro place
  -- the places of the items are no matter, so that the induction is over any places
  suffices hall : ∀ places : Nat → List String,
      Checked.all ((items.map written).mapIdx fun index found => shape (places index) (some found)) =
        .ok items from hall _
  induction items with
  | nil => exact fun _ => rfl
  | cons item rest ih =>
    intro places
    obtain ⟨hitem, hrest⟩ := List.forall_mem_cons.1 h
    rw [List.map_cons, List.mapIdx_cons, Checked.all, hitem (places 0),
      ih hrest fun index => places (index + 1)]
    rfl

end Shape

open Shape (arrayOf takes_nonempty takes_arrayOf)

theorem takes_valueShape (v : Value) : valueShape.Takes v.toJson v := by
  intro place
  rcases v with _ | ⟨n | s | b⟩ <;> rfl

theorem takes_referenceShape {r : Reference} (h : r.Writable) : referenceShape.Takes r.toJson r := by
  intro place
  have htable := takes_nonempty h.table.nonempty (place ++ ["table"])
  have hcolumn := takes_nonempty h.column.nonempty (place ++ ["column"])
  simp [referenceShape, Shape.object, Shape.field, Json.get?, Reference.toJson, List.lookup_cons, htable,
    hcolumn, Checked.both, Except.map]

theorem takes_dataTypeShape (t : DataType) : dataTypeShape.Takes (.string t.name) t := by
  intro place
  simp only [dataTypeShape, Shape.choice, DataType.ofName?_name]

theorem takes_columnShape {c : Column} (h : c.Writable) : columnShape.Takes c.toJson c := by
  intro place
  obtain ⟨name, type, primaryKey, unique, references⟩ := c
  have hname := takes_nonempty h.name.nonempty (place ++ ["name"])
  have htype := takes_dataTypeShape type (place ++ ["type"])
  cases references with
  | none =>
    simp [columnShape, Shape.object, Shape.field, Json.get?, Column.toJson, List.lookup_cons, hname,
      htype, Shape.bool, Shape.optional, Checked.both, Except.map]
  | some r =>
    have href := takes_referenceShape (h.references r rfl) (place ++ ["references"])
    simp [columnShape, Shape.object, Shape.field, Json.get?, Column.toJson, List.lookup_cons, hname,
      htype, href, Shape.bool, Shape.optional, Checked.both, Except.map]

theorem takes_tableShape {doc : TableDocument} (h : doc.Writable) :
    tableShape.Takes doc.toJson doc := by
  intro place
  have hname := takes_nonempty h.name.nonempty (place ++ ["name"])
  have hcolumns := takes_arrayOf (fun column hc => takes_columnShape (h.columns column hc))
    (place ++ ["columns"])
  have hrow (row : List Value) : (arrayOf valueShape).Takes (.array (row.map (·.toJson))) row :=
    takes_arrayOf fun v _ => takes_valueShape v
  have hrows := takes_arrayOf (fun row (_ : row ∈ doc.rows) => hrow row) (place ++ ["rows"])
  simp [tableShape, Shape.object, Shape.field, Json.get?, TableDocument.toJson, List.lookup_cons, hname,
    hcolumns, hrows, Checked.both, Except.map]

theorem takes_databaseShape {doc : DatabaseDocument} (h : doc.Writable) :
    databaseShape.Takes doc.toJson doc := by
  intro place
  have hname := takes_nonempty h.name.nonempty (place ++ ["name"])
  have htables := takes_arrayOf (fun table ht => takes_tableShape (h.tables table ht))
    (place ++ ["tables"])
  simp [databaseShape, Shape.object, Shape.field, Json.get?, DatabaseDocument.toJson, List.lookup_cons,
    hname, htables, Shape.string, Checked.both, Except.map]

/-- **A document is read back from its text**: as it was, but for the sign of zeros. -/
theorem exists_reads_document {doc : DatabaseDocument} (h : doc.Writable) :
    ∃ json, Reads doc.toJson json ∧ databaseShape.read json = .ok doc.readBack :=
  ⟨_, DatabaseDocument.reads_toJson h, takes_databaseShape h.readBack []⟩

end RelStore
