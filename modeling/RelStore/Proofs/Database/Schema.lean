/-
Creating and dropping tables keeps a database sound.

A new table comes after all others, so that its references lead to tables before it, and no
reference leads to it. A table that is dropped is one that no other refers to, so that what the
references of the others lead to stays.
-/
import RelStore.Proofs.Database.Reference

namespace RelStore.Database

open Text (sameName)

variable {db next : Database} {table : Table} {schema : Schema} {name : String}

/-! ## Creating -/

theorem checkReference_eq_ok {column : Column} {ref : Reference} :
    db.checkReference table column ref = .ok () ↔ ∃ target key,
      (if sameName ref.table table.name then some table else db.table? ref.table) = some target ∧
        target.column? ref.column = some key ∧ key.isKey = true ∧
        key.type.family = column.type.family := by
  simp only [checkReference]
  cases (if sameName ref.table table.name then some table else db.table? ref.table) with
  | none => simp [throw_ne_ok]
  | some target =>
    cases hk : target.column? ref.column with
    | none => simp [hk, throw_ne_ok]
    | some key =>
      cases hkey : key.isKey with
      | false => simp [hk, hkey, throw_ne_ok, bind_eq_ok]
      | true =>
        by_cases hf : key.type.family = column.type.family
        · simp [hk, hkey, hf, pure_eq_ok]
        · simp [hk, hkey, hf, throw_ne_ok]

theorem checkColumnReference_eq_ok {column : Column} :
    db.checkColumnReference table column = .ok () ↔
      ∀ ref, column.references = some ref → db.checkReference table column ref = .ok () := by
  simp only [checkColumnReference]
  cases column.references <;> simp

theorem createTable_eq_ok : db.createTable schema = .ok (next, table) ↔
    db.table? schema.name = none ∧ Table.create schema = .ok table ∧
      (∀ column ∈ table.columns, db.checkColumnReference table column = .ok ()) ∧
      next = { db with tables := db.tables ++ [table] } := by
  simp only [createTable]
  cases hn : db.table? schema.name with
  | some other => simp [throw_ne_ok, bind_eq_ok]
  | none =>
    simp only [Option.isSome_none, Bool.false_eq_true, if_false, bind_eq_ok, pure_eq_ok,
      Prod.mk.injEq, true_and]
    constructor
    · rintro ⟨_, hc, ⟨⟩, hall, rfl, rfl⟩
      exact ⟨hc, forM_eq_ok.1 hall, rfl⟩
    · rintro ⟨hc, hall, rfl⟩
      exact ⟨table, hc, (), forM_eq_ok.2 hall, rfl, rfl⟩

/-- A table that is created has the schema that was asked for, and no rows. -/
theorem schema_of_createTable (hc : db.createTable schema = .ok (next, table)) :
    table.schema = schema ∧ table.rows = [] := by
  obtain ⟨-, hcreate, -, -⟩ := createTable_eq_ok.1 hc
  obtain ⟨key, -, rfl⟩ := Table.create_eq_ok.1 hcreate
  exact ⟨rfl, rfl⟩

theorem name_createTable (hc : db.createTable schema = .ok (next, table)) :
    next.name = db.name := by
  obtain ⟨-, -, -, rfl⟩ := createTable_eq_ok.1 hc
  rfl

theorem fresh_of_createTable (hc : db.createTable schema = .ok (next, table)) :
    ∀ other ∈ db.tables, sameName other.name table.name = false := by
  obtain ⟨hnone, -, -, -⟩ := createTable_eq_ok.1 hc
  intro other hother
  rw [show table.name = schema.name from congrArg Schema.name (schema_of_createTable hc).1]
  simpa using List.find?_eq_none.1 hnone other hother

/-- One more schema may come at the end, if its references lead to those before or to itself. -/
theorem Linked.append {schemas : List Schema} (h : Linked schemas)
    (hnew : ∀ column ∈ schema.columns, ∀ ref, column.references = some ref →
      ∃ target ∈ schemas ++ [schema], ∃ key, sameName target.name ref.table = true ∧
        target.column? ref.column = some key ∧ key.isKey = true ∧
        key.type.family = column.type.family) : Linked (schemas ++ [schema]) := by
  intro before other rest hsplit
  rcases rest.eq_nil_or_concat with rfl | ⟨rest, last, rfl⟩
  · obtain ⟨rfl, he⟩ := List.append_inj' hsplit rfl
    obtain rfl := List.singleton_inj.1 he
    exact hnew
  · have hsplit' : schemas ++ [schema] = (before ++ other :: rest) ++ [last] := by
      simpa using hsplit
    obtain ⟨hbefore, -⟩ := List.append_inj' hsplit' rfl
    exact h before other rest hbefore

theorem Sound.createTable (h : db.Sound) (hc : db.createTable schema = .ok (next, table)) :
    next.Sound := by
  have hfresh := fresh_of_createTable hc
  have hrows := (schema_of_createTable hc).2
  obtain ⟨-, hcreate, hrefs, hnext⟩ := createTable_eq_ok.1 hc
  have hinv := Table.invariant_create hcreate
  subst hnext
  constructor
  case named => exact h.named.concat hfresh
  case tables =>
    intro other ho
    rcases List.mem_append.1 ho with ho | ho
    · exact h.tables other ho
    · rw [List.mem_singleton.1 ho]
      exact hinv
  case linked =>
    rw [List.map_append, List.map_singleton]
    refine h.linked.append fun column hcm ref href => ?_
    obtain ⟨target, key, htarget, hkey⟩ :=
      checkReference_eq_ok.1 (checkColumnReference_eq_ok.1 (hrefs column hcm) ref href)
    split at htarget
    next hself =>
      obtain rfl := Option.some.inj htarget
      exact ⟨table.schema, by simp, key, Text.sameName_comm _ _ ▸ hself, hkey⟩
    next =>
      obtain ⟨htm, htn⟩ := h.table?_eq_some_iff.1 htarget
      exact ⟨target.schema, List.mem_append_left _ (List.mem_map_of_mem htm), key, htn, hkey⟩
  case held =>
    rintro t column u key ⟨htm, hcm, hum, ref, href, hn, hk⟩ hne
    rcases List.mem_append.1 htm with htm | htm
    · -- what an older table refers to is older, and so is not the new one
      have hu : u ∈ db.tables := by
        obtain ⟨other, ho, -, hsn, -⟩ := h.exists_target htm hcm href
        rcases List.mem_append.1 hum with hum | hum
        · exact hum
        · have hsame : sameName other.name u.name = true :=
            Text.sameName_trans hsn (Text.sameName_comm _ _ ▸ hn)
          rw [List.mem_singleton.1 hum, hfresh other ho] at hsame
          cases hsame
      exact h.held t column u key ⟨htm, hcm, hu, ref, href, hn, hk⟩ hne
    · intro stored hs
      rw [List.mem_singleton.1 htm, hrows] at hs
      cases hs

theorem SelfHeld.createTable (h : db.SelfHeld) (hc : db.createTable schema = .ok (next, table)) :
    next.SelfHeld := by
  have hrows := (schema_of_createTable hc).2
  obtain ⟨-, -, -, rfl⟩ := createTable_eq_ok.1 hc
  intro t column key ⟨htm, hcm, _, hrefers⟩
  rcases List.mem_append.1 htm with htm | htm
  · exact h t column key ⟨htm, hcm, htm, hrefers⟩
  · intro stored hs
    rw [List.mem_singleton.1 htm, hrows] at hs
    cases hs

/-! ## Dropping -/

theorem dropTable_eq_ok : db.dropTable name = .ok next ↔
    ∃ table, db.table? name = some table ∧
      (∀ r ∈ db.referrers table.name, sameName r.table.name table.name = true) ∧
      next = { db with tables := db.tables.filter fun other => !sameName other.name name } := by
  simp only [dropTable, bind_eq_ok, requireTable_eq_ok]
  refine exists_congr fun table => and_congr_right fun _ => ?_
  cases hf : (db.referrers table.name).find? fun r => !sameName r.table.name table.name with
  | some r =>
    have hm := List.mem_of_find?_eq_some hf
    have hn := List.find?_some hf
    simp only [throw_ne_ok, false_iff, not_and]
    intro hall
    rw [hall r hm] at hn
    cases hn
  | none =>
    simp only [List.find?_eq_none, Bool.not_eq_true', Bool.not_eq_false] at hf
    rw [pure_eq_ok, eq_comm, and_iff_right hf]

theorem name_dropTable (hd : db.dropTable name = .ok next) : next.name = db.name := by
  obtain ⟨table, -, -, rfl⟩ := dropTable_eq_ok.1 hd
  rfl

/-- Schemas may go that no reference of those that stay leads to. -/
theorem Linked.filter {schemas : List Schema} {stays : Schema → Bool} (h : Linked schemas)
    (hstays : ∀ schema ∈ schemas, stays schema = true → ∀ column ∈ schema.columns, ∀ ref,
      column.references = some ref → ∀ target ∈ schemas, sameName target.name ref.table = true →
        stays target = true) : Linked (schemas.filter stays) := by
  intro before schema rest hsplit column hc ref href
  obtain ⟨front, back, rfl, rfl, hback⟩ := List.filter_eq_append_iff.1 hsplit
  obtain ⟨gone, later, rfl, hgone, hschema, rfl⟩ := List.filter_eq_cons_iff.1 hback
  obtain ⟨target, htm, key, hn, hkey⟩ :=
    h (front ++ gone) schema later (by simp) column hc ref href
  have htarget : target ∈ front ++ (gone ++ schema :: later) := by
    simp only [List.mem_append, List.mem_cons, List.not_mem_nil, or_false] at htm ⊢
    tauto
  have hstay := hstays schema (by simp) hschema column hc ref href target htarget hn
  refine ⟨target, ?_, key, hn, hkey⟩
  simp only [List.mem_append, List.mem_singleton, List.mem_filter] at htm ⊢
  rcases htm with (hm | hm) | rfl
  · exact .inl ⟨hm, hstay⟩
  · exact absurd hstay (hgone target hm)
  · exact .inr rfl

theorem Link.of_filter {p : Table → Bool} {t u : Table} {column key : Column}
    (hl : Link { db with tables := db.tables.filter p } t column u key) : db.Link t column u key :=
  ⟨(List.mem_filter.1 hl.table_mem).1, hl.column_mem, (List.mem_filter.1 hl.target_mem).1,
    hl.refers⟩

theorem Sound.dropTable (h : db.Sound) (hd : db.dropTable name = .ok next) : next.Sound := by
  obtain ⟨table, ht, hall, rfl⟩ := dropTable_eq_ok.1 hd
  obtain ⟨htm, htn⟩ := h.table?_eq_some_iff.1 ht
  constructor
  case named => exact h.named.sublist List.filter_sublist
  case tables => exact fun other ho => h.tables other (List.mem_filter.1 ho).1
  case linked =>
    have hfilter : (db.tables.filter fun other => !sameName other.name name).map (·.schema) =
        (db.tables.map (·.schema)).filter fun schema => !sameName schema.name name := by
      rw [List.filter_map]
      rfl
    rw [hfilter]
    refine h.linked.filter ?_
    simp only [List.forall_mem_map, Bool.not_eq_true', Bool.eq_false_iff]
    intro other ho hstays column hc ref href target htarget hn hgone
    have hsame : sameName target.name table.name = true :=
      Text.sameName_trans hgone (Text.sameName_comm _ _ ▸ htn)
    have hrefn : sameName ref.table table.name = true :=
      Text.sameName_trans (Text.sameName_comm _ _ ▸ hn) hsame
    have hr := hall ⟨other, column, ref⟩ (mem_referrers.2 ⟨ho, hc, href, hrefn⟩)
    exact hstays (Text.sameName_trans hr htn)
  case held => exact fun t column u key hl hne => h.held t column u key (Link.of_filter hl) hne

theorem SelfHeld.dropTable (h : db.SelfHeld) (hd : db.dropTable name = .ok next) :
    next.SelfHeld := by
  obtain ⟨table, -, -, rfl⟩ := dropTable_eq_ok.1 hd
  exact fun t column key hl => h t column key (Link.of_filter hl)

end RelStore.Database
