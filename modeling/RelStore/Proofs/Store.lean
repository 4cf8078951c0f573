/-
What saving leaves of the files, and what is read of them afterwards.

A document that cannot be written leaves its draft at most (`beside_of_run_writeSteps_error`), and
so every document is read as before. One that is written is read back (`readJson_of_read?`).
Reading a database, or the names of all, looks at one path only (`load_congr`, `loadNames_congr`).
-/
import RelStore.Proofs.Document
import RelStore.Proofs.Path
import RelStore.Proofs.Success

namespace RelStore

open Disk (Beside)

@[simp] theorem Database.name_empty (name : String) : (Database.empty name).name = name := rfl

theorem Database.joined_version : Json.joined Database.version = Database.version := by decide

theorem Json.joined_of_plain {text : String} (h : Text.Plain text.toList) : joined text = text := by
  rw [joined, Text.joinHalves_plain h, String.ofList_toList]

/-! ## Checked parts -/

namespace Checked

variable {α β : Type}

theorem both_eq_ok {first : Checked α} {second : Checked β} {pair : α × β} :
    both first second = .ok pair ↔ first = .ok pair.1 ∧ second = .ok pair.2 := by
  cases first <;> cases second <;> simp [both, Prod.ext_iff]

theorem length_of_all {parts : List (Checked α)} {results : List α}
    (h : all parts = .ok results) : results.length = parts.length := by
  induction parts generalizing results with
  | nil =>
    obtain rfl := Except.ok.inj h
    rfl
  | cons part rest ih =>
    obtain ⟨⟨first, others⟩, hboth, rfl⟩ := map_eq_ok.1 h
    rw [List.length_cons, List.length_cons, ih (both_eq_ok.1 hboth).2]

end Checked

namespace Store

variable {store : Store} {disk changed : Disk} {path other : Path} {content json : Json}
  {cause : Cause} {name text : String}

/-! ## Writing -/

/-- **A document that cannot be written leaves its draft at most**, and directories on the way. -/
theorem beside_of_run_writeSteps_error
    (h : disk.run (writeSteps path content) = (changed, .error cause)) :
    Beside path.parent [path.withEnding ".tmp"] disk changed := by
  have hmade := (@Disk.beside_attempt_makeDirectories disk path.parent).mono
    (List.nil_subset [path.withEnding ".tmp"])
  rcases Disk.run_cons_eq_error.1 h with ⟨-, rfl, -⟩ | ⟨-, h⟩
  · exact hmade
  rcases Disk.run_cons_eq_error.1 h with ⟨-, rfl, -⟩ | ⟨-, h⟩
  · exact hmade.trans Disk.beside_attempt_write
  rcases Disk.run_cons_eq_error.1 h with ⟨hkept, rfl, -⟩ | ⟨-, h⟩
  · exact hmade.trans (Disk.beside_attempt_write.trans (Disk.beside_attempt_rename_refused hkept))
  · cases h

/-- What writing a document leaves when it is carried out. -/
theorem run_writeSteps_ok (h : disk.run (writeSteps path content) = (changed, .ok ())) :
    Beside path.parent [path.withEnding ".tmp", path] disk changed ∧
      path.isPossible = true ∧ changed.read? path = some content.pretty := by
  obtain ⟨-, h⟩ := Disk.run_cons_eq_ok.1 h
  obtain ⟨hwritten, h⟩ := Disk.run_cons_eq_ok.1 h
  obtain ⟨hmoved, h⟩ := Disk.run_cons_eq_ok.1 h
  obtain rfl := congrArg Prod.fst h
  obtain ⟨hpossible, hread⟩ := Disk.read?_attempt_rename hmoved
  refine ⟨?_, hpossible, hread.trans (Disk.read?_attempt_write hwritten)⟩
  exact (Disk.beside_attempt_makeDirectories.mono (List.nil_subset _)).trans
    ((Disk.beside_attempt_write.mono (by simp)).trans Disk.beside_attempt_rename)

/-- What writing a document can change. -/
theorem beside_run_writeSteps (disk : Disk) (path : Path) (content : Json) :
    Beside path.parent [path.withEnding ".tmp", path] disk
      (disk.run (writeSteps path content)).1 := by
  rcases hrun : disk.run (writeSteps path content) with ⟨changed, cause | ⟨⟩⟩
  · exact (beside_of_run_writeSteps_error hrun).mono (by simp)
  · exact (run_writeSteps_ok hrun).1

/-! ## Reading -/

theorem readJson_congr (h : changed.read? path = disk.read? path) :
    readJson changed path = readJson disk path := by
  rw [readJson, readJson, h]

/-- What is written is read. -/
theorem readJson_of_read? (hpossible : path.isPossible = true)
    (hread : disk.read? path = some content.pretty) (h : Json.Reads content json) :
    readJson disk path = .ok json := by
  rw [readJson, if_pos hpossible, hread]
  simp only [Json.parse?_pretty h]

theorem load_congr
    (h : changed.read? (store.databasePath name) = disk.read? (store.databasePath name)) :
    store.load changed name = store.load disk name := by
  rw [load, load, readJson_congr h]

/-- What is loaded rests on where a name leads. -/
theorem load_of_path_eq {other : String} {db : Database}
    (hpath : store.databasePath name = store.databasePath other)
    (h : store.load disk name = .ok db) : store.load disk other = .ok db := by
  rw [load, hpath, bind_eq_ok] at h
  obtain ⟨json, hjson, h⟩ := h
  rw [load, bind_eq_ok]
  refine ⟨json, hjson, ?_⟩
  split at h
  next => cases h
  next doc hdoc =>
    split at h
    next => exact h
    next => cases h

theorem has_of_read? (hpossible : path.isPossible = true) (hread : disk.read? path = some text) :
    disk.has path = true := by
  rw [Disk.has, hpossible, Bool.true_and]
  cases hnode : disk.node? path with
  | none =>
    rw [Disk.read?, hnode] at hread
    cases hread
  | some node => rfl

theorem readJson_of_not_has (h : disk.has path = false) :
    readJson disk path = .error (.unreadable path.text) := by
  rw [Disk.has, Bool.and_eq_false_iff] at h
  rw [readJson]
  split
  next hnone => rfl
  next text hread =>
    split at hread
    next hpossible =>
      rcases h with hnot | hnone
      · rw [hpossible] at hnot
        cases hnot
      · have hnode : disk.node? path = none := by simpa using hnone
        rw [Disk.read?, hnode] at hread
        cases hread
    next => cases hread

/-- A database without a document cannot be loaded. -/
theorem load_of_not_has (h : disk.has (store.databasePath name) = false) :
    store.load disk name = .error (.unreadable (store.databasePath name).text) := by
  rw [load, readJson_of_not_has h]
  rfl

/-- The names that are read depend on what is at their path. -/
theorem loadNames_congr (h : changed.node? store.catalogPath = disk.node? store.catalogPath) :
    store.loadNames changed = store.loadNames disk := by
  have hread : changed.read? store.catalogPath = disk.read? store.catalogPath := by
    rw [Disk.read?, Disk.read?, h]
  rw [loadNames, loadNames, readJson_congr hread, Disk.has, Disk.has, h]

/-! ## Documents -/

/-- A document that is written is loaded, under every name that leads to it. -/
theorem load_of_read? {doc : DatabaseDocument} {db : Database} (hdoc : doc.Writable)
    (hpossible : (store.databasePath name).isPossible = true)
    (hread : disk.read? (store.databasePath name) = some doc.toJson.pretty)
    (hdb : Database.ofDocument doc.readBack = .ok db) : store.load disk name = .ok db := by
  obtain ⟨json, hjson, hshape⟩ := exists_reads_document hdoc
  rw [load, readJson_of_read? hpossible hread hjson, bind_eq_ok]
  refine ⟨json, rfl, ?_⟩
  simp only [hshape, hdb]
  rfl

theorem isName_of_checkName (h : Sql.checkName .database name = .ok ()) : IsName name :=
  ⟨ne_empty_of_checkName h, Json.joined_of_plain (plain_of_checkName h)⟩

/-- **A new database that is saved is loaded**, under every name that leads to its document. -/
theorem load_of_read?_empty {clock : String} (h : Sql.checkName .database name = .ok ())
    (hpath : store.databasePath text = store.databasePath name)
    (hpossible : (store.databasePath name).isPossible = true)
    (hread : disk.read? (store.databasePath name) =
      some ((Database.empty name).toDocument clock).toJson.pretty) :
    store.load disk text = .ok (Database.empty name) := by
  have hdoc : ((Database.empty name).toDocument clock).Writable :=
    ⟨Database.joined_version, isName_of_checkName h, nofun⟩
  rw [← hpath] at hpossible hread
  exact load_of_read? hdoc hpossible hread rfl

/-! ## Names -/

theorem reads_namesJson (names : List String) : Json.Reads (namesJson names)
    (.object [("databases", .array (names.map fun name => .string (Json.joined name)))]) := by
  have hnames : List.Forall₂ Json.Reads (names.map Json.string)
      (names.map fun name => .string (Json.joined name)) := by
    rw [List.forall₂_map_left_iff, List.forall₂_map_right_iff]
    exact List.forall₂_same.2 fun name _ => Json.reads_string name
  have hkeys : Json.KeepOrder ["databases"] := by decide
  exact Json.reads_record (List.cons_ne_nil _ _) hkeys (.cons ⟨rfl, Json.reads_array hnames⟩ .nil)

/-- As many names are read as are written, if they are read. -/
theorem length_of_loadNames {names listed : List String}
    (hpossible : store.catalogPath.isPossible = true)
    (hread : disk.read? store.catalogPath = some (namesJson names).pretty)
    (h : store.loadNames disk = .ok listed) : listed.length = names.length := by
  rw [loadNames, if_pos (has_of_read? hpossible hread), readJson_of_read? hpossible hread (reads_namesJson names)] at h
  obtain ⟨json, hjson, h⟩ := bind_eq_ok.1 h
  obtain rfl := Except.ok.inj hjson
  split at h
  next read hnames =>
    obtain rfl := Except.ok.inj h
    have hall := Checked.length_of_all hnames
    rwa [List.length_mapIdx, List.length_map] at hall
  next => cases h

/-- The names that are written are read, if they are names that documents take. -/
theorem loadNames_of_read? {names : List String} (hnames : ∀ name ∈ names, IsName name)
    (hpossible : store.catalogPath.isPossible = true)
    (hread : disk.read? store.catalogPath = some (namesJson names).pretty) :
    store.loadNames disk = .ok names := by
  have hjoined : (names.map fun name => Json.string (Json.joined name)) = names.map Json.string :=
    List.map_congr_left fun name hname => congrArg Json.string (hnames name hname).joined
  have hshape : namesShape.read (.object [("databases", .array (names.map Json.string))]) =
      .ok names := by
    have hitems := Shape.takes_arrayOf (fun name hname =>
      Shape.takes_nonempty (hnames name hname).nonempty) ["databases"]
    simpa [Shape.read, namesShape, Shape.object, Shape.field, Json.get?, List.lookup_cons] using hitems
  have hjson := readJson_of_read? hpossible hread (reads_namesJson names)
  rw [hjoined] at hjson
  rw [loadNames, if_pos (has_of_read? hpossible hread), bind_eq_ok]
  exact ⟨_, hjson, by rw [hshape]; rfl⟩

end Store

end RelStore
