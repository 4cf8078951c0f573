/-
Where documents are.

The last name of a document's path ends in `.json` whatever the name of the database is
(`isDocument_databasePath`), so that no document is where a draft of one is
(`IsDocument.ne_withEnding`). A name that a new database may have has no slash in it, and its
document is right in the directory of documents (`databasePath_of_checkName`).
-/
import RelStore.Proofs.Disk
import RelStore.Catalog

namespace RelStore

/-! ## Plain texts -/

namespace Text

/-- Characters of which none stands for a half. -/
def Plain (chars : List Char) : Prop := ∀ c ∈ chars, isHalf c = false

instance (chars : List Char) : Decidable (Plain chars) :=
  List.decidableBAll (fun c => isHalf c = false) chars

theorem showChars_append_plain (chars : List Char) {plain : List Char} (h : Plain plain) :
    showChars (chars ++ plain) = showChars chars ++ plain := by
  have hself : showChars plain = plain := by
    induction plain with
    | nil => rfl
    | cons c rest ih =>
      obtain ⟨hc, hrest⟩ := List.forall_mem_cons.1 h
      cases rest with
      | nil => simp [showChars, showChar, hc]
      | cons d rest =>
        rw [showChars, if_neg (by simp [isHighHalf, hc]), ih hrest, showChar, hc]
        rfl
  induction chars using showChars.induct with
  | case1 => exact hself
  | case2 c =>
    cases plain with
    | nil => rfl
    | cons d rest =>
      have hd : isHalf d = false := (List.forall_mem_cons.1 h).1
      have hboth : showChars (c :: d :: rest) = showChar c :: showChars (d :: rest) := by
        rw [showChars, if_neg (by simp [isLowHalf, hd])]
      rw [List.singleton_append, hboth, hself]
      rfl
  | case3 c d rest hpair ih =>
    rw [List.cons_append, List.cons_append, showChars, if_pos hpair, ih, showChars, if_pos hpair]
    rfl
  | case4 c d rest hpair ih =>
    rw [List.cons_append] at ih
    rw [List.cons_append, List.cons_append, showChars, if_neg hpair, ih, showChars, if_neg hpair]
    rfl

theorem flatMap_holdChar_plain {plain : List Char} (h : Plain plain) :
    plain.flatMap holdChar = plain := by
  induction plain with
  | nil => rfl
  | cons c rest ih =>
    obtain ⟨hc, hrest⟩ := List.forall_mem_cons.1 h
    rw [List.flatMap_cons, ih hrest, holdChar, hc]
    rfl

theorem joinHalves_plain {plain : List Char} (h : Plain plain) : joinHalves plain = plain := by
  induction plain with
  | nil => rfl
  | cons c rest ih =>
    obtain ⟨hc, hrest⟩ := List.forall_mem_cons.1 h
    cases rest with
    | nil => rfl
    | cons d rest => rw [joinHalves, if_neg (by simp [isHighHalf, hc]), ih hrest]

/-- What is plain at the end of a text stays there. -/
theorem toList_wellFormed_append (s : String) {t : String} (h : Plain t.toList) :
    (wellFormed (s ++ t)).toList = (wellFormed s).toList ++ t.toList := by
  simp only [wellFormed, enter, leave, String.toList_append, String.toList_ofList,
    showChars_append_plain _ h, List.flatMap_append, flatMap_holdChar_plain h]

end Text

/-! ## Segments -/

namespace Path

variable {path other dir : Path} {name base : String}

theorem segments_of_not_mem {chars : List Char} (h : '/' ∉ chars) : segments chars = [chars] := by
  induction chars with
  | nil => rfl
  | cons c rest ih =>
    rw [List.mem_cons, not_or] at h
    have hc : (c == '/') = false := by simpa using fun e => h.1 e.symm
    rw [segments, hc, ih h.2]
    rfl

/-- What has no slash in it comes to the last segment. -/
theorem segments_append (chars : List Char) {last : List Char} (h : '/' ∉ last) :
    ∃ front segment, segments chars = front ++ [segment] ∧
      segments (chars ++ last) = front ++ [segment ++ last] := by
  induction chars with
  | nil => exact ⟨[], [], rfl, segments_of_not_mem h⟩
  | cons c rest ih =>
    obtain ⟨front, segment, hrest, hboth⟩ := ih
    rw [List.cons_append, segments, segments, hrest, hboth]
    cases hc : c == '/' with
    | true => exact ⟨[] :: front, segment, rfl, rfl⟩
    | false =>
      cases front with
      | nil => exact ⟨[], c :: segment, rfl, rfl⟩
      | cons first others => exact ⟨(c :: first) :: others, segment, rfl, rfl⟩

/-! ## Documents -/

/-- The last name of a path ends like those of documents. -/
def IsDocument (path : Path) : Prop :=
  ∃ (dir : Path) (base : String), path = dir.child (base ++ ".json")

theorem step_document (path : Path) (base : String) :
    path.step (base ++ ".json") = path.child (base ++ ".json") := by
  have hlength : 5 ≤ (base ++ ".json").length := by
    rw [String.length_append]
    exact Nat.le_add_left _ _
  have hne (short : String) (hs : short.length < 5) : ((base ++ ".json") == short) = false := by
    refine beq_eq_false_iff_ne.2 fun heq => ?_
    rw [heq] at hlength
    omega
  rw [step, hne "" (by decide), hne "." (by decide), hne ".." (by decide)]
  rfl

theorem child_injective (h : path.child name = dir.child base) :
    path = dir ∧ name = base := by
  obtain ⟨names⟩ := path
  obtain ⟨names'⟩ := dir
  obtain ⟨hnames, hname⟩ := List.append_inj' (Path.mk.inj h) rfl
  exact ⟨congrArg Path.mk hnames, (List.cons.inj hname).1⟩

@[simp] theorem withEnding_child (path : Path) (name ending : String) :
    (path.child name).withEnding ending = path.child (name ++ ending) := by
  simp [withEnding, child]

theorem parent_child (h : path.names ≠ []) : (path.child name).parent = path := by
  obtain ⟨names⟩ := path
  cases names with
  | nil => exact absurd rfl h
  | cons first rest =>
    have hlength : ¬ (first :: rest ++ [name]).length ≤ 1 := by simp
    rw [parent, child, if_neg hlength, List.dropLast_concat]

/-- No document is where the draft of one is. -/
theorem IsDocument.ne_withEnding (h : path.IsDocument) (h' : other.IsDocument) :
    path ≠ other.withEnding ".tmp" := by
  obtain ⟨dir, base, rfl⟩ := h
  obtain ⟨dir', base', rfl⟩ := h'
  rw [withEnding_child]
  intro heq
  have hlast := congrArg (fun s => s.toList.getLast?) (child_injective heq).2
  simp at hlast

theorem IsDocument.not_mem_drafts (h : path.IsDocument) (h' : other.IsDocument) :
    path ∉ [other.withEnding ".tmp"] :=
  fun hmem => h.ne_withEnding h' (List.mem_singleton.1 hmem)

theorem IsDocument.not_mem_files (h : path.IsDocument) (h' : other.IsDocument) (hne : path ≠ other) :
    path ∉ [other.withEnding ".tmp", other] := by
  rw [List.mem_cons, List.mem_singleton, not_or]
  exact ⟨h.ne_withEnding h', hne⟩

/-! ## On the way -/

/-- What is in a directory is not on the way to it. -/
theorem not_leadsTo_parent_child (hname : name ≠ "") :
    (dir.child name).leadsTo (dir.child base).parent = false := by
  refine Bool.eq_false_iff.2 fun hlead => ?_
  have hfront := leadsTo_iff.1 hlead
  rw [parent] at hfront
  split at hfront
  next hone =>
    obtain ⟨names⟩ := dir
    rcases names with _ | ⟨first, rest⟩
    · have hroot := (List.prefix_cons_iff.1 hfront).resolve_left (by simp [child])
      simp [child, hname] at hroot
    · simp [child] at hone
  next =>
    have hlength := hfront.length_le
    simp only [child, List.dropLast_concat, List.length_append, List.length_singleton] at hlength
    omega

theorem IsDocument.not_leadsTo_parent (h : path.IsDocument) :
    path.leadsTo path.parent = false := by
  obtain ⟨dir, base, rfl⟩ := h
  exact not_leadsTo_parent_child (by simp)

theorem not_leadsTo_child (h : name ≠ base) :
    (dir.child name).leadsTo (dir.child base) = false := by
  refine Bool.eq_false_iff.2 fun hlead => h ?_
  have hlast := (List.prefix_append_right_inj dir.names).1 (leadsTo_iff.1 hlead)
  exact (List.cons_prefix_cons.1 hlast).1

end Path

namespace Store

variable {store : Store} {name : String}

theorem databasePath_eq (store : Store) (name : String) : store.databasePath name =
    (store.directory.child "databases").descend (name ++ ".json") := by
  rfl

theorem isDocument_catalogPath (store : Store) : store.catalogPath.IsDocument :=
  ⟨store.directory, "catalog", rfl⟩

theorem isDocument_databasePath (store : Store) (name : String) :
    (store.databasePath name).IsDocument := by
  obtain ⟨front, segment, -, hsegments⟩ :=
    Path.segments_append (Text.wellFormed name).toList (show '/' ∉ ".json".toList by decide)
  refine ⟨(front.map String.ofList).foldl Path.step (store.directory.child "databases"),
    String.ofList segment, ?_⟩
  have hnames : Path.namesOf (name ++ ".json") =
      front.map String.ofList ++ [String.ofList segment ++ ".json"] := by
    rw [Path.namesOf, Text.toList_wellFormed_append name (by decide), hsegments, List.map_append,
      List.map_singleton, String.ofList_append, String.ofList_toList]
  rw [← Path.step_document, databasePath_eq, Path.descend, hnames, List.foldl_append,
    List.foldl_cons, List.foldl_nil]

/-! ## New databases -/

theorem databaseNameChar {c : Char} (h : Sql.isDatabaseNameChar c = true) :
    c ≠ '/' ∧ Text.isHalf c = false := by
  have hle (last : Char) (hc : c ≤ last) (hlast : last.toNat < 128) : c.toNat < 128 :=
    Nat.lt_of_le_of_lt hc hlast
  have hlow : c ≠ '/' ∧ c.toNat < 128 := by
    simp only [Sql.isDatabaseNameChar, Sql.isWordChar, Sql.isLetter, Sql.isDigit, Bool.or_eq_true,
      Bool.and_eq_true, decide_eq_true_eq, beq_iff_eq] at h
    rcases h with (((h | h) | h) | rfl) | rfl
    · exact ⟨by rintro rfl; exact absurd h.1 (by decide), hle 'z' h.2 (by decide)⟩
    · exact ⟨by rintro rfl; exact absurd h.1 (by decide), hle 'Z' h.2 (by decide)⟩
    · exact ⟨by rintro rfl; exact absurd h.1 (by decide), hle '9' h.2 (by decide)⟩
    · decide
    · decide
  have hhalf : ¬ Text.halvesStart ≤ c.toNat := fun hc =>
    absurd (Nat.lt_of_le_of_lt hc hlow.2) (by decide)
  exact ⟨hlow.1, decide_eq_false hhalf⟩

theorem nameChars_of_checkName (h : Sql.checkName .database name = .ok ()) :
    ∀ c ∈ name.toList, Sql.isDatabaseNameChar c = true := by
  rw [Sql.checkName] at h
  split at h
  · cases h
  split at h
  · cases h
  split at h
  · cases h
  next hformed =>
    simp [Sql.wellFormedName] at hformed
    exact hformed.2

theorem plain_of_checkName (h : Sql.checkName .database name = .ok ()) :
    Text.Plain name.toList :=
  fun c hc => (databaseNameChar (nameChars_of_checkName h c hc)).2

theorem ne_empty_of_checkName (h : Sql.checkName .database name = .ok ()) :
    name.isEmpty = false := by
  rw [Sql.checkName] at h
  split at h
  · cases h
  next hempty => simpa using hempty

/-- The document of a new database is right in the directory of documents. -/
theorem databasePath_of_checkName (h : Sql.checkName .database name = .ok ()) :
    store.databasePath name = (store.directory.child "databases").child (name ++ ".json") := by
  have hending : Text.Plain ".json".toList := by decide
  have hplain : Text.Plain (name ++ ".json").toList := by
    rw [String.toList_append]
    exact List.forall_mem_append.2 ⟨plain_of_checkName h, hending⟩
  have hslash : '/' ∉ (name ++ ".json").toList := by
    rw [String.toList_append, List.mem_append, not_or]
    exact ⟨fun hc => (databaseNameChar (nameChars_of_checkName h _ hc)).1 rfl, by decide⟩
  have hformed : (Text.wellFormed (name ++ ".json")).toList = (name ++ ".json").toList := by
    have := Text.toList_wellFormed_append "" hplain
    rwa [String.empty_append] at this
  rw [databasePath_eq, Path.descend, Path.namesOf, hformed, Path.segments_of_not_mem hslash,
    List.map_singleton, String.ofList_toList, List.foldl_cons, List.foldl_nil,
    Path.step_document]

theorem databasePath_injective {other : String} (h : Sql.checkName .database name = .ok ())
    (h' : Sql.checkName .database other = .ok ())
    (hpath : store.databasePath name = store.databasePath other) : name = other := by
  rw [databasePath_of_checkName h, databasePath_of_checkName h'] at hpath
  exact (String.append_left_inj _).1 (Path.child_injective hpath).2

theorem catalogPath_ne_databasePath (h : Sql.checkName .database name = .ok ()) :
    store.catalogPath ≠ store.databasePath name := by
  rw [databasePath_of_checkName h]
  intro heq
  have hlength := congrArg (fun path : Path => path.names.length) heq
  simp [catalogPath, Path.child] at hlength

/-- The file of names is not on the way to the document of a new database. -/
theorem not_leadsTo_parent_databasePath (h : Sql.checkName .database name = .ok ()) :
    store.catalogPath.leadsTo (store.databasePath name).parent = false := by
  rw [databasePath_of_checkName h, Path.parent_child (by simp [Path.child])]
  exact Path.not_leadsTo_child (by decide)

end Store

end RelStore
