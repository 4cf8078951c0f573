/-
Operations on disks that hold the same.

What an operation comes to rests on the entries at a few paths (`FileOp.Within`): on disks that are
alike there, it is carried out on both or refused on both, and they are alike afterwards
(`AlikeAt.run`). An operation changes entries at its own paths only (`entered?_change`). So runs of
operations that keep to paths of their own can change places (`run_comm`).
-/
import Mathlib.Data.List.Forall2
import Mathlib.Data.List.Induction
import Mathlib.Data.List.TakeWhile
import RelStore.Proofs.Disk

namespace RelStore

/-- Two directories, or two files whose texts are the same in some way. -/
inductive Node.Alike (same : String → String → Prop) : Node → Node → Prop where
  | directory : Alike same .directory .directory
  | file {text other : String} (h : same text other) : Alike same (.file text) (.file other)

theorem Node.Alike.refl {same : String → String → Prop} (hsame : ∀ text, same text text)
    (node : Node) : node.Alike same node := by
  cases node with
  | directory => exact .directory
  | file text => exact .file (hsame text)

theorem Node.Alike.option_refl {same : String → String → Prop} (hsame : ∀ text, same text text)
    (found : Option Node) : Option.Rel (Node.Alike same) found found := by
  cases found with
  | none => exact .none
  | some node => exact .some (.refl hsame node)

theorem Node.Alike.eq {node other : Node} (h : node.Alike Eq other) : node = other := by
  cases h with
  | directory => rfl
  | file h => rw [h]

theorem Node.Alike.directory_iff {same : String → String → Prop} {node other : Node}
    (h : node.Alike same other) : node = .directory ↔ other = .directory := by
  cases h with
  | directory => exact Iff.rfl
  | file h => exact iff_of_false nofun nofun

/-- Operations that differ in the texts that they write. -/
inductive FileOp.Alike (same : String → String → Prop) : FileOp → FileOp → Prop where
  | makeDirectories (path : Path) : Alike same (.makeDirectories path) (.makeDirectories path)
  | write (path : Path) {text other : String} (h : same text other) :
      Alike same (.write path text) (.write path other)
  | rename (source target : Path) : Alike same (.rename source target) (.rename source target)
  | remove (path : Path) : Alike same (.remove path) (.remove path)

/-- The paths that an operation looks at are some of these. -/
def FileOp.Within (paths : Path → Prop) : FileOp → Prop
  | .makeDirectories path => ∀ way : Path, way.leadsTo path = true → paths way
  | .write path _ => paths path ∧ paths path.parent
  | .rename source target => paths source ∧ paths target ∧ paths target.parent
  | .remove path => ∀ way : Path, way.leadsTo path = true → paths way

/-- An operation can change what is at a path. -/
def FileOp.Changes (path : Path) : FileOp → Prop
  | .makeDirectories target => path.leadsTo target = true
  | .write target _ => path = target
  | .rename source target => path = source ∨ path = target
  | .remove target => path = target

theorem FileOp.Alike.refl {same : String → String → Prop} (hsame : ∀ text, same text text)
    (op : FileOp) : op.Alike same op := by
  cases op with
  | makeDirectories path => exact .makeDirectories path
  | write path text => exact .write path (hsame text)
  | rename source target => exact .rename source target
  | remove path => exact .remove path

/-- Steps that differ in the texts that they write. -/
structure Step.Alike (same : String → String → Prop) (step other : Step) : Prop where
  op : step.op.Alike same other.op
  ifRefused : step.ifRefused = other.ifRefused

namespace Disk

variable {same : String → String → Prop} {paths : Path → Prop} {disk other : Disk}
  {path target way : Path} {node node' : Node} {op op' : FileOp}

/-- What is entered at a path. -/
def entered? (disk : Disk) (path : Path) : Option Node := disk.entries.lookup path

/-- Two disks are the same at some paths, but for the texts of files. -/
structure AlikeAt (same : String → String → Prop) (paths : Path → Prop) (disk other : Disk) :
    Prop where
  here : disk.here = other.here
  entries : ∀ path, paths path →
    Option.Rel (Node.Alike same) (disk.entered? path) (other.entered? path)

theorem AlikeAt.refl (hsame : ∀ text, same text text) (disk : Disk) : AlikeAt same paths disk disk :=
  ⟨rfl, fun _ _ => Node.Alike.option_refl hsame _⟩

/-! ## Entries -/

@[simp] theorem entered?_put_self : (disk.put path node).entered? path = some node := by
  simp [entered?, put, List.lookup_append, lookup_filter_self]

theorem entered?_put_ne (h : target ≠ path) :
    (disk.put path node).entered? target = disk.entered? target := by
  have hne : (target == path) = false := by simpa using h
  simp [entered?, put, List.lookup_append, lookup_filter_ne h, List.lookup_cons, hne]

@[simp] theorem entered?_without_self : (disk.without path).entered? path = none :=
  lookup_filter_self _

theorem entered?_without_ne (h : target ≠ path) :
    (disk.without path).entered? target = disk.entered? target :=
  lookup_filter_ne h

theorem entered?_addBelow {names : List String} : (disk.addBelow path names).entered? target =
    (disk.entered? target).or ((directoriesBelow (disk.reached path).1 names).lookup target) :=
  List.lookup_append

theorem node?_eq (disk : Disk) (path : Path) : disk.node? path =
    if path == .root || path.leadsTo disk.here then some .directory else disk.entered? path := rfl

theorem AlikeAt.node? (h : AlikeAt same paths disk other) (hpath : paths path) :
    Option.Rel (Node.Alike same) (disk.node? path) (other.node? path) := by
  rw [node?_eq, node?_eq, h.here]
  split
  · exact .some .directory
  · exact h.entries path hpath

theorem AlikeAt.isDirectory_eq (h : AlikeAt same paths disk other) (hpath : paths path) :
    disk.isDirectory path = other.isDirectory path := by
  have hnode := h.node? hpath
  rw [isDirectory, isDirectory]
  revert hnode
  generalize disk.node? path = found, other.node? path = found'
  rintro (⟨_ | _⟩ | _) <;> rfl

theorem AlikeAt.admitsFile_eq (h : AlikeAt same paths disk other) (hpath : paths path)
    (hparent : paths path.parent) : disk.admitsFile path = other.admitsFile path := by
  rw [admitsFile, admitsFile, h.isDirectory_eq hpath, h.isDirectory_eq hparent]

theorem AlikeAt.read? (h : AlikeAt same paths disk other) (hpath : paths path) :
    Option.Rel same (disk.read? path) (other.read? path) := by
  have hnode := h.node? hpath
  rw [Disk.read?, Disk.read?]
  revert hnode
  generalize disk.node? path = found, other.node? path = found'
  rintro (⟨_ | hsame⟩ | _)
  · exact .none
  · exact .some hsame
  · exact .none

theorem AlikeAt.put (h : AlikeAt same paths disk other) (hnode : node.Alike same node') :
    AlikeAt same paths (disk.put path node) (other.put path node') := by
  refine ⟨h.here, fun target htarget => ?_⟩
  by_cases heq : target = path
  · rw [heq, entered?_put_self, entered?_put_self]
    exact .some hnode
  · rw [entered?_put_ne heq, entered?_put_ne heq]
    exact h.entries target htarget

theorem AlikeAt.without (h : AlikeAt same paths disk other) (path : Path) :
    AlikeAt same paths (disk.without path) (other.without path) := by
  refine ⟨h.here, fun target htarget => ?_⟩
  by_cases heq : target = path
  · rw [heq, entered?_without_self, entered?_without_self]
    exact .none
  · rw [entered?_without_ne heq, entered?_without_ne heq]
    exact h.entries target htarget

/-! ## The last entry on the way -/

/-- The last path on the way to a path that some entries have, below a first one, and its node. -/
structure Last (entries : List (Path × Node)) (path first last : Path) (node : Node) : Prop where
  first_le : first.names.length ≤ last.names.length
  entered : last = first ∧ node = .directory ∨ first.names.length < last.names.length ∧
    last.leadsTo path = true ∧ entries.lookup last = some node
  /-- There is nothing further on. -/
  none_after : ∀ way : Path, way.leadsTo path = true →
    last.names.length < way.names.length → entries.lookup way = none

variable {entries others : List (Path × Node)} {first last last' : Path} {names : List String}

theorem lookup_concat_ne {key : Path} (h : way ≠ key) :
    (entries ++ [(key, node)]).lookup way = entries.lookup way := by
  have hne : (way == key) = false := by simpa using h
  simp [List.lookup_append, List.lookup_cons, hne]

theorem Last.concat_later {key : Path} (h : Last entries path first last node)
    (hlength : last.names.length < key.names.length) (hlead : key.leadsTo path = true) :
    Last (entries ++ [(key, node')]) path first key node' := by
  have hbelow : first.names.length < key.names.length := Nat.lt_of_le_of_lt h.first_le hlength
  refine ⟨Nat.le_of_lt hbelow, .inr ⟨hbelow, hlead, ?_⟩, fun way hway hlonger => ?_⟩
  · rw [List.lookup_append, h.none_after key hlead hlength]
    simp
  · rw [lookup_concat_ne fun heq => by rw [heq] at hlonger; omega]
    exact h.none_after way hway (by omega)

theorem Last.concat_other {key : Path} (h : Last entries path first last node)
    (hnot : ¬ (last.names.length < key.names.length ∧ key.leadsTo path = true)) :
    Last (entries ++ [(key, node')]) path first last node := by
  refine ⟨h.first_le, h.entered.imp_right ?_, fun way hway hlonger => ?_⟩
  · rintro ⟨hbelow, hlead, hentry⟩
    refine ⟨hbelow, hlead, ?_⟩
    rw [List.lookup_append, hentry, Option.some_or]
  · have hne : way ≠ key := by
      rintro rfl
      exact hnot ⟨hlonger, hway⟩
    rw [lookup_concat_ne hne]
    exact h.none_after way hway hlonger

theorem last_reached (disk : Disk) (path : Path) :
    Last disk.entries path (path.common disk.here) (disk.reached path).1 (disk.reached path).2 := by
  rw [reached]
  induction disk.entries using List.reverseRecOn with
  | nil => exact ⟨Nat.le_refl _, .inl ⟨rfl, rfl⟩, fun _ _ _ => rfl⟩
  | append_singleton entries entry ih =>
    rw [List.foldl_append, List.foldl_cons, List.foldl_nil]
    split
    next hlater =>
      rw [Bool.and_eq_true, decide_eq_true_eq] at hlater
      exact ih.concat_later hlater.1 hlater.2
    next hnot =>
      rw [Bool.and_eq_true, decide_eq_true_eq] at hnot
      exact ih.concat_other hnot

theorem Last.length_le (h : Last entries path first last node)
    (h' : Last others path first last' node')
    (hnone : ∀ way : Path, way.leadsTo path = true → entries.lookup way = none →
      others.lookup way = none) : last'.names.length ≤ last.names.length := by
  rcases h'.entered with ⟨rfl, -⟩ | ⟨-, hlead, hentry⟩
  · exact h.first_le
  · by_contra hlonger
    rw [hnone last' hlead (h.none_after last' hlead (by omega))] at hentry
    cases hentry

/-- Entries that are alike on the way to a path have the last of them at one path. -/
theorem Last.congr (h : Last entries path first last node)
    (h' : Last others path first last' node')
    (hentries : ∀ way : Path, way.leadsTo path = true →
      Option.Rel (Node.Alike same) (entries.lookup way) (others.lookup way)) :
    last = last' ∧ node.Alike same node' := by
  have hnone {way : Path} (hlead : way.leadsTo path = true) :
      entries.lookup way = none ↔ others.lookup way = none := by
    have hrel := hentries way hlead
    revert hrel
    generalize entries.lookup way = found, others.lookup way = found'
    rintro (_ | _) <;> simp
  have hlength : last.names.length = last'.names.length :=
    Nat.le_antisymm (h'.length_le h fun _ hlead => (hnone hlead).2)
      (h.length_le h' fun _ hlead => (hnone hlead).1)
  rcases h.entered with ⟨rfl, rfl⟩ | ⟨hbelow, hlead, hentry⟩
  · rcases h'.entered with ⟨rfl, rfl⟩ | ⟨hbelow', -, -⟩
    · exact ⟨rfl, .directory⟩
    · omega
  · rcases h'.entered with ⟨rfl, -⟩ | ⟨-, hlead', hentry'⟩
    · omega
    · have hpath : last = last' := by
        have hnames := List.prefix_of_prefix_length_le (Path.leadsTo_iff.1 hlead)
          (Path.leadsTo_iff.1 hlead') (Nat.le_of_eq hlength)
        obtain ⟨names⟩ := last
        obtain ⟨names'⟩ := last'
        exact congrArg Path.mk (hnames.eq_of_length hlength)
      have hrel := hentries last hlead
      rw [hentry, hpath, hentry'] at hrel
      refine ⟨hpath, ?_⟩
      cases hrel
      assumption

theorem Last.unique (h : Last entries path first last node)
    (h' : Last entries path first last' node') : last = last' ∧ node = node' := by
  obtain ⟨hpath, hnode⟩ := h.congr h' fun way _ =>
    Node.Alike.option_refl (@rfl String) (entries.lookup way)
  exact ⟨hpath, hnode.eq⟩

theorem AlikeAt.reached (h : AlikeAt same paths disk other)
    (hpaths : ∀ way : Path, way.leadsTo path = true → paths way) :
    (disk.reached path).1 = (other.reached path).1 ∧
      (disk.reached path).2.Alike same (other.reached path).2 := by
  have hlast := last_reached other path
  rw [← h.here] at hlast
  exact (last_reached disk path).congr hlast fun way hlead => h.entries way (hpaths way hlead)

/-! ## Making directories -/

theorem lookup_directoriesBelow_self (hne : names ≠ []) :
    (directoriesBelow path names).lookup ⟨path.names ++ names⟩ = some .directory := by
  induction names generalizing path with
  | nil => exact absurd rfl hne
  | cons name rest ih =>
    rw [directoriesBelow, List.lookup_cons]
    split
    next => rfl
    next hother =>
      have hrest : rest ≠ [] := by
        rintro rfl
        simp [Path.child] at hother
      have hsplit : (⟨path.names ++ name :: rest⟩ : Path) = ⟨(path.child name).names ++ rest⟩ := by
        simp [Path.child]
      rw [hsplit]
      exact ih hrest

theorem append_missingNames (disk : Disk) (path : Path) :
    (disk.reached path).1.names ++ disk.missingNames path = path.names := by
  obtain ⟨tail, htail⟩ := reached_leadsTo disk path
  rw [missingNames, ← htail, List.drop_left]

/-- Where the way leads when directories are made on it. -/
theorem reached_addBelow (hdir : (disk.reached path).2 = .directory)
    (hnames : names <+: disk.missingNames path) :
    (disk.addBelow path names).reached path =
      (⟨(disk.reached path).1.names ++ names⟩, .directory) := by
  have hlast := last_reached disk path
  have hlead : Path.leadsTo ⟨(disk.reached path).1.names ++ names⟩ path = true := by
    rw [Path.leadsTo_iff, ← append_missingNames disk path]
    exact (List.prefix_append_right_inj _).2 hnames
  have hexpected : Last (disk.addBelow path names).entries path (path.common disk.here)
      ⟨(disk.reached path).1.names ++ names⟩ .directory := by
    by_cases hnil : names = []
    · rw [hnil, List.append_nil, addBelow, directoriesBelow, List.append_nil]
      rwa [hdir] at hlast
    · have hlonger : (disk.reached path).1.names.length <
          ((disk.reached path).1.names ++ names).length := by
        rw [List.length_append]
        exact Nat.lt_add_of_pos_right (List.length_pos_iff.2 hnil)
      have hbelow := Nat.lt_of_le_of_lt hlast.first_le hlonger
      refine ⟨Nat.le_of_lt hbelow, .inr ⟨hbelow, hlead, ?_⟩, fun way hway hlength => ?_⟩
      · rw [addBelow, List.lookup_append, hlast.none_after _ hlead hlonger,
          lookup_directoriesBelow_self hnil]
        rfl
      · rw [addBelow, List.lookup_append, hlast.none_after way hway (Nat.lt_trans hlonger hlength),
          Option.none_or]
        cases hmade : (directoriesBelow (disk.reached path).1 names).lookup way with
        | none => rfl
        | some node => exact absurd (lookup_directoriesBelow hmade).2.length_le (Nat.not_le.2 hlength)
  obtain ⟨hpath, hnode⟩ := (last_reached (disk.addBelow path names) path).unique hexpected
  exact Prod.ext hpath hnode

@[simp] theorem addBelow_nil (disk : Disk) (path : Path) : disk.addBelow path [] = disk := by
  rw [addBelow, directoriesBelow, List.append_nil]

/-- Where all directories on the way are there, making them changes nothing. -/
theorem makeDirectories_of_reached (h : disk.reached path = (path, .directory)) :
    disk.makeDirectories path = (disk, true) := by
  have hmissing : disk.missingNames path = [] := by
    rw [missingNames, h]
    exact List.drop_length
  have hmakeable : disk.makeableNames path = ([], true) := by simp [makeableNames, hmissing]
  rw [makeDirectories, h, if_pos rfl, hmakeable]
  exact congrArg (·, true) (addBelow_nil disk path)

theorem makeDirectories_of_directory (h : (disk.reached path).2 = .directory) :
    disk.makeDirectories path =
      (disk.addBelow path (disk.makeableNames path).1, (disk.makeableNames path).2) := by
  rw [makeDirectories, if_pos h]

theorem reached_makeDirectories (h : (disk.makeDirectories path).2 = true) :
    (disk.makeDirectories path).1.reached path = (path, .directory) := by
  by_cases hdir : (disk.reached path).2 = .directory
  · rw [makeDirectories_of_directory hdir] at h ⊢
    have hall : (disk.makeableNames path).1 = disk.missingNames path :=
      makeableNames_prefix.eq_of_length (of_decide_eq_true h)
    refine (reached_addBelow hdir makeableNames_prefix).trans ?_
    rw [hall, append_missingNames]
  · rw [makeDirectories, if_neg hdir] at h
    cases h

theorem drop_missingNames {changed : Disk}
    (h : changed.reached path = (⟨(disk.reached path).1.names ++ names⟩, node)) :
    changed.missingNames path = (disk.missingNames path).drop names.length := by
  rw [missingNames, h]
  conv_lhs => rw [← append_missingNames disk path]
  rw [List.length_append, ← List.drop_drop, List.drop_left]

/-- Directories that cannot all be made are made as far as they can be at once. -/
theorem makeDirectories_of_refused (h : (disk.makeDirectories path).2 = false) :
    (disk.makeDirectories path).1.makeDirectories path = ((disk.makeDirectories path).1, false) := by
  have hfront : (disk.makeableNames path).1 <+: disk.missingNames path := makeableNames_prefix
  by_cases hdir : (disk.reached path).2 = .directory
  · rw [makeDirectories_of_directory hdir] at h ⊢
    have hreached := reached_addBelow hdir hfront
    have hmissing := drop_missingNames hreached
    have hsplit := @List.takeWhile_append_dropWhile _ (!Path.isLongName ·) (disk.missingNames path)
    have hrest : (disk.missingNames path).drop (disk.makeableNames path).1.length =
        (disk.missingNames path).dropWhile (!Path.isLongName ·) := by
      conv_lhs => rw [← hsplit]
      exact List.drop_left
    dsimp only
    generalize disk.addBelow path (disk.makeableNames path).1 = changed at hreached hmissing ⊢
    -- the first name that is left is too long
    have hnone : (changed.makeableNames path).1 = [] := by
      rw [makeableNames, hmissing, hrest]
      exact List.takeWhile_eq_nil_iff.2 (List.dropWhile_get_zero_not _ _)
    have hsome : (changed.makeableNames path).2 = false := by
      refine decide_eq_false fun hlength => of_decide_eq_false h ?_
      change (changed.makeableNames path).1.length = (changed.missingNames path).length at hlength
      rw [hnone, hmissing, List.length_drop, List.length_nil] at hlength
      exact Nat.le_antisymm hfront.length_le (Nat.sub_eq_zero_iff_le.1 hlength.symm)
    rw [makeDirectories_of_directory (by rw [hreached]), hnone, hsome, addBelow_nil]
  · have hsame : disk.makeDirectories path = (disk, false) := by rw [makeDirectories, if_neg hdir]
    rw [hsame]
    exact hsame

theorem AlikeAt.makeDirectories (h : AlikeAt same paths disk other)
    (hpaths : ∀ way : Path, way.leadsTo path = true → paths way) :
    AlikeAt same paths (disk.makeDirectories path).1 (other.makeDirectories path).1 ∧
      (disk.makeDirectories path).2 = (other.makeDirectories path).2 := by
  obtain ⟨hpath, hnode⟩ := h.reached hpaths
  have hmakeable : disk.makeableNames path = other.makeableNames path := by
    rw [makeableNames, makeableNames, missingNames, missingNames, hpath]
  by_cases hdir : (disk.reached path).2 = .directory
  · rw [makeDirectories_of_directory hdir,
      makeDirectories_of_directory (hnode.directory_iff.1 hdir), ← hmakeable]
    refine ⟨⟨h.here, fun target htarget => ?_⟩, rfl⟩
    rw [entered?_addBelow, entered?_addBelow, ← hpath]
    have hentry := h.entries target htarget
    revert hentry
    generalize disk.entered? target = found, other.entered? target = found'
    rintro (hboth | _)
    · exact .some hboth
    · cases hmade : (directoriesBelow (disk.reached path).1
          (disk.makeableNames path).1).lookup target with
      | none => exact .none
      | some node =>
        obtain rfl := (lookup_directoriesBelow hmade).1
        exact .some .directory
  · rw [Disk.makeDirectories, Disk.makeDirectories, if_neg hdir,
      if_neg (mt hnode.directory_iff.2 hdir)]
    exact ⟨h, rfl⟩

theorem AlikeAt.admitsRemoval_eq (h : AlikeAt same paths disk other)
    (hpaths : ∀ way : Path, way.leadsTo path = true → paths way) :
    disk.admitsRemoval path = other.admitsRemoval path := by
  obtain ⟨hpath, hnode⟩ := h.reached hpaths
  have hmissing : disk.missingNames path = other.missingNames path := by
    rw [missingNames, missingNames, hpath]
  rw [admitsRemoval, admitsRemoval, ← hmissing]
  revert hpath hnode
  rcases disk.reached path with ⟨last, node⟩
  rcases other.reached path with ⟨last', node'⟩
  rintro rfl (_ | _) <;> rfl

/-! ## Operations -/

/-- An operation is carried out or refused on disks that are alike where it looks, and leaves them
alike there. -/
theorem AlikeAt.change (h : AlikeAt same paths disk other) (hop : op.Alike same op')
    (hwithin : op.Within paths) :
    AlikeAt same paths (disk.change op).1 (other.change op').1 ∧
      (disk.change op).2 = (other.change op').2 := by
  cases hop with
  | makeDirectories path =>
    rw [Disk.change, Disk.change]
    split
    · exact h.makeDirectories hwithin
    · exact ⟨h, rfl⟩
  | write path hsame =>
    rw [Disk.change, Disk.change, ← h.admitsFile_eq hwithin.1 hwithin.2]
    split
    · exact ⟨h.put (.file hsame), rfl⟩
    · exact ⟨h, rfl⟩
  | rename source target =>
    have hread := h.read? hwithin.1
    rw [Disk.change, Disk.change, ← h.admitsFile_eq hwithin.2.1 hwithin.2.2]
    revert hread
    generalize disk.read? source = found, other.read? source = found'
    rintro (hsame | _)
    · dsimp only
      split
      · exact ⟨(h.without source).put (.file hsame), rfl⟩
      · exact ⟨h, rfl⟩
    · exact ⟨h, rfl⟩
  | remove path =>
    rw [Disk.change, Disk.change, ← h.admitsRemoval_eq hwithin]
    split
    · exact ⟨h.without path, rfl⟩
    · exact ⟨h, rfl⟩

/-- What is at other paths stays. -/
theorem entered?_change (h : ¬ op.Changes path) :
    (disk.change op).1.entered? path = disk.entered? path := by
  cases op with
  | makeDirectories target =>
    rw [change]
    split
    · by_cases hdir : (disk.reached target).2 = .directory
      · rw [makeDirectories_of_directory hdir, entered?_addBelow]
        cases hmade : (directoriesBelow (disk.reached target).1
            (disk.makeableNames target).1).lookup path with
        | none => exact Option.or_none
        | some node =>
          refine absurd (Path.leadsTo_iff.2 ((lookup_directoriesBelow hmade).2.trans ?_)) h
          rw [← append_missingNames disk target]
          exact (List.prefix_append_right_inj _).2 makeableNames_prefix
      · rw [makeDirectories, if_neg hdir]
    · rfl
  | write target text =>
    rw [change]
    split
    · exact entered?_put_ne h
    · rfl
  | rename source target =>
    obtain ⟨hsource, htarget⟩ := not_or.1 h
    rw [change]
    split
    · split
      · rw [entered?_put_ne htarget, entered?_without_ne hsource]
      · rfl
    · rfl
  | remove target =>
    rw [change]
    split
    · exact entered?_without_ne h
    · rfl

/-- What an operation can change is among the paths that it looks at. -/
theorem within_of_changes (hwithin : op.Within paths) (h : op.Changes path) : paths path := by
  cases op with
  | makeDirectories target => exact hwithin path h
  | write target text => exact h ▸ hwithin.1
  | rename source target =>
    rcases h with rfl | rfl
    · exact hwithin.1
    · exact hwithin.2.1
  | remove target => exact hwithin path (h ▸ Path.leadsTo_iff.2 (List.prefix_refl _))

/-! ## Runs without outages -/

variable {step : Step} {steps steps' first second : List Step} {changed : Disk}

theorem attempt_of_outages_nil (h : disk.outages = []) (op : FileOp) :
    disk.attempt op = disk.change op := by
  have hlater : disk.later = disk := by
    rw [later, h, List.tail_nil, ← h]
  rw [attempt, hlater, h]
  rfl

theorem outages_change (disk : Disk) (op : FileOp) : (disk.change op).1.outages = disk.outages := by
  obtain ⟨entries, hchange⟩ := exists_entries_change disk op
  rw [hchange]

/-- Steps are carried out or refused on disks that are alike where they look. -/
theorem AlikeAt.run (h : AlikeAt same paths disk other) (hnone : disk.outages = [])
    (hnone' : other.outages = []) (hsteps : List.Forall₂ (Step.Alike same) steps steps')
    (hwithin : ∀ step ∈ steps, step.op.Within paths) :
    AlikeAt same paths (disk.run steps).1 (other.run steps').1 ∧
      (disk.run steps).2 = (other.run steps').2 := by
  induction hsteps generalizing disk other with
  | nil => exact ⟨h, rfl⟩
  | @cons step step' rest rest' hstep _ ih =>
    obtain ⟨hfirst, hrest⟩ := List.forall_mem_cons.1 hwithin
    obtain ⟨halike, hdone⟩ := h.change hstep.op hfirst
    rw [Disk.run_cons, Disk.run_cons, attempt_of_outages_nil hnone, attempt_of_outages_nil hnone']
    have hnext := ih halike ((outages_change disk step.op).trans hnone)
      ((outages_change other step'.op).trans hnone') hrest
    revert halike hdone hnext
    rcases disk.change step.op with ⟨changed, done⟩
    rcases other.change step'.op with ⟨changed', done'⟩
    rintro halike rfl hnext
    cases done with
    | true => exact hnext
    | false => exact ⟨halike, by rw [hstep.ifRefused]⟩

theorem outages_run (h : disk.outages = []) (steps : List Step) : (disk.run steps).1.outages = [] := by
  induction steps generalizing disk with
  | nil => exact h
  | cons step rest ih =>
    have hchanged := (outages_change disk step.op).trans h
    rw [run_cons, attempt_of_outages_nil h]
    revert hchanged
    rcases disk.change step.op with ⟨changed, _ | _⟩
    · exact id
    · exact ih

theorem entered?_run (h : disk.outages = []) (hsteps : ∀ step ∈ steps, ¬ step.op.Changes path) :
    (disk.run steps).1.entered? path = disk.entered? path := by
  induction steps generalizing disk with
  | nil => rfl
  | cons step rest ih =>
    obtain ⟨hstep, hrest⟩ := List.forall_mem_cons.1 hsteps
    have hchanged := (outages_change disk step.op).trans h
    have hentry : (disk.change step.op).1.entered? path = disk.entered? path := entered?_change hstep
    rw [run_cons, attempt_of_outages_nil h]
    revert hchanged hentry
    rcases disk.change step.op with ⟨changed, _ | _⟩
    · exact fun _ hentry => hentry
    · exact fun hchanged hentry => (ih hchanged hrest).trans hentry

/-- Two disks hold the same, but for the texts of files. -/
abbrev Alike (same : String → String → Prop) (disk other : Disk) : Prop :=
  AlikeAt same (fun _ => True) disk other

/-- Everything is the same on two disks but their clocks and the order of their entries. -/
abbrev Same (disk other : Disk) : Prop := Alike Eq disk other

theorem Same.refl (disk : Disk) : disk.Same disk := AlikeAt.refl (fun _ => rfl) disk

theorem within_true (op : FileOp) : op.Within fun _ => True := by
  cases op with
  | makeDirectories path | remove path => exact fun _ _ => trivial
  | write path text => exact ⟨trivial, trivial⟩
  | rename source target => exact ⟨trivial, trivial, trivial⟩

theorem alikeAt_eq (hhere : disk.here = other.here)
    (h : ∀ path, paths path → disk.entered? path = other.entered? path) : AlikeAt Eq paths disk other :=
  ⟨hhere, fun path hpath => h path hpath ▸ Node.Alike.option_refl (fun _ => rfl) _⟩

theorem AlikeAt.entered?_eq (h : AlikeAt Eq paths disk other) (hpath : paths path) :
    disk.entered? path = other.entered? path := by
  have hentry := h.entries path hpath
  revert hentry
  generalize disk.entered? path = found, other.entered? path = found'
  rintro (hnode | _)
  · exact congrArg some hnode.eq
  · rfl

theorem AlikeAt.symm_eq (h : AlikeAt Eq paths disk other) : AlikeAt Eq paths other disk :=
  alikeAt_eq h.here.symm fun _ hpath => (h.entered?_eq hpath).symm

/-- What is alike to a disk is alike to one that is the same. -/
theorem AlikeAt.trans_eq (h : AlikeAt Eq paths disk changed) (h' : AlikeAt same paths changed other) :
    AlikeAt same paths disk other :=
  ⟨h.here.trans h'.here, fun path hpath => h.entered?_eq hpath ▸ h'.entries path hpath⟩

/-- A run that keeps to other paths leaves a second run as it is. -/
theorem run_after_apart (hnone : disk.outages = []) (hwithin : ∀ step ∈ second, step.op.Within paths)
    (hapart : ∀ path, paths path → ∀ step ∈ first, ¬ step.op.Changes path) :
    AlikeAt Eq paths ((disk.run first).1.run second).1 (disk.run second).1 ∧
      ((disk.run first).1.run second).2 = (disk.run second).2 := by
  have hbefore : AlikeAt Eq paths (disk.run first).1 disk :=
    alikeAt_eq (here_run disk first) fun path hpath => entered?_run hnone (hapart path hpath)
  refine hbefore.run (outages_run hnone first) hnone ?_ hwithin
  exact List.forall₂_same.2 fun step _ => ⟨.refl (fun _ => rfl) step.op, rfl⟩

/-- **Runs that keep to paths of their own can change places.** -/
theorem run_comm {others : Path → Prop} (hnone : disk.outages = [])
    (hfirst : ∀ step ∈ first, step.op.Within paths) (hsecond : ∀ step ∈ second, step.op.Within others)
    (hapart : ∀ path, others path → ∀ step ∈ first, ¬ step.op.Changes path)
    (hapart' : ∀ path, paths path → ∀ step ∈ second, ¬ step.op.Changes path) :
    Same ((disk.run first).1.run second).1 ((disk.run second).1.run first).1 ∧
      ((disk.run first).1.run second).2 = (disk.run second).2 ∧
      ((disk.run second).1.run first).2 = (disk.run first).2 := by
  obtain ⟨hlast, hresult⟩ := run_after_apart hnone hsecond hapart
  obtain ⟨hlast', hresult'⟩ := run_after_apart hnone hfirst hapart'
  have hnone' := outages_run hnone second
  refine ⟨alikeAt_eq ?_ fun path _ => ?_, hresult, hresult'⟩
  · rw [here_run, here_run, here_run, here_run]
  · by_cases hpath : paths path
    · -- the second run does not change what is at paths of the first
      rw [hlast'.entered?_eq hpath]
      exact entered?_run (outages_run hnone first) (hapart' path hpath)
    · have hunchanged : ∀ step ∈ first, ¬ step.op.Changes path := fun step hstep hchanges =>
        hpath (within_of_changes (hfirst step hstep) hchanges)
      rw [entered?_run hnone' hunchanged]
      by_cases hother : others path
      · exact hlast.entered?_eq hother
      · have hunchanged' : ∀ step ∈ second, ¬ step.op.Changes path := fun step hstep hchanges =>
          hother (within_of_changes (hsecond step hstep) hchanges)
        rw [entered?_run (outages_run hnone first) hunchanged', entered?_run hnone hunchanged,
          entered?_run hnone hunchanged']

end Disk

end RelStore
