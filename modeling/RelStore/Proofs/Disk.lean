/-
What operations leave of a disk.

`Beside` says that two disks are the same but for some paths, and but for directories that were
made on the way to a path. Each operation, carried out or refused or stopped within, changes a
disk at no other paths than its own (`beside_attempt_…`), and what stands at the other paths is
read as before (`Beside.read?`).
-/
import Mathlib.Data.List.Basic
import RelStore.Disk

namespace RelStore

namespace Path

variable {path other : Path} {name : String}

theorem leadsTo_iff : path.leadsTo other = true ↔ path.names <+: other.names :=
  List.isPrefixOf_iff_prefix

theorem commonNames_prefix (as bs : List String) : commonNames as bs <+: as := by
  induction as generalizing bs with
  | nil => cases bs <;> exact List.prefix_refl _
  | cons a as ih =>
    cases bs with
    | nil => exact List.nil_prefix
    | cons b bs =>
      rw [commonNames]
      split
      · exact (List.prefix_cons_inj a).2 (ih bs)
      · exact List.nil_prefix

end Path

namespace Disk

variable {disk changed last : Disk} {path source target towards : Path} {paths more : List Path}
  {node : Node} {text : String}

/-! ## Entries -/

theorem lookup_filter_ne {entries : List (Path × Node)} {other : Path} (h : other ≠ path) :
    (entries.filter (·.1 != path)).lookup other = entries.lookup other := by
  induction entries with
  | nil => rfl
  | cons entry rest ih =>
    obtain ⟨key, node⟩ := entry
    by_cases hk : key = path
    · have hne : (other == path) = false := by simpa using h
      simp [hk, List.lookup_cons, hne, ih]
    · simp only [List.filter_cons, bne_iff_ne, ne_eq, hk, not_false_eq_true, if_true,
        List.lookup_cons, ih]

theorem lookup_filter_self (entries : List (Path × Node)) :
    (entries.filter (·.1 != path)).lookup path = none := by
  induction entries with
  | nil => rfl
  | cons entry rest ih =>
    obtain ⟨key, node⟩ := entry
    by_cases hk : key = path
    · simpa [hk] using ih
    · have hne : (path == key) = false := by simpa using fun e => hk e.symm
      simpa [hk, List.lookup_cons, hne] using ih

theorem node?_without {other : Path} (h : other ≠ path) :
    (disk.without path).node? other = disk.node? other := by
  simp only [node?, without, lookup_filter_ne h]

theorem node?_put {other : Path} (h : other ≠ path) :
    (disk.put path node).node? other = disk.node? other := by
  have hne : (other == path) = false := by simpa using h
  simp only [node?, put, List.lookup_append, lookup_filter_ne h, List.lookup_cons, hne,
    List.lookup_nil, Option.or_none]

theorem not_fixed_of_not_isDirectory (h : disk.isDirectory path = false) :
    (path == .root || path.leadsTo disk.here) = false := by
  cases hfixed : path == .root || path.leadsTo disk.here with
  | false => rfl
  | true => simp [isDirectory, node?, hfixed] at h

/-- The outages of a disk are no part of what is on it. -/
theorem node?_later : disk.later.node? path = disk.node? path := rfl

/-- A path that is no directory takes what is put at it. -/
theorem node?_put_self (h : disk.isDirectory path = false) :
    (disk.put path node).node? path = some node := by
  simp [node?, put, not_fixed_of_not_isDirectory h, List.lookup_append, lookup_filter_self]

theorem not_isDirectory_without {other : Path} (h : disk.isDirectory path = false) :
    (disk.without other).isDirectory path = false := by
  by_cases heq : path = other
  · subst heq
    simp [isDirectory, node?, without, not_fixed_of_not_isDirectory h, lookup_filter_self]
  · rwa [isDirectory, node?_without heq]

/-- What is below a path is directories on the way down. -/
theorem lookup_directoriesBelow {names : List String} {other : Path}
    (h : (directoriesBelow path names).lookup other = some node) :
    node = .directory ∧ other.names <+: path.names ++ names := by
  induction names generalizing path with
  | nil => simp [directoriesBelow] at h
  | cons name rest ih =>
    rw [directoriesBelow, List.lookup_cons] at h
    split at h
    next heq =>
      obtain rfl := Option.some.inj h
      rw [eq_of_beq heq]
      exact ⟨rfl, by simp [Path.child]⟩
    next =>
      obtain ⟨hnode, hfront⟩ := ih h
      exact ⟨hnode, by simpa [Path.child] using hfront⟩

theorem reached_leadsTo (disk : Disk) (path : Path) :
    (disk.reached path).1.names <+: path.names := by
  unfold reached
  suffices hall : ∀ (entries : List (Path × Node)) (best : Path × Node),
      best.1.names <+: path.names → (entries.foldl (fun best entry =>
        if best.1.names.length < entry.1.names.length && entry.1.leadsTo path then entry
        else best) best).1.names <+: path.names from
    hall _ _ (Path.commonNames_prefix _ _)
  intro entries
  induction entries with
  | nil => exact fun _ h => h
  | cons entry rest ih =>
    intro best h
    rw [List.foldl_cons]
    refine ih _ ?_
    split
    next hbest =>
      rw [Bool.and_eq_true] at hbest
      exact Path.leadsTo_iff.1 hbest.2
    next => exact h

/-! ## What stays -/

/-- Two disks are the same but for some paths, and but for directories on the way to a path. -/
def Beside (towards : Path) (paths : List Path) (disk changed : Disk) : Prop :=
  ∀ path, path ∉ paths → changed.node? path = disk.node? path ∨
    disk.node? path = none ∧ changed.node? path = some .directory ∧ path.leadsTo towards = true

theorem Beside.refl (towards : Path) (paths : List Path) (disk : Disk) :
    Beside towards paths disk disk := fun _ _ => .inl rfl

theorem Beside.mono (h : Beside towards paths disk changed) (hsub : paths ⊆ more) :
    Beside towards more disk changed := fun path hp => h path fun hm => hp (hsub hm)

theorem Beside.trans (h : Beside towards paths disk changed)
    (h' : Beside towards paths changed last) : Beside towards paths disk last := by
  intro path hp
  rcases h path hp with hsame | ⟨hnone, hdir, hlead⟩
  · rw [← hsame]
    exact h' path hp
  · rcases h' path hp with hsame | ⟨hnone', -, -⟩
    · exact .inr ⟨hnone, hsame.trans hdir, hlead⟩
    · rw [hdir] at hnone'
      cases hnone'

theorem Beside.of_later (h : Beside towards paths disk.later changed) :
    Beside towards paths disk changed := by
  simpa only [Beside, node?_later] using h

/-- Files at other paths are read as before. -/
theorem Beside.read? (h : Beside towards paths disk changed) (hp : path ∉ paths) :
    changed.read? path = disk.read? path := by
  rcases h path hp with hsame | ⟨hnone, hdir, -⟩
  · rw [Disk.read?, Disk.read?, hsame]
  · rw [Disk.read?, Disk.read?, hnone, hdir]

/-- What is not on the way is as before. -/
theorem Beside.node? (h : Beside towards paths disk changed) (hp : path ∉ paths)
    (hlead : path.leadsTo towards = false) : changed.node? path = disk.node? path := by
  rcases h path hp with hsame | ⟨-, -, hyes⟩
  · exact hsame
  · rw [hlead] at hyes
    cases hyes

theorem beside_put : Beside towards [path] disk (disk.put path node) :=
  fun _ hp => .inl (node?_put (by simpa using hp))

theorem beside_addBelow {names : List String} (h : names <+: disk.missingNames path) :
    Beside path [] disk (disk.addBelow path names) := by
  intro other _
  simp only [Disk.node?, addBelow, List.lookup_append]
  split
  · exact .inl rfl
  cases disk.entries.lookup other with
  | some node => exact .inl rfl
  | none =>
    cases hbelow : (directoriesBelow (disk.reached path).1 names).lookup other with
    | none => exact .inl rfl
    | some node =>
      obtain ⟨rfl, hfront⟩ := lookup_directoriesBelow hbelow
      refine .inr ⟨rfl, rfl, Path.leadsTo_iff.2 (hfront.trans ?_)⟩
      obtain ⟨tail, htail⟩ := reached_leadsTo disk path
      have hmissing : disk.missingNames path = tail := by
        rw [missingNames, ← htail, List.drop_left]
      rw [hmissing] at h
      rw [← htail]
      exact (List.prefix_append_right_inj _).2 h

/-! ## Operations -/

/-- What trying an operation comes to. -/
theorem attempt_cases (disk : Disk) (op : FileOp) :
    disk.attempt op = disk.later.change op ∨ disk.attempt op = (disk.later, false) ∨
      ∃ done, disk.attempt op = (disk.later.part done op, false) := by
  rw [attempt]
  cases disk.outages.headD .none with
  | none => exact .inl rfl
  | refused => exact .inr (.inl rfl)
  | torn done => exact .inr (.inr ⟨done, rfl⟩)

theorem attempt_of_carriedOut {op : FileOp} (h : (disk.attempt op).2 = true) :
    disk.attempt op = disk.later.change op := by
  rcases attempt_cases disk op with hdone | hrefused | ⟨done, hpart⟩
  · exact hdone
  · rw [hrefused] at h
    cases h
  · rw [hpart] at h
    cases h

/-- What trying an operation leaves is beside the disk if what the operation leaves is, carried out
and stopped within. -/
theorem beside_attempt {op : FileOp}
    (hchange : disk.attempt op = disk.later.change op →
      Beside towards paths disk.later (disk.later.change op).1)
    (hpart : ∀ done, Beside towards paths disk.later (disk.later.part done op)) :
    Beside towards paths disk (disk.attempt op).1 := by
  refine Beside.of_later ?_
  rcases attempt_cases disk op with hdone | hrefused | ⟨done, hstopped⟩
  · rw [hdone]
    exact hchange hdone
  · rw [hrefused]
    exact Beside.refl _ _ _
  · rw [hstopped]
    exact hpart done

theorem makeableNames_prefix : (disk.makeableNames path).1 <+: disk.missingNames path :=
  List.takeWhile_prefix _

theorem beside_part_makeDirectories (done : Nat) :
    Beside path [] disk (disk.part done (.makeDirectories path)) := by
  rw [part]
  split
  · exact beside_addBelow ((List.take_prefix _ _).trans makeableNames_prefix)
  · exact Beside.refl _ _ _

theorem beside_change_makeDirectories :
    Beside path [] disk (disk.change (.makeDirectories path)).1 := by
  rw [change_makeDirectories, makeDirectories]
  split
  · split
    · exact beside_addBelow makeableNames_prefix
    · exact Beside.refl _ _ _
  · exact Beside.refl _ _ _

theorem beside_attempt_makeDirectories :
    Beside path [] disk (disk.attempt (.makeDirectories path)).1 :=
  beside_attempt (fun _ => beside_change_makeDirectories) beside_part_makeDirectories

theorem not_isDirectory_of_admitsFile (h : disk.admitsFile path = true) :
    disk.isDirectory path = false := by
  rw [admitsFile, Bool.and_eq_true, Bool.not_eq_true'] at h
  exact h.2

theorem beside_part_write (done : Nat) :
    Beside towards [path] disk (disk.part done (.write path text)) := by
  rw [part]
  split
  · exact beside_put
  · exact Beside.refl _ _ _

theorem beside_change_write : Beside towards [path] disk (disk.change (.write path text)).1 := by
  rw [change_write]
  split
  · exact beside_put
  · exact Beside.refl _ _ _

/-- A text that is written, as a whole or in part, stands at its own path only. -/
theorem beside_attempt_write : Beside towards [path] disk (disk.attempt (.write path text)).1 :=
  beside_attempt (fun _ => beside_change_write) beside_part_write

theorem read?_attempt_write (h : (disk.attempt (.write path text)).2 = true) :
    (disk.attempt (.write path text)).1.read? path = some text := by
  have hdone := attempt_of_carriedOut h
  rw [hdone, change_write] at h ⊢
  split at h
  next hadmits =>
    rw [if_pos hadmits, Disk.read?, node?_put_self (not_isDirectory_of_admitsFile hadmits)]
  next => cases h

theorem beside_part_rename (done : Nat) :
    Beside towards paths disk (disk.part done (.rename source target)) := Beside.refl _ _ _

theorem beside_change_rename :
    Beside towards [source, target] disk (disk.change (.rename source target)).1 := by
  rw [change_rename]
  split
  · split
    · intro path hp
      rw [List.mem_cons, List.mem_singleton, not_or] at hp
      rw [node?_put hp.2, node?_without hp.1]
      exact .inl rfl
    · exact Beside.refl _ _ _
  · exact Beside.refl _ _ _

theorem beside_attempt_rename :
    Beside towards [source, target] disk (disk.attempt (.rename source target)).1 :=
  beside_attempt (fun _ => beside_change_rename) beside_part_rename

theorem beside_change_rename_refused (h : (disk.change (.rename source target)).2 = false) :
    Beside towards paths disk (disk.change (.rename source target)).1 := by
  rw [change_rename] at h ⊢
  split at h
  next text hread =>
    split at h
    next => cases h
    next hadmits =>
      rw [if_neg hadmits]
      exact Beside.refl _ _ _
  next hread => exact Beside.refl _ _ _

/-- A file that is not moved leaves what is at the other path in its place. -/
theorem beside_attempt_rename_refused (h : (disk.attempt (.rename source target)).2 = false) :
    Beside towards paths disk (disk.attempt (.rename source target)).1 := by
  refine beside_attempt (fun hdone => ?_) beside_part_rename
  rw [hdone] at h
  exact beside_change_rename_refused h

theorem read?_attempt_rename (h : (disk.attempt (.rename source target)).2 = true) :
    target.isPossible = true ∧
      (disk.attempt (.rename source target)).1.read? target = disk.read? source := by
  have hdone := attempt_of_carriedOut h
  rw [hdone, change_rename] at h ⊢
  split at h
  next text hread =>
    split at h
    next hadmits =>
      have hpossible : target.isPossible = true := by
        rw [admitsFile, Bool.and_eq_true, Bool.and_eq_true] at hadmits
        exact hadmits.1.1
      have hfree : (disk.later.without source).isDirectory target = false :=
        not_isDirectory_without (not_isDirectory_of_admitsFile hadmits)
      have hsource : disk.read? source = some text := hread
      refine ⟨hpossible, ?_⟩
      rw [if_pos hadmits, hsource, Disk.read?, node?_put_self hfree]
    next => cases h
  next => cases h

theorem beside_part_remove (done : Nat) :
    Beside towards paths disk (disk.part done (.remove path)) := Beside.refl _ _ _

theorem beside_change_remove_refused (h : (disk.change (.remove path)).2 = false) :
    Beside towards paths disk (disk.change (.remove path)).1 := by
  rw [change_remove] at h ⊢
  split at h
  next => cases h
  next hno =>
    rw [if_neg hno]
    exact Beside.refl _ _ _

/-- A file that is not removed stays. -/
theorem beside_attempt_remove_refused (h : (disk.attempt (.remove path)).2 = false) :
    Beside towards paths disk (disk.attempt (.remove path)).1 := by
  refine beside_attempt (fun hdone => ?_) beside_part_remove
  rw [hdone] at h
  exact beside_change_remove_refused h

theorem beside_change_remove : Beside towards [path] disk (disk.change (.remove path)).1 := by
  rw [change_remove]
  split
  · intro other hother
    exact .inl (node?_without fun heq => hother (List.mem_singleton.2 heq))
  · exact Beside.refl _ _ _

/-- A file that is removed is missed at its own path only. -/
theorem beside_attempt_remove : Beside towards [path] disk (disk.attempt (.remove path)).1 :=
  beside_attempt (fun _ => beside_change_remove) beside_part_remove

/-! ## Runs -/

theorem run_cons_eq_ok {step : Step} {rest : List Step} :
    disk.run (step :: rest) = (changed, .ok ()) ↔
      (disk.attempt step.op).2 = true ∧ (disk.attempt step.op).1.run rest = (changed, .ok ()) := by
  rw [run_cons]
  split
  next next heq => rw [heq]; simp
  next next heq => rw [heq]; simp

/-- A run is refused at its first step, or after it. -/
theorem run_cons_eq_error {step : Step} {rest : List Step} {cause : Cause} :
    disk.run (step :: rest) = (changed, .error cause) ↔
      (disk.attempt step.op).2 = false ∧ (disk.attempt step.op).1 = changed ∧
        step.ifRefused = cause ∨
      (disk.attempt step.op).2 = true ∧
        (disk.attempt step.op).1.run rest = (changed, .error cause) := by
  rw [run_cons]
  split
  next next heq => rw [heq]; simp
  next next heq => rw [heq]; simp

theorem run_append_eq_ok {first rest : List Step} :
    disk.run (first ++ rest) = (changed, .ok ()) ↔
      ∃ between, disk.run first = (between, .ok ()) ∧ between.run rest = (changed, .ok ()) := by
  induction first generalizing disk with
  | nil => simp
  | cons step others ih =>
    rw [List.cons_append]
    simp only [run_cons_eq_ok, ih]
    constructor
    · rintro ⟨hdone, between, hothers, hrest⟩
      exact ⟨between, ⟨hdone, hothers⟩, hrest⟩
    · rintro ⟨between, ⟨hdone, hothers⟩, hrest⟩
      exact ⟨hdone, between, hothers, hrest⟩

theorem run_append_of_ok {between : Disk} {first : List Step} (h : disk.run first = (between, .ok ()))
    (rest : List Step) : disk.run (first ++ rest) = between.run rest := by
  induction first generalizing disk with
  | nil =>
    obtain rfl := congrArg Prod.fst h
    rfl
  | cons step others ih =>
    obtain ⟨hdone, hothers⟩ := run_cons_eq_ok.1 h
    rw [List.cons_append, run_cons]
    split
    next next heq =>
      rw [heq] at hothers
      exact ih hothers
    next next heq =>
      rw [heq] at hdone
      cases hdone

/-- A run is refused in its first part, or after it. -/
theorem run_append_eq_error {first rest : List Step} {cause : Cause} :
    disk.run (first ++ rest) = (changed, .error cause) ↔
      disk.run first = (changed, .error cause) ∨
        ∃ between, disk.run first = (between, .ok ()) ∧
          between.run rest = (changed, .error cause) := by
  induction first generalizing disk with
  | nil => simp
  | cons step others ih =>
    rw [List.cons_append]
    simp only [run_cons_eq_error, run_cons_eq_ok, ih]
    constructor
    · rintro (hstep | ⟨hdone, hothers | ⟨between, hothers, hrest⟩⟩)
      · exact .inl (.inl hstep)
      · exact .inl (.inr ⟨hdone, hothers⟩)
      · exact .inr ⟨between, ⟨hdone, hothers⟩, hrest⟩
    · rintro ((hstep | ⟨hdone, hothers⟩) | ⟨between, ⟨hdone, hothers⟩, hrest⟩)
      · exact .inl hstep
      · exact .inr ⟨hdone, .inl hothers⟩
      · exact .inr ⟨hdone, .inr ⟨between, hothers, hrest⟩⟩

theorem beside_run_remove (disk : Disk) (path towards : Path) (cause : Cause) :
    Beside towards [path] disk (disk.run [⟨.remove path, cause⟩]).1 := by
  have hremoved := @beside_attempt_remove disk path towards
  rw [run_cons]
  split
  next next heq =>
    rw [heq] at hremoved
    exact hremoved
  next next heq =>
    rw [heq] at hremoved
    exact hremoved

/-! ## Here and now -/

/-- Operations change entries only. -/
theorem exists_entries_change (disk : Disk) (op : FileOp) :
    ∃ entries, (disk.change op).1 = { disk with entries := entries } := by
  cases op with
  | makeDirectories path =>
    rw [change_makeDirectories, makeDirectories]
    split
    · split <;> exact ⟨_, rfl⟩
    · exact ⟨_, rfl⟩
  | write path text =>
    rw [change_write]
    split <;> exact ⟨_, rfl⟩
  | rename source target =>
    rw [change_rename]
    split
    · split <;> exact ⟨_, rfl⟩
    · exact ⟨_, rfl⟩
  | remove path =>
    rw [change_remove]
    split <;> exact ⟨_, rfl⟩

/-- So do those that are carried out in part. -/
theorem exists_entries_part (disk : Disk) (done : Nat) (op : FileOp) :
    ∃ entries, disk.part done op = { disk with entries := entries } := by
  cases op with
  | makeDirectories path | write path text =>
    rw [part]
    split <;> exact ⟨_, rfl⟩
  | rename source target | remove path => exact ⟨_, rfl⟩

theorem here_attempt (disk : Disk) (op : FileOp) : (disk.attempt op).1.here = disk.here := by
  rcases attempt_cases disk op with hdone | hrefused | ⟨done, hpart⟩
  · obtain ⟨entries, hchange⟩ := exists_entries_change disk.later op
    rw [hdone, hchange]
    rfl
  · rw [hrefused]
    rfl
  · obtain ⟨entries, hentries⟩ := exists_entries_part disk.later done op
    rw [hpart, hentries]
    rfl

/-- Steps are carried out from where one is. -/
theorem here_run (disk : Disk) (steps : List Step) : (disk.run steps).1.here = disk.here := by
  induction steps generalizing disk with
  | nil => rfl
  | cons step rest ih =>
    have hfirst := disk.here_attempt step.op
    rw [run_cons]
    split
    next next heq =>
      rw [heq] at hfirst
      exact (ih next).trans hfirst
    next next heq =>
      rw [heq] at hfirst
      exact hfirst

end Disk

end RelStore
