/-
Saving databases in the one order or the other.

A database is saved in two files of its own, its document and the draft of it, and in the directory
that all share. Once that directory is there, or cannot be made, saving another database changes
nothing about it (`makeDirectories_again`). So two databases of different names can be saved in
either order: the same files come of it, and each is refused or not as it would be alone
(`run_saveSteps_comm`).
-/
import RelStore.Proofs.Disk.Alike
import RelStore.Proofs.Store

namespace RelStore

open List (Forall₂)

namespace Path

variable {path other : Path}

theorem parent_withEnding (path : Path) (ending : String) :
    (path.withEnding ending).parent = path.parent := by
  obtain ⟨names⟩ := path
  rcases List.eq_nil_or_concat names with rfl | ⟨front, last, rfl⟩
  · rfl
  · simp [parent, withEnding]

theorem IsDocument.eq_of_withEnding (h : path.IsDocument) (h' : other.IsDocument)
    (heq : path.withEnding ".tmp" = other.withEnding ".tmp") : path = other := by
  obtain ⟨dir, base, rfl⟩ := h
  obtain ⟨dir', base', rfl⟩ := h'
  rw [withEnding_child, withEnding_child] at heq
  obtain ⟨rfl, hname⟩ := child_injective heq
  rw [(String.append_left_inj _).1 hname]

/-- Neither a document nor its draft is on the way to their directory. -/
theorem IsDocument.not_leadsTo_of_file {target : Path} (h : path.IsDocument)
    (htarget : target = path ∨ target = path.withEnding ".tmp") :
    target.leadsTo path.parent = false := by
  rcases htarget with rfl | rfl
  · exact h.not_leadsTo_parent
  · obtain ⟨dir, base, rfl⟩ := h
    rw [withEnding_child]
    exact not_leadsTo_parent_child (by simp)

end Path

namespace Store

variable {store : Store} {disk changed : Disk} {path other target way : Path} {content content' : Json}
  {db next : Database} {clock clock' : String}

/-- The files that a document is saved in. -/
def IsFileOf (path target : Path) : Prop := target = path ∨ target = path.withEnding ".tmp"

/-- The steps that save a document in its directory. -/
def fileSteps (path : Path) (content : Json) : List Step := (writeSteps path content).tail

theorem within_fileSteps (path : Path) (content : Json) : ∀ step ∈ fileSteps path content,
    step.op.Within fun target => IsFileOf path target ∨ target = path.parent := by
  have hdraft := Path.parent_withEnding path ".tmp"
  simp only [fileSteps, writeSteps, List.tail_cons, List.forall_mem_cons]
  exact ⟨⟨.inl (.inr rfl), .inr hdraft⟩, ⟨.inl (.inr rfl), .inl (.inl rfl), .inr rfl⟩,
    List.forall_mem_nil _⟩

theorem isFileOf_of_changes : ∀ step ∈ fileSteps path content, step.op.Changes target →
    IsFileOf path target := by
  simp only [fileSteps, writeSteps, List.tail_cons, List.forall_mem_cons]
  exact ⟨.inr, Or.symm, List.forall_mem_nil _⟩

theorem isFileOf_unique (hdoc : path.IsDocument) (hdoc' : other.IsDocument) (h : IsFileOf path target)
    (h' : IsFileOf other target) : path = other := by
  rcases h with rfl | rfl
  · rcases h' with rfl | heq
    · rfl
    · exact absurd heq (hdoc.ne_withEnding hdoc')
  · rcases h' with heq | heq
    · exact absurd heq.symm (hdoc'.ne_withEnding hdoc)
    · exact hdoc.eq_of_withEnding hdoc' heq

/-! ## The directory -/

/-- Where its directory can be made, a document is saved in it; else nothing more is done. -/
theorem run_writeSteps_eq (hnone : disk.outages = []) (path : Path) (content : Json) :
    disk.run (writeSteps path content) =
      match disk.change (.makeDirectories path.parent) with
      | (made, true) => made.run (fileSteps path content)
      | (made, false) => (made, .error (.unwritable path.text)) := by
  rw [writeSteps, Disk.run, Disk.attempt_of_outages_nil hnone]
  rcases disk.change (.makeDirectories path.parent) with ⟨made, _ | _⟩
  · rfl
  · rfl

/-- A directory that is there is found on every disk that is the same on the way to it. -/
theorem makeDirectories_again (hmade : disk.change (.makeDirectories path) = (changed, true))
    {later : Disk} (hsame : Disk.AlikeAt Eq (fun way => way.leadsTo path = true) changed later) :
    later.change (.makeDirectories path) = (later, true) := by
  rw [Disk.change] at hmade
  split at hmade
  next hfollow =>
    have hreached := Disk.reached_makeDirectories (congrArg Prod.snd hmade)
    rw [hmade] at hreached
    obtain ⟨hpath, hnode⟩ := hsame.reached fun _ hway => hway
    rw [hreached] at hpath hnode
    rw [Disk.change, if_pos hfollow]
    exact Disk.makeDirectories_of_reached (Prod.ext hpath.symm hnode.eq.symm)
  next => cases hmade

/-- One that cannot be made cannot be made a second time. -/
theorem makeDirectories_refused_again
    (hmade : disk.change (.makeDirectories path) = (changed, false)) :
    changed.change (.makeDirectories path) = (changed, false) := by
  rw [Disk.change] at hmade
  split at hmade
  next hfollow =>
    have hrefused := Disk.makeDirectories_of_refused (congrArg Prod.snd hmade)
    rw [hmade] at hrefused
    rw [Disk.change, if_pos hfollow]
    exact hrefused
  next hfollow =>
    obtain rfl := congrArg Prod.fst hmade
    rw [Disk.change, if_neg hfollow]

/-! ## Documents -/

/-- What a saved document leaves of the way to its directory. -/
theorem alikeAt_run_fileSteps (hnone : disk.outages = []) (hdoc : path.IsDocument) (content : Json) :
    Disk.AlikeAt Eq (fun way => way.leadsTo path.parent = true) disk
      (disk.run (fileSteps path content)).1 := by
  refine Disk.alikeAt_eq (Disk.here_run _ _).symm fun way hway => (Disk.entered?_run hnone ?_).symm
  intro step hstep hchanges
  rw [hdoc.not_leadsTo_of_file (isFileOf_of_changes step hstep hchanges)] at hway
  cases hway

/-- After a document is saved, another is saved in the same directory as it would be at once. -/
theorem run_writeSteps_after (hnone : disk.outages = []) (hdoc : path.IsDocument)
    (hparent : path.parent = other.parent) {before : Disk}
    (hmade : before.change (.makeDirectories path.parent) = (disk, true)) (content content' : Json) :
    (disk.run (fileSteps path content)).1.run (writeSteps other content') =
      (disk.run (fileSteps path content)).1.run (fileSteps other content') := by
  have hagain := makeDirectories_again hmade (alikeAt_run_fileSteps hnone hdoc content)
  rw [run_writeSteps_eq (Disk.outages_run hnone _), ← hparent, hagain]

/-- **Two documents in one directory can be saved in either order.** -/
theorem run_writeSteps_comm (hnone : disk.outages = []) (hdoc : path.IsDocument)
    (hdoc' : other.IsDocument) (hne : path ≠ other) (hparent : path.parent = other.parent)
    (content content' : Json) :
    Disk.Same ((disk.run (writeSteps path content)).1.run (writeSteps other content')).1
        ((disk.run (writeSteps other content')).1.run (writeSteps path content)).1 ∧
      ((disk.run (writeSteps path content)).1.run (writeSteps other content')).2 =
        (disk.run (writeSteps other content')).2 ∧
      ((disk.run (writeSteps other content')).1.run (writeSteps path content)).2 =
        (disk.run (writeSteps path content)).2 := by
  have hfirst := run_writeSteps_eq hnone path content
  have hsecond := run_writeSteps_eq hnone other content'
  rw [← hparent] at hsecond
  have hmadeNone := (Disk.outages_change disk (.makeDirectories path.parent)).trans hnone
  rcases hmade : disk.change (.makeDirectories path.parent) with ⟨made, _ | _⟩
  · rw [hmade] at hfirst hsecond hmadeNone
    have hagain := makeDirectories_refused_again hmade
    rw [hfirst, hsecond, run_writeSteps_eq hmadeNone, run_writeSteps_eq hmadeNone, ← hparent, hagain]
    exact ⟨Disk.alikeAt_eq rfl fun _ _ => rfl, rfl, rfl⟩
  · rw [hmade] at hfirst hsecond hmadeNone
    rw [hfirst, hsecond]
    dsimp only
    have hmade' := hmade
    rw [hparent] at hmade'
    rw [run_writeSteps_after hmadeNone hdoc hparent hmade,
      run_writeSteps_after hmadeNone hdoc' hparent.symm hmade']
    have hapart {path other : Path} (hdoc : path.IsDocument) (hdoc' : other.IsDocument)
        (hne : path ≠ other) (hparent : path.parent = other.parent) (content : Json) (target : Path)
        (htarget : IsFileOf other target ∨ target = other.parent) :
        ∀ step ∈ fileSteps path content, ¬ step.op.Changes target := by
      intro step hstep hchanges
      have hfile := isFileOf_of_changes step hstep hchanges
      rcases htarget with hother | rfl
      · exact hne (isFileOf_unique hdoc hdoc' hfile hother)
      · have hlead := hdoc.not_leadsTo_of_file hfile
        rw [hparent, Path.leadsTo_iff.2 (List.prefix_refl _)] at hlead
        cases hlead
    exact Disk.run_comm hmadeNone (within_fileSteps path content) (within_fileSteps other content')
      (hapart hdoc hdoc' hne hparent content) (hapart hdoc' hdoc hne.symm hparent.symm content')

/-! ## Databases -/

/-- Two texts are the same but for the time at which a database was saved. -/
def SameButTime (text other : String) : Prop :=
  text = other ∨ ∃ (db : Database) (clock clock' : String),
    text = (db.toDocument clock).toJson.pretty ∧ other = (db.toDocument clock').toJson.pretty

theorem alike_saveSteps {same : String → String → Prop} (store : Store) (db : Database)
    (h : same (db.toDocument clock).toJson.pretty (db.toDocument clock').toJson.pretty) :
    Forall₂ (Step.Alike same) (store.saveSteps db clock) (store.saveSteps db clock') :=
  .cons ⟨.makeDirectories _, rfl⟩ (.cons ⟨.write _ h, rfl⟩ (.cons ⟨.rename _ _, rfl⟩ .nil))

/-- **Two databases of different names can be saved in either order.** -/
theorem run_saveSteps_comm (hnone : disk.outages = [])
    (hcheck : Sql.checkName .database db.name = .ok ())
    (hcheck' : Sql.checkName .database next.name = .ok ()) (hne : db.name ≠ next.name)
    (clock clock' : String) :
    Disk.Same ((disk.run (store.saveSteps db clock)).1.run (store.saveSteps next clock')).1
        ((disk.run (store.saveSteps next clock')).1.run (store.saveSteps db clock)).1 ∧
      ((disk.run (store.saveSteps db clock)).1.run (store.saveSteps next clock')).2 =
        (disk.run (store.saveSteps next clock')).2 ∧
      ((disk.run (store.saveSteps next clock')).1.run (store.saveSteps db clock)).2 =
        (disk.run (store.saveSteps db clock)).2 := by
  have hdirectory {name : String} (hcheck : Sql.checkName .database name = .ok ()) :
      (store.databasePath name).parent = store.directory.child "databases" := by
    rw [databasePath_of_checkName hcheck, Path.parent_child (by simp [Path.child])]
  exact run_writeSteps_comm hnone (isDocument_databasePath store db.name)
    (isDocument_databasePath store next.name)
    (fun hpath => hne (databasePath_injective hcheck hcheck' hpath))
    ((hdirectory hcheck).trans (hdirectory hcheck').symm) _ _

end Store

end RelStore
