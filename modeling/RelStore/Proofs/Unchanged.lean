/-
When running a statement changes nothing.

A statement fails while it is planned, and then nothing has happened yet, or when one of its steps
is refused. What the steps do is to save, so that they are refused for reasons of storage only
(`Change.OnlySaves`). Every failure of another kind is one of planning.
-/
import Mathlib
import RelStore.Proofs.Atomicity

namespace RelStore

open Sql

/-- The steps of a change are refused for reasons of storage only. -/
def Change.OnlySaves (change : Change) : Prop :=
  ∀ step ∈ change.steps, step.ifRefused.kind = .storage

variable {steps : List Step} {disk changed : Disk} {cause : Cause} {w after : Workspace}
  {statement : Statement}

theorem Disk.exists_refused_of_run (h : disk.run steps = (changed, .error cause)) :
    ∃ step ∈ steps, step.ifRefused = cause := by
  induction steps generalizing disk with
  | nil => cases h
  | cons step rest ih =>
    rcases run_cons_eq_error.1 h with ⟨-, -, hcause⟩ | ⟨-, hrest⟩
    · exact ⟨step, List.mem_cons_self, hcause⟩
    · obtain ⟨refused, hmem, hcause⟩ := ih hrest
      exact ⟨refused, List.mem_cons_of_mem _ hmem, hcause⟩

namespace Catalog

variable {catalog : Catalog} {session : Session} {clock name : String} {names : List String}
  {db : Database} {plan : Plan} {change : Change} {step : Step}

/-! ## Steps -/

theorem kind_of_mem_writeSteps {path : Path} {content : Json}
    (h : step ∈ Store.writeSteps path content) : step.ifRefused.kind = .storage := by
  simp only [Store.writeSteps, List.mem_cons, List.not_mem_nil, or_false] at h
  rcases h with rfl | rfl | rfl <;> rfl

theorem kind_of_mem_saveSteps (h : step ∈ catalog.saveSteps db clock) :
    step.ifRefused.kind = .storage := by
  rw [saveSteps] at h
  split at h
  · exact kind_of_mem_writeSteps h
  · cases h

theorem kind_of_mem_saveNamesSteps (h : step ∈ catalog.saveNamesSteps names) :
    step.ifRefused.kind = .storage := by
  rw [saveNamesSteps] at h
  split at h
  · exact kind_of_mem_writeSteps h
  · cases h

theorem kind_of_mem_deleteSteps (h : step ∈ catalog.deleteSteps name) :
    step.ifRefused.kind = .storage := by
  rw [deleteSteps] at h
  split at h
  · rw [List.mem_singleton.1 h]
    rfl
  · cases h

theorem Replaces.onlySaves (h : catalog.Replaces clock change) : change.OnlySaves := by
  obtain ⟨db, -, next, -, rfl⟩ := h
  exact fun step hstep => kind_of_mem_saveSteps hstep

/-- All that the plan of a statement does to files is to save. -/
theorem onlySaves_of_plan (h : catalog.plan session clock statement = .ok plan) :
    plan.change.OnlySaves := by
  have hplanned := plannedBy_of_plan h
  intro step hstep
  cases statement with
  | createDatabase name =>
    obtain ⟨-, -, hchange⟩ := createDatabase_eq_ok.1 hplanned
    rw [hchange] at hstep
    rcases List.mem_append.1 hstep with hstep | hstep
    · exact kind_of_mem_saveSteps hstep
    · exact kind_of_mem_saveNamesSteps hstep
  | dropDatabase name =>
    obtain ⟨db, -, hchange⟩ := hplanned
    rw [hchange] at hstep
    rcases List.mem_append.1 hstep with hstep | hstep
    · exact kind_of_mem_saveNamesSteps hstep
    · exact kind_of_mem_deleteSteps hstep
  | createTable _ | dropTable _ | insert _ _ _ => exact hplanned.1.onlySaves step hstep
  | update _ _ _ | delete _ _ => exact Replaces.onlySaves hplanned step hstep
  | _ =>
    have hnone : plan.change = catalog.unchanged := hplanned
    rw [hnone] at hstep
    cases hstep

end Catalog

/-! ## Running -/

namespace Workspace

/-- A statement fails because it has no plan, or because the storage refuses a step of it. -/
theorem run_eq_error (h : w.run statement = (after, .error cause)) :
    (w.engine.catalog.plan w.session w.engine.disk.clock statement = .error cause ∧ after = w) ∨
      cause.kind = .storage := by
  cases hplan : w.engine.catalog.plan w.session w.engine.disk.clock statement with
  | error other =>
    rw [run, hplan] at h
    obtain ⟨rfl, hcause⟩ := Prod.mk.inj h
    exact .inl ⟨congrArg _ (Except.error.inj hcause), rfl⟩
  | ok plan =>
    rw [run, hplan] at h
    simp only [Engine.apply, Change.apply] at h
    cases hrun : w.engine.disk.run plan.change.steps with
    | mk changed result =>
      rw [hrun] at h
      cases result with
      | ok done => cases h
      | error refused =>
        obtain rfl : refused = cause := Except.error.inj (congrArg Prod.snd h)
        obtain ⟨step, hstep, rfl⟩ := Disk.exists_refused_of_run hrun
        exact .inr (Catalog.onlySaves_of_plan hplan step hstep)

end Workspace

end RelStore
