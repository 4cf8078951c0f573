/-
Scripts one after the other.

Statements run up to the first that fails, so that what comes after them is reached only if they all
succeed (`Workspace.runAll_append`). Two scripts with a semicolon on a line between them run one
after the other, for every state; if the second cannot be read, nothing of the first is run
(`Workspace.executeScript_append`).
-/
import Mathlib
import RelStore.Engine
import RelStore.Proofs.Sql.Scripts

namespace RelStore

open Sql

namespace Workspace

/-- Both runs, the second in the state that the first leaves; it does not come to the second if one
of the first fails. -/
def andThen (first : Workspace × List Outcome) (second : Workspace → Workspace × List Outcome) :
    Workspace × List Outcome :=
  if first.2.all Except.isOk then ((second first.1).1, first.2 ++ (second first.1).2) else first

theorem runAll_append (w : Workspace) (first second : List Statement) :
    w.runAll (first ++ second) = andThen (w.runAll first) fun w => w.runAll second := by
  induction first generalizing w with
  | nil => rfl
  | cons statement rest ih =>
    rw [List.cons_append, runAll, runAll]
    cases w.runAs none statement with
    | mk after outcome =>
      cases outcome with
      | error failure => rfl
      | ok answer =>
        have hok : (Except.ok answer : Outcome).isOk = true := rfl
        simp only [ih, andThen, List.all_cons, hok, Bool.true_and]
        split <;> rfl

/-- **Scripts with a semicolon between them run one after the other.** If the second cannot be read,
nothing is run, and the answer is this failure alone, at its place in the whole text. -/
theorem executeScript_append {a : String} {first : List Statement} (ha : parseScript a = .ok first)
    (b : String) :
    (∀ second, parseScript b = .ok second →
      parseScript (a ++ "\n;\n" ++ b) = .ok (first ++ second) ∧
      ∀ w : Workspace, w.executeScript (a ++ "\n;\n" ++ b) =
        andThen (w.executeScript a) fun w => w.executeScript b) ∧
    ∀ cause, parseScript b = .error cause → ∀ w : Workspace,
      w.executeScript (a ++ "\n;\n" ++ b) =
        (w, [.error ⟨cause.below (Text.length (a ++ "\n;\n")) ((a ++ "\n;\n").toList.count '\n'),
          some (a ++ "\n;\n" ++ b)⟩]) := by
  have happend := parseScript_append (b := b) ha
  refine ⟨fun second hb => ?_, fun cause hb w => ?_⟩
  · rw [hb] at happend
    refine ⟨happend, fun w => ?_⟩
    simp only [executeScript, happend, ha, hb]
    exact w.runAll_append first second
  · rw [hb] at happend
    simp only [executeScript, happend]
    rfl

/-- A string with a semicolon in it and a comment stand at the end of the script. -/
def earlierNotes : String := "USE notes; DELETE FROM lines WHERE word = 'to; be' -- ;'"

def earlierStatements : List Statement :=
  [.useDatabase "notes", .delete "lines"
    (some (.comparison .eq (.column ⟨none, "word"⟩) (.literal (Value.ofText "to; be"))))]

theorem executeScript_append_notes : parseScript earlierNotes = .ok earlierStatements ∧
    (parseScript "-- all\n;DROP TABLE lines;" = .ok [.dropTable "lines"] ∧
      parseScript (earlierNotes ++ "\n;\n" ++ "-- all\n;DROP TABLE lines;") =
        .ok (earlierStatements ++ [.dropTable "lines"]) ∧
      ∀ w : Workspace, w.executeScript (earlierNotes ++ "\n;\n" ++ "-- all\n;DROP TABLE lines;") =
        andThen (w.executeScript earlierNotes) fun w => w.executeScript "-- all\n;DROP TABLE lines;") ∧
    parseScript "DROP lines" = .error (.expected "DATABASE or TABLE" (some "lines") ⟨5, 1, 6⟩) ∧
      ∀ w : Workspace, w.executeScript (earlierNotes ++ "\n;\n" ++ "DROP lines") =
        (w, [.error ⟨.expected "DATABASE or TABLE" (some "lines") ⟨64, 3, 6⟩,
          some (earlierNotes ++ "\n;\n" ++ "DROP lines")⟩]) := by
  have hearlier : parseScript earlierNotes = .ok earlierStatements := by cbv
  have hlater : parseScript "-- all\n;DROP TABLE lines;" = .ok [.dropTable "lines"] := by cbv
  have hrefused : parseScript "DROP lines" =
      .error (.expected "DATABASE or TABLE" (some "lines") ⟨5, 1, 6⟩) := by cbv
  refine ⟨hearlier, ⟨hlater, (executeScript_append hearlier _).1 _ hlater⟩, hrefused, fun w => ?_⟩
  exact (executeScript_append hearlier "DROP lines").2 _ hrefused w

end Workspace

end RelStore
