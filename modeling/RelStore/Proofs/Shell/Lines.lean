/-
The shell and scripts.

The shell takes a statement to be complete when what it has collected ends in a semicolon, whatever
the semicolon stands in. If a statement does end wherever a line does so, the shell runs the lines of
a script as the script (`enterAll_eq_executeScript`). A semicolon at the end of a line within a
string, or in a comment within a statement, is not such an end: the shell cuts the statement there
(`not_enterAll_eq_executeScript`).

Lines of white space are collected like any others. White space before a statement makes no difference
to what the shell does with it (`Pads.enterAll`). But a line that begins with a dot is a command only
if nothing is collected, and a line with a space in it is something (`enterAll_after_blanks`,
`not_isCommand_after_blank`).
-/
import RelStore.Proofs.Engine.Scripts
import RelStore.Proofs.Sql.Elsewhere
import RelStore.Shell

namespace RelStore

open Sql

namespace Text

/-! ## White space at the ends of lines -/

theorem endsWith_semicolon_iff {s : String} : s.endsWith ";" = true ↔ s.toList.getLast? = some ';' := by
  rw [← String.endsWith_toSlice, String.Slice.endsWith_string_iff, String.copy_toSlice]
  exact List.singleton_suffix_iff_getLast?_eq_some

/-- A text ends as it does without the white space at its ends. -/
theorem getLast?_trimChars (text : List Char) :
    (trimChars text).getLast? = text.reverse.find? (!isBlank ·) := by
  have hblanks : (text.takeWhile isBlank).reverse.find? (!isBlank ·) = none := by
    rw [List.find?_eq_none]
    intro c hc
    simp [List.mem_takeWhile_imp (List.mem_reverse.1 hc)]
  conv_rhs => rw [← List.takeWhile_append_dropWhile (p := isBlank) (l := text)]
  rw [trimChars, List.getLast?_reverse, ← List.find?_not_eq_head?_dropWhile, List.reverse_append, List.find?_append,
    hblanks, Option.or_none]

/-! ## Texts of white space -/

/-- A text of white space only. -/
def IsBlank (s : String) : Prop := ∀ c ∈ s.toList, isBlank c = true

instance (s : String) : Decidable (IsBlank s) := decidable_of_iff (s.toList.all isBlank = true) List.all_eq_true

variable {s blanks : String}

theorem isBlank_append {t : String} (hs : IsBlank s) (ht : IsBlank t) : IsBlank (s ++ t) := by
  rw [IsBlank, String.toList_append]
  exact List.forall_mem_append.2 ⟨hs, ht⟩

theorem isBlank_newline : IsBlank "\n" := by decide +kernel

theorem trim_append (h : IsBlank blanks) (s : String) : trim (blanks ++ s) = trim s := by
  rw [trim, trim, trimChars, trimChars, String.toList_append, List.dropWhile_append_of_pos h]

theorem trim_of_isBlank (h : IsBlank s) : trim s = "" := by
  have htrim := trim_append h ""
  rwa [String.append_empty] at htrim

end Text

theorem Workspace.all_andThen {first : Workspace × List Outcome}
    {second : Workspace → Workspace × List Outcome}
    (h : (Workspace.andThen first second).2.all Except.isOk = true) :
    (Workspace.andThen first second).1 = (second first.1).1 ∧ (second first.1).2.all Except.isOk = true := by
  rw [andThen] at h ⊢
  split at h
  next hfirst =>
    rw [if_pos hfirst]
    rw [List.all_append, Bool.and_eq_true] at h
    exact ⟨rfl, h.2⟩
  next hfirst => exact absurd h hfirst

namespace Shell

variable {shell : Shell} {line : String} {lines : List String} {statements : List Statement}

/-- What is collected is taken to be complete. -/
def seemsComplete (text : String) : Bool := (Text.trim text).endsWith ";"

theorem seemsComplete_iff {text : String} :
    seemsComplete text = true ↔ text.toList.reverse.find? (!Text.isBlank ·) = some ';' := by
  rw [seemsComplete, Text.endsWith_semicolon_iff, Text.trim, String.toList_ofList, Text.getLast?_trimChars]

theorem seemsComplete_of_endsWith {text : String} (h : text.endsWith ";" = true) :
    seemsComplete text = true := by
  rw [seemsComplete_iff]
  obtain ⟨before, heq⟩ := List.getLast?_eq_some_iff.1 (Text.endsWith_semicolon_iff.1 h)
  rw [heq, List.reverse_append]
  rfl

theorem seemsComplete_append {text : String} (h : seemsComplete text = true) (before : String) :
    seemsComplete (before ++ text) = true := by
  rw [seemsComplete_iff] at h ⊢
  rw [String.toList_append, List.reverse_append, List.find?_append, h]
  rfl

theorem endsWith_below {above below : String} (h : (above ++ "\n" ++ below).endsWith ";" = true) :
    below.endsWith ";" = true := by
  rw [Text.endsWith_semicolon_iff] at h ⊢
  have htext : (above ++ "\n" ++ below).toList = above.toList ++ ['\n'] ++ below.toList := by
    simp [String.toList_append]
  rw [htext, List.getLast?_append] at h
  cases hlast : below.toList.getLast? with
  | none =>
    rw [hlast, Option.none_or, List.getLast?_concat] at h
    cases h
  | some c => rwa [hlast] at h

/-- The lines, after what is collected. -/
def collected (pending : String) (lines : List String) : String :=
  joinLines (if pending.isEmpty then lines else pending :: lines)

theorem collected_empty (lines : List String) : collected "" lines = joinLines lines := rfl

theorem collected_singleton (pending line : String) : collected pending [line] =
    if pending.isEmpty then line else pending ++ "\n" ++ line := by
  rw [collected]
  split
  · exact String.intercalate_singleton
  · rw [joinLines, String.intercalate_cons_cons, String.intercalate_singleton]

theorem collected_cons (pending line : String) (hlines : lines ≠ []) :
    collected pending (line :: lines) = collected pending [line] ++ "\n" ++ joinLines lines := by
  rw [collected_singleton, collected]
  split
  · exact String.intercalate_cons_of_ne_nil hlines
  · rw [joinLines, String.intercalate_cons_cons, String.intercalate_cons_of_ne_nil hlines, joinLines]
    simp only [String.append_assoc]

theorem collected_ne_empty {pending : String} (h : pending ≠ "" ∨ line ≠ "") : collected pending [line] ≠ "" := by
  rw [collected_singleton]
  split
  next hpending => exact h.resolve_left (not_not.2 (String.isEmpty_iff.1 hpending))
  next => simp

theorem collected_collected {pending : String} (h : pending ≠ "" ∨ line ≠ "") (lines : List String) :
    collected (collected pending [line]) lines = collected pending (line :: lines) := by
  rw [collected, if_neg (mt String.isEmpty_iff.1 (collected_ne_empty h))]
  by_cases hlines : lines = []
  · rw [hlines]
    exact String.intercalate_singleton
  · rw [collected_cons pending line hlines]
    exact String.intercalate_cons_of_ne_nil hlines

/-! ## Line by line -/

theorem run_of_parseScript {sql : String} (h : parseScript sql = .ok statements) :
    (shell.run sql).1 = { shell with workspace := (shell.workspace.runAll statements).1 } := by
  rw [run]
  split
  next hsemicolons =>
    obtain rfl := (hasScript_iff.2 h).eq_nil fun c hc => beq_iff_eq.1 (List.all_eq_true.1 hsemicolons c hc)
    rfl
  next => rw [Workspace.executeScript, h]

/-- No line at the start of a script is a command. -/
theorem isCommand_eq_false
    (h : HasScript (collected shell.pending (line :: lines)).toList statements) :
    shell.isCommand line = false := by
  rw [isCommand, Bool.and_eq_false_iff, or_iff_not_imp_left, Bool.not_eq_false]
  intro hpending
  rw [← Bool.not_eq_true, String.startsWith_string_iff]
  intro hdot
  obtain ⟨before, after, hbefore, -, hline⟩ := Text.exists_trimChars line.toList
  obtain ⟨more, hmore⟩ : ∃ more, joinLines (line :: lines) = line ++ more := by
    by_cases hlines : lines = []
    · exact ⟨"", by rw [hlines, String.append_empty]; exact String.intercalate_singleton⟩
    · exact ⟨"\n" ++ joinLines lines, by
        rw [joinLines, String.intercalate_cons_of_ne_nil hlines, String.append_assoc, joinLines]⟩
  rw [collected, if_pos hpending, hmore, String.toList_append, hline, List.append_assoc] at h
  simp only [Text.trim, String.toList_ofList] at hdot
  obtain ⟨rest, hrest⟩ := hdot
  rw [← hrest] at h
  exact (h.after_blanks hbefore).head?_ne_dot rfl

/-- What is done with the text that is collected. -/
def settle (shell : Shell) (text : String) : Shell × List Piece :=
  if seemsComplete text then { shell with pending := "" }.run (Text.trim text)
  else ({ shell with pending := text }, [])

/-- What a line leads to, with the prompt for the next. -/
def prompted (result : Shell × List Piece) : Shell × List Piece :=
  (result.1, if result.1.isRunning then result.2 ++ [result.1.prompt] else result.2)

theorem collect_eq_settle (shell : Shell) (line : String) :
    shell.collect line = shell.settle (collected shell.pending [line]) := by
  rw [collected_singleton]
  rfl

theorem enter_of_not_isCommand (hrunning : shell.isRunning = true) (h : shell.isCommand line = false) :
    shell.enter line = prompted (shell.settle (collected shell.pending [line])) := by
  simp only [enter, hrunning, h, if_true, Bool.false_eq_true, if_false, prompted, collect_eq_settle]

theorem enter_of_running (hrunning : shell.isRunning = true) (hline : shell.isCommand line = false) :
    (shell.enter line).1 = (shell.collect line).1 := by
  rw [enter_of_not_isCommand hrunning hline, ← collect_eq_settle, prompted]

theorem collect_complete (h : seemsComplete (collected shell.pending [line]) = true)
    (hscript : parseScript (collected shell.pending [line]) = .ok statements) : (shell.collect line).1 =
      { shell with pending := "", workspace := (shell.workspace.runAll statements).1 } := by
  have htrim : parseScript (Text.trim (collected shell.pending [line])) = .ok statements :=
    hasScript_iff.1 (by rw [Text.trim, String.toList_ofList]; exact (hasScript_iff.2 hscript).trim)
  rw [collect_eq_settle, settle, if_pos h]
  exact run_of_parseScript htrim

theorem collect_incomplete (h : seemsComplete (collected shell.pending [line]) = false) :
    (shell.collect line).1 = { shell with pending := collected shell.pending [line] } := by
  rw [collect_eq_settle, settle, if_neg (Bool.eq_false_iff.1 h)]

/-- Wherever a line seems to complete a statement, a statement does end. -/
def EndsWhereComplete (pending : String) (lines : List String) : Prop :=
  ∀ n < lines.length, seemsComplete (collected pending (lines.take n)) = true →
    endsBetween (collected pending (lines.take n)) (joinLines (lines.drop n)) = true

instance (pending : String) (lines : List String) : Decidable (EndsWhereComplete pending lines) :=
  inferInstanceAs (Decidable (∀ n < lines.length, _))

theorem EndsWhereComplete.after_complete {pending : String} {first : List Statement} (hlines : lines ≠ [])
    (hfirst : parseScript (collected pending [line]) = .ok first)
    (h : EndsWhereComplete pending (line :: lines)) : EndsWhereComplete "" lines := by
  intro n hn hcomplete
  cases n with
  | zero =>
    rw [List.take_zero] at hcomplete
    exact absurd hcomplete (by decide)
  | succ n =>
    have htake : lines.take (n + 1) ≠ [] := by
      cases lines with
      | nil => exact absurd rfl hlines
      | cons _ _ => nofun
    have hends := h (n + 2) (Nat.succ_lt_succ hn)
    rw [List.take_succ_cons, List.drop_succ_cons, collected_cons _ _ htake] at hends
    exact endsBetween_below hfirst (hends (seemsComplete_append hcomplete _))

theorem EndsWhereComplete.after_incomplete {pending : String} (hline : line ≠ "")
    (h : EndsWhereComplete pending (line :: lines)) :
    EndsWhereComplete (collected pending [line]) lines := by
  intro n hn
  have hends := h (n + 1) (Nat.succ_lt_succ hn)
  rwa [List.take_succ_cons, List.drop_succ_cons, ← collected_collected (.inr hline)] at hends

/-- **The shell runs its lines as the script that they are together with what is collected**, if a
statement ends wherever a line seems to complete one. -/
theorem enterAll_collected (hrunning : shell.isRunning = true)
    (hscript : HasScript (collected shell.pending lines).toList statements)
    (hok : (shell.workspace.runAll statements).2.all Except.isOk = true)
    (hlines : ∀ line ∈ lines, line ≠ "") (hends : EndsWhereComplete shell.pending lines)
    (hlast : (lines = [] → shell.pending = "") ∧
      (lines ≠ [] → (collected shell.pending lines).endsWith ";" = true)) :
    (shell.enterAll lines).1 =
      { shell with pending := "", workspace := (shell.workspace.runAll statements).1 } := by
  induction lines generalizing shell statements with
  | nil =>
    have hpending := hlast.1 rfl
    rw [hpending] at hscript
    obtain rfl := hscript.eq_nil nofun
    rw [← hpending]
    rfl
  | cons line lines ih =>
    obtain ⟨hline, hlines⟩ := List.forall_mem_cons.1 hlines
    have hall : (shell.enterAll (line :: lines)).1 = ((shell.collect line).1.enterAll lines).1 := by
      rw [← enter_of_running hrunning (isCommand_eq_false hscript)]
      rfl
    have hsemicolon := hlast.2 (List.cons_ne_nil _ _)
    rw [hall]
    by_cases hnil : lines = []
    · subst hnil
      rw [collect_complete (seemsComplete_of_endsWith hsemicolon) (hasScript_iff.1 hscript)]
      rfl
    rw [collected_cons _ _ hnil] at hsemicolon
    by_cases hcomplete : seemsComplete (collected shell.pending [line]) = true
    · rw [collected_cons _ _ hnil] at hscript
      -- what is collected runs by itself, and the other lines after it
      obtain ⟨first, others, hfirst, hothers, rfl⟩ := HasScript.split
        (by simpa [String.toList_append] using hscript)
        (hends 1 (Nat.succ_lt_succ (List.length_pos_of_ne_nil hnil)) hcomplete)
      rw [Workspace.runAll_append] at hok ⊢
      obtain ⟨hstate, hok⟩ := Workspace.all_andThen hok
      rw [collect_complete hcomplete hfirst, hstate]
      refine ih hrunning (hasScript_iff.2 hothers) hok hlines (hends.after_complete hnil hfirst)
        ⟨fun _ => rfl, fun _ => endsWith_below hsemicolon⟩
    · rw [collect_incomplete (Bool.not_eq_true _ ▸ hcomplete)]
      rw [← collected_collected (.inr hline)] at hscript
      refine ih hrunning hscript hok hlines (hends.after_incomplete hline) ⟨fun h => absurd h hnil, fun _ => ?_⟩
      rwa [collected_collected (.inr hline), collected_cons _ _ hnil]

/-- **The shell runs the lines of a script as the script**, if all of its statements succeed, it ends
in a semicolon, no line is empty, and wherever a line seems to complete a statement one does end. -/
theorem enterAll_eq_executeScript {shell : Shell} (hrunning : shell.isRunning = true)
    (hpending : shell.pending = "") {lines : List String}
    (hok : (shell.workspace.executeScript (joinLines lines)).2.all Except.isOk = true)
    (hlast : (joinLines lines).endsWith ";" = true) (hlines : ∀ line ∈ lines, line ≠ "")
    (hends : EndsWhereComplete "" lines) : (shell.enterAll lines).1 =
      { shell with workspace := (shell.workspace.executeScript (joinLines lines)).1 } := by
  cases hscript : parseScript (joinLines lines) with
  | error cause =>
    rw [Workspace.executeScript, hscript] at hok
    cases hok
  | ok statements =>
    have hrun : shell.workspace.executeScript (joinLines lines) = shell.workspace.runAll statements := by
      rw [Workspace.executeScript, hscript]
    rw [hrun] at hok ⊢
    rw [← collected_empty, ← hpending] at hscript hlast
    rw [← hpending] at hends
    rw [enterAll_collected hrunning (hasScript_iff.2 hscript) hok hlines hends
      ⟨fun _ => hpending, fun _ => hlast⟩, hpending]

/-- A database with a table without rows is chosen. -/
def notes : Shell where
  workspace := (Workspace.executeScript ⟨⟨.inMemory, ⟨.root, [], "", []⟩⟩, {}⟩
    "CREATE DATABASE notes; USE notes; CREATE TABLE words (word STRING PRIMARY KEY)").1

/-- Statements over several lines, with semicolons in a string and in comments. -/
def notesLines : List String :=
  ["-- words;", "INSERT INTO words", "VALUES ('to;be'); -- a word;", "DELETE FROM words WHERE",
    "  word = 'or", "not'; USE notes;"]

theorem enterAll_notesLines :
    notes.isRunning = true ∧ notes.pending = "" ∧
    (notes.workspace.executeScript (joinLines notesLines)).2.all Except.isOk = true ∧
    (joinLines notesLines).endsWith ";" = true ∧ (∀ line ∈ notesLines, line ≠ "") ∧
    EndsWhereComplete "" notesLines ∧ (notes.enterAll notesLines).1 =
      { notes with workspace := (notes.workspace.executeScript (joinLines notesLines)).1 } := by
  have hok : (notes.workspace.executeScript (joinLines notesLines)).2.all Except.isOk = true := by
    decide +kernel
  have hlast : (joinLines notesLines).endsWith ";" = true := by decide +kernel
  have hlines : ∀ line ∈ notesLines, line ≠ "" := by decide
  have hends : EndsWhereComplete "" notesLines := by decide +kernel
  exact ⟨rfl, rfl, hok, hlast, hlines, hends, enterAll_eq_executeScript rfl rfl hok hlast hlines hends⟩

/-- **A line that ends in a semicolon within a string cuts the statement**: the script stores the
word, and the shell refuses both of its lines. -/
theorem not_enterAll_eq_executeScript :
    let lines := ["INSERT INTO words VALUES ('to;", "be');"]
    (notes.workspace.executeScript (joinLines lines)).2.all Except.isOk = true ∧
      (joinLines lines).endsWith ";" = true ∧
      (∀ line ∈ lines, Text.trim line ≠ "" ∧ (Text.trim line).startsWith "." = false) ∧
      (notes.enterAll lines).1.workspace = notes.workspace ∧
      (notes.workspace.executeScript (joinLines lines)).1 ≠ notes.workspace := by
  decide +kernel

/-! ## After lines of white space -/

open Text (IsBlank)

variable {other : Shell} {blanks : List String} {blank : String}

theorem isCommand_of_pending (h : shell.pending ≠ "") (line : String) : shell.isCommand line = false := by
  rw [isCommand, Bool.and_eq_false_iff]
  exact .inl (Bool.eq_false_iff.2 (mt String.isEmpty_iff.1 h))

theorem isCommand_of_startsWith (h : (Text.trim line).startsWith "." = false) : shell.isCommand line = false := by
  rw [isCommand, h, Bool.and_false]

theorem isBlank_collected {pending : String} (hpending : IsBlank pending) (hline : IsBlank line) :
    IsBlank (collected pending [line]) := by
  rw [collected_singleton]
  split
  · exact hline
  · exact Text.isBlank_append (Text.isBlank_append hpending Text.isBlank_newline) hline

/-- A line of white space, after nothing else, is collected. -/
theorem enter_blank (hrunning : shell.isRunning = true) (hpending : IsBlank shell.pending)
    (hblank : IsBlank blank) : shell.enter blank =
      let after := { shell with pending := collected shell.pending [blank] }
      (after, [after.prompt]) := by
  have hincomplete : seemsComplete (collected shell.pending [blank]) = false := by
    rw [seemsComplete, Text.trim_of_isBlank (isBlank_collected hpending hblank)]
    decide
  rw [enter_of_not_isCommand hrunning
      (isCommand_of_startsWith (by rw [Text.trim_of_isBlank hblank]; rfl)),
    settle, if_neg (Bool.eq_false_iff.1 hincomplete)]
  exact Prod.ext rfl (if_pos hrunning)

/-- What is collected of lines of white space: all of them from the first that is not empty. -/
def blankText (pending : String) (blanks : List String) : String :=
  collected pending (if pending.isEmpty then blanks.dropWhile (·.isEmpty) else blanks)

theorem blankText_cons (pending blank : String) (blanks : List String) :
    blankText (collected pending [blank]) blanks = blankText pending (blank :: blanks) := by
  by_cases h : pending ≠ "" ∨ blank ≠ ""
  · rw [blankText, if_neg (mt String.isEmpty_iff.1 (collected_ne_empty h)), collected_collected h, blankText]
    split
    next hpending =>
      have hblank : blank.isEmpty = false :=
        Bool.eq_false_iff.2 (mt String.isEmpty_iff.1 (h.resolve_left (not_not.2 (String.isEmpty_iff.1 hpending))))
      rw [List.dropWhile_cons_of_neg (Bool.eq_false_iff.1 hblank)]
    next => rfl
  · obtain ⟨rfl, rfl⟩ : pending = "" ∧ blank = "" := by simpa only [not_or, not_not] using h
    rfl

theorem blankText_nil (pending : String) : blankText pending [] = pending := by
  by_cases h : pending = ""
  · rw [h]
    rfl
  · rw [blankText, if_neg (mt String.isEmpty_iff.1 h), collected, if_neg (mt String.isEmpty_iff.1 h)]
    exact String.intercalate_singleton

theorem isBlank_blankText {pending : String} (hpending : IsBlank pending)
    (hblanks : ∀ blank ∈ blanks, IsBlank blank) : IsBlank (blankText pending blanks) := by
  induction blanks generalizing pending with
  | nil => rwa [blankText_nil]
  | cons blank blanks ih =>
    obtain ⟨hblank, hblanks⟩ := List.forall_mem_cons.1 hblanks
    rw [← blankText_cons]
    exact ih (isBlank_collected hpending hblank) hblanks

theorem blankText_eq_empty_iff {pending : String} :
    blankText pending blanks = "" ↔ pending = "" ∧ ∀ blank ∈ blanks, blank = "" := by
  induction blanks generalizing pending with
  | nil => simp [blankText_nil]
  | cons blank blanks ih =>
    have hcollected : collected pending [blank] = "" ↔ pending = "" ∧ blank = "" := by
      constructor
      · intro h
        have hboth := mt collected_ne_empty (not_not.2 h)
        rwa [not_or, not_not, not_not] at hboth
      · rintro ⟨rfl, rfl⟩
        rfl
    rw [← blankText_cons, ih, hcollected, List.forall_mem_cons, and_assoc]

/-- Lines of white space, after nothing else, are collected, and only prompts are shown. -/
theorem enterAll_blanks (hrunning : shell.isRunning = true) (hpending : IsBlank shell.pending)
    (hblanks : ∀ blank ∈ blanks, IsBlank blank) :
    (shell.enterAll blanks).1 = { shell with pending := blankText shell.pending blanks } ∧
      ∀ piece ∈ (shell.enterAll blanks).2,
        piece = .text "...> " ∨ piece = { shell with pending := "" }.prompt := by
  induction blanks generalizing shell with
  | nil =>
    rw [blankText_nil]
    exact ⟨rfl, nofun⟩
  | cons blank blanks ih =>
    obtain ⟨hblank, hblanks⟩ := List.forall_mem_cons.1 hblanks
    obtain ⟨hstate, houtput⟩ := @ih { shell with pending := collected shell.pending [blank] } hrunning
      (isBlank_collected hpending hblank) hblanks
    rw [enterAll, enter_blank hrunning hpending hblank]
    refine ⟨?_, List.forall_mem_cons.2 ⟨?_, houtput⟩⟩
    · rw [← blankText_cons]
      exact hstate
    · rw [prompt]
      split
      next hempty => exact .inr rfl
      next => exact .inl rfl

/-! ### White space before a statement -/

/-- The other shell has white space before what is collected, and is the same otherwise. -/
def Pads (shell other : Shell) : Prop :=
  ∃ before, IsBlank before ∧ other = { shell with pending := before ++ shell.pending } ∧
    (shell.pending = "" → before = "")

theorem Pads.refl (shell : Shell) : shell.Pads shell :=
  ⟨"", nofun, by rw [String.empty_append], fun _ => rfl⟩

theorem Pads.eq (h : shell.Pads other) (hpending : shell.pending = "") : other = shell := by
  obtain ⟨before, -, rfl, hbefore⟩ := h
  rw [hbefore hpending, String.empty_append]

theorem seemsComplete_pad {before : String} (h : IsBlank before) (text : String) :
    seemsComplete (before ++ text) = seemsComplete text := by
  rw [seemsComplete, seemsComplete, Text.trim_append h]

/-- White space before what is collected makes no difference to what is run and shown. -/
theorem enter_pad {before : String} (hbefore : IsBlank before) (hrunning : shell.isRunning = true)
    (hother : other = { shell with pending := other.pending })
    (hshell : shell.isCommand line = false) (hcommand : other.isCommand line = false)
    (hpad : collected other.pending [line] = before ++ collected shell.pending [line])
    (hsome : collected shell.pending [line] ≠ "") :
    (shell.enter line).1.Pads (other.enter line).1 ∧ (other.enter line).2 = (shell.enter line).2 := by
  have hotherRunning : other.isRunning = true := by
    rw [hother]
    exact hrunning
  rw [enter_of_not_isCommand hrunning hshell, enter_of_not_isCommand hotherRunning hcommand, hpad, hother,
    settle, settle, seemsComplete_pad hbefore, Text.trim_append hbefore]
  split
  · exact ⟨.refl _, rfl⟩
  · refine ⟨⟨before, hbefore, rfl, fun hempty => absurd hempty hsome⟩, ?_⟩
    have hboth : (before ++ collected shell.pending [line]).isEmpty = (collected shell.pending [line]).isEmpty := by
      rw [Bool.eq_iff_iff, String.isEmpty_iff, String.isEmpty_iff]
      exact iff_of_false (by simp [hsome]) hsome
    simp only [prompted, prompt, hboth]

theorem Pads.enter (h : shell.Pads other) (line : String) :
    (shell.enter line).1.Pads (other.enter line).1 ∧ (other.enter line).2 = (shell.enter line).2 := by
  by_cases hpending : shell.pending = ""
  -- where nothing is collected there is no white space before it
  · rw [h.eq hpending]
    exact ⟨.refl _, rfl⟩
  obtain ⟨before, hbefore, hother, -⟩ := id h
  by_cases hrunning : shell.isRunning = true
  -- where something is, no line is a command to either of the two
  · have hotherPending : other.pending = before ++ shell.pending := congrArg Shell.pending hother
    have hpadded : other.pending ≠ "" := by simp [hotherPending, hpending]
    have hpad : collected other.pending [line] = before ++ collected shell.pending [line] := by
      rw [collected_singleton, collected_singleton, if_neg (mt String.isEmpty_iff.1 hpending),
        if_neg (mt String.isEmpty_iff.1 hpadded), hotherPending]
      simp only [String.append_assoc]
    exact enter_pad hbefore hrunning (hotherPending ▸ hother) (isCommand_of_pending hpending line)
      (isCommand_of_pending hpadded line) hpad (collected_ne_empty (.inl hpending))
  · have hotherRunning : ¬ other.isRunning = true := by
      rw [hother]
      exact hrunning
    rw [Shell.enter, if_neg hrunning, Shell.enter, if_neg hotherRunning]
    exact ⟨h, rfl⟩

theorem Pads.enterAll (h : shell.Pads other) (lines : List String) :
    (shell.enterAll lines).1.Pads (other.enterAll lines).1 ∧
      (other.enterAll lines).2 = (shell.enterAll lines).2 := by
  induction lines generalizing shell other with
  | nil => exact ⟨h, rfl⟩
  | cons line lines ih =>
    obtain ⟨hnext, houtput⟩ := h.enter line
    obtain ⟨hlast, hmore⟩ := ih hnext
    exact ⟨hlast, congrArg₂ (· ++ ·) houtput hmore⟩

/-- White space before the first line makes no difference to it, if it is not a command. -/
theorem enter_after_blank {before : String} (hrunning : shell.isRunning = true) (hpending : shell.pending = "")
    (hbefore : IsBlank before) (hline : Text.trim line ≠ "") (hdot : (Text.trim line).startsWith "." = false) :
    (shell.enter line).1.Pads ({ shell with pending := before }.enter line).1 ∧
      ({ shell with pending := before }.enter line).2 = (shell.enter line).2 := by
  have hsome : line ≠ "" := by
    rintro rfl
    exact hline (Text.trim_of_isBlank nofun)
  obtain ⟨pad, hpad, hcollected⟩ : ∃ pad, IsBlank pad ∧ collected before [line] = pad ++ line := by
    rw [collected_singleton]
    split
    · exact ⟨"", nofun, String.empty_append.symm⟩
    · exact ⟨before ++ "\n", Text.isBlank_append hbefore Text.isBlank_newline, rfl⟩
  have hfirst : collected shell.pending [line] = line := by
    rw [hpending, collected_singleton]
    rfl
  exact enter_pad hpad hrunning rfl (isCommand_of_startsWith hdot) (isCommand_of_startsWith hdot)
    (hcollected.trans (by rw [hfirst])) (collected_ne_empty (.inr hsome))

/-- **Lines of white space before a line.** They are collected, and nothing but prompts is shown. A
line that begins with a dot is a command after them if and only if all of them are empty; otherwise it
is taken for SQL. A statement has the same output after them, however many lines follow, and leads to
the same state once it is complete. -/
theorem enterAll_after_blanks (hrunning : shell.isRunning = true) (hpending : shell.pending = "")
    (hblanks : ∀ blank ∈ blanks, IsBlank blank) :
    let after := (shell.enterAll blanks).1
    after = { shell with pending := joinLines (blanks.dropWhile (·.isEmpty)) } ∧
    (∀ piece ∈ (shell.enterAll blanks).2, piece = .text "...> " ∨ piece = shell.prompt) ∧
    (∀ line, (Text.trim line).startsWith "." = true →
      shell.isCommand line = true ∧ (after.isCommand line = true ↔ ∀ blank ∈ blanks, blank = "") ∧
      after.enter line = if ∀ blank ∈ blanks, blank = "" then shell.enter line
        else prompted (shell.settle (after.pending ++ "\n" ++ line))) ∧
    ∀ first rest, Text.trim first ≠ "" → (Text.trim first).startsWith "." = false →
      (after.enterAll (first :: rest)).2 = (shell.enterAll (first :: rest)).2 ∧
      (shell.enterAll (first :: rest)).1.Pads (after.enterAll (first :: rest)).1 ∧
      ((shell.enterAll (first :: rest)).1.pending = "" →
        (after.enterAll (first :: rest)).1 = (shell.enterAll (first :: rest)).1) := by
  obtain ⟨hstate, houtput⟩ := enterAll_blanks hrunning (hpending ▸ nofun) hblanks
  have hblank : IsBlank (blankText "" blanks) := isBlank_blankText nofun hblanks
  have hempty : blankText "" blanks = "" ↔ ∀ blank ∈ blanks, blank = "" := by
    rw [blankText_eq_empty_iff, eq_self_iff_true, true_and]
  rw [hpending] at hstate
  rw [hstate]
  refine ⟨rfl, ?_, fun line hdot => ?_, fun first rest hfirst hdot => ?_⟩
  · rwa [← hpending] at houtput
  · have hcommand : shell.isCommand line = true := by rw [isCommand, hpending, hdot]; rfl
    refine ⟨hcommand, ?_, ?_⟩
    · rw [isCommand, hdot, Bool.and_true, String.isEmpty_iff, hempty]
    · split
      next hall => rw [hempty.2 hall, ← hpending]
      next hsome =>
        have hnone : blankText "" blanks ≠ "" := mt hempty.1 hsome
        have htaken := @enter_of_not_isCommand { shell with pending := blankText "" blanks } line hrunning
          (isCommand_of_pending hnone line)
        rw [htaken, collected_singleton, if_neg (mt String.isEmpty_iff.1 hnone)]
        rfl
  · obtain ⟨hnext, hfirstOutput⟩ := enter_after_blank hrunning hpending hblank hfirst hdot
    obtain ⟨hlast, hmore⟩ := hnext.enterAll rest
    exact ⟨congrArg₂ (· ++ ·) hfirstOutput hmore, hlast, hlast.eq⟩

theorem enterAll_after_blanks_notes :
    let blanks := ["", " \t", ""]
    notes.isRunning = true ∧ notes.pending = "" ∧ (∀ blank ∈ blanks, IsBlank blank) ∧
    (notes.enterAll blanks).1 = { notes with pending := " \t\n" } ∧
    ((notes.enterAll blanks).1.enterAll ["USE notes;"]).1 = (notes.enterAll ["USE notes;"]).1 := by
  have hblanks : ∀ blank ∈ ["", " \t", ""], IsBlank blank := by decide +kernel
  obtain ⟨hstate, -, -, hstatement⟩ := @enterAll_after_blanks notes _ rfl rfl hblanks
  obtain ⟨-, -, hsame⟩ := hstatement "USE notes;" [] (by decide +kernel) (by decide +kernel)
  exact ⟨rfl, rfl, hblanks, hstate, hsame (by decide +kernel)⟩

/-- **After a line with a space, a command is taken for SQL**: no database is chosen, and the line is
collected. -/
theorem not_isCommand_after_blank :
    let shell : Shell := { notes with workspace := { notes.workspace with session := {} } }
    shell.isRunning = true ∧ shell.pending = "" ∧ IsBlank " " ∧
      (shell.enterAll [".use notes"]).1.workspace.session.database = some "notes" ∧
      (shell.enterAll [" ", ".use notes"]).1.workspace.session.database = none ∧
      (shell.enterAll [" ", ".use notes"]).1.pending = " \n.use notes" := by
  decide +kernel

end Shell

end RelStore
