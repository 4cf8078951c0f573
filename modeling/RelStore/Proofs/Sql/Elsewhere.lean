/-
Scripts wherever their texts stand.

A place says no more than where a text is refused. So a text has the same words at any place, and
words that are read as a script at one place are read as the same script at any (`HasScript`). White
space at the ends of a text does not count (`HasScript.trim`), and the script of lines one below the
other is that of the first lines and that of the others if a statement ends between them
(`HasScript.split`).
-/
import RelStore.Proofs.Sql.Scripts

namespace RelStore

theorem Text.exists_trimChars (text : List Char) :
    ∃ before after, (∀ c ∈ before, isBlank c = true) ∧ (∀ c ∈ after, isBlank c = true) ∧
      text = before ++ (trimChars text ++ after) := by
  refine ⟨text.takeWhile isBlank, ((text.dropWhile isBlank).reverse.takeWhile isBlank).reverse,
    fun c => List.mem_takeWhile_imp, fun c hc => List.mem_takeWhile_imp (List.mem_reverse.1 hc), ?_⟩
  rw [trimChars, ← List.reverse_append, List.takeWhile_append_dropWhile, List.reverse_reverse,
    List.takeWhile_append_dropWhile]

namespace Sql

open Text (isBlank)

variable {place : Position} {c : Char} {rest text : List Char} {piece : Piece}
  {tokens ts us : List Token} {read : List Statement}

/-! ## Words at other places -/

theorem pieceAt_elsewhere (h : pieceAt place c rest = .ok piece) (other : Position) :
    pieceAt other c rest = .ok piece := by
  have halike := pieceAt_readsAlike place other c rest
  rw [h] at halike
  generalize pieceAt other c rest = found at halike ⊢
  cases halike with
  | ok => rfl

theorem Scans.elsewhere (h : Scans place text tokens) (other : Position) :
    ∃ others, Scans other text others ∧ others.map Token.word = tokens.map Token.word := by
  induction h generalizing other with
  | done place => exact ⟨_, .done other, rfl⟩
  | @step place c rest piece tokens hpiece h ih =>
    obtain ⟨others, hothers, hwords⟩ := ih (other.after (c :: rest.take piece.extra))
    refine ⟨_, .step (pieceAt_elsewhere hpiece other) hothers, ?_⟩
    rw [List.map_append, List.map_append, hwords, Piece.tokensAt, Piece.tokensAt]
    cases piece.token <;> rfl

theorem Scans.ends (h : Scans place text tokens) :
    ∃ read, (∀ t ∈ read, t.kind ≠ .eof) ∧ tokens = read ++ [⟨.eof, "", place.after text⟩] := by
  obtain ⟨read, hread, rfl, -⟩ := tokensFrom_append (scans_iff.1 h)
  exact ⟨read, hread, rfl⟩

/-! ## Scripts at other places -/

/-- Two texts of the same words, whatever they are refused for. -/
def Retelling.elsewhere : Retelling where
  names := (· = ·)
  places _ _ := True
  causes _ _ := True
  key := id
  key_eq h := h
  function_eq h := aggregateName?_congr h
  checkName kind a b hab := by
    subst hab
    cases Sql.checkName kind a with
    | ok _ => exact .ok trivial
    | error _ => exact .error trivial
  expected _ _ _ _ := trivial
  misplaced _ _ _ _ _ := trivial
  outOfRange _ _ _ _ := trivial
  unsupported _ := trivial
  checkPaging clause value := by
    cases Sql.checkPaging clause value with
    | ok _ => exact .ok trivial
    | error _ => exact .error trivial

theorem told_of_word {t u : Token} (h : t.word = u.word) :
    t.Told Retelling.elsewhere.names Retelling.elsewhere.places u :=
  ⟨congrArg Word.kind h, fun _ => congrArg Word.lexeme h, fun _ => congrArg Word.lexeme h, trivial⟩

theorem retells_elsewhere {last last' : Token} (hts : ∀ t ∈ ts, t.kind ≠ .eof)
    (hlast : last.word = .last) (hlast' : last'.word = .last)
    (h : ts.map Token.word = us.map Token.word) :
    Retelling.elsewhere.Retells (ts ++ [last]) (us ++ [last']) := by
  induction ts generalizing us with
  | nil =>
    obtain rfl := List.map_eq_nil_iff.1 h.symm
    exact .last (told_of_word (hlast.trans hlast'.symm)) (congrArg Word.kind hlast)
  | cons t ts ih =>
    cases us with
    | nil => cases h
    | cons u us =>
      obtain ⟨hword, hwords⟩ := List.cons.inj h
      obtain ⟨ht, hts⟩ := List.forall_mem_cons.1 hts
      refine .more (told_of_word hword) ht (fun _ => ?_) (ih hts hwords)
      cases ts with
      | nil =>
        obtain rfl := List.map_eq_nil_iff.1 hwords.symm
        exact congrArg (some ·.lexeme) (hlast.trans hlast'.symm)
      | cons s ts =>
        cases us with
        | nil => cases hwords
        | cons v us => exact congrArg (some ·.lexeme) (List.cons.inj hwords).1

/-- **A script is made of words, wherever they stand.** -/
theorem script_elsewhere {last last' : Token} (hts : ∀ t ∈ ts, t.kind ≠ .eof)
    (hlast : last.word = .last) (hlast' : last'.word = .last)
    (h : ts.map Token.word = us.map Token.word) (hscript : Parse.script (ts ++ [last]) = .ok read) :
    Parse.script (us ++ [last']) = .ok read := by
  have hlength : (us ++ [last']).length = (ts ++ [last]).length := by
    simpa using (congrArg List.length h).symm
  have hfollows := Retelling.follows_statements (ts ++ [last]).length _ _
    (retells_elsewhere hts hlast hlast' h)
  rw [Parse.script, StateT.run'_eq] at hscript
  rw [Parse.script, hlength, StateT.run'_eq]
  obtain ⟨outcome, hrun, rfl⟩ := map_eq_ok.1 hscript
  rw [hrun] at hfollows
  generalize (Parse.statements (ts ++ [last]).length).run (us ++ [last']) = others at hfollows ⊢
  cases hfollows with
  | @ok _ other hsame =>
    have hmap : outcome.1.map (Statement.renamed id) = other.1.map (Statement.renamed id) :=
      Retelling.map_eq_of_forall₂ hsame.1
    rw [Statement.renamed_id, List.map_id, List.map_id] at hmap
    exact congrArg Except.ok hmap.symm

/-! ## Texts -/

/-- The text has these statements, at some place and so at any. -/
def HasScript (text : List Char) (read : List Statement) : Prop :=
  ∃ place tokens, Scans place text tokens ∧ Parse.script tokens = .ok read

theorem HasScript.scans (h : HasScript text read) (place : Position) :
    ∃ tokens, Scans place text tokens ∧ Parse.script tokens = .ok read := by
  obtain ⟨other, others, hothers, hscript⟩ := h
  obtain ⟨tokens, htokens, hwords⟩ := hothers.elsewhere place
  obtain ⟨us, hus, rfl⟩ := hothers.ends
  obtain ⟨ts, -, rfl⟩ := htokens.ends
  rw [List.map_append, List.map_append] at hwords
  exact ⟨_, htokens, script_elsewhere hus rfl rfl (List.append_inj_left' hwords.symm rfl) hscript⟩

theorem hasScript_iff {sql : String} : HasScript sql.toList read ↔ parseScript sql = .ok read := by
  constructor
  · intro h
    obtain ⟨tokens, htokens, hscript⟩ := h.scans .start
    exact bind_eq_ok.2 ⟨tokens, scans_iff.1 htokens, hscript⟩
  · intro h
    obtain ⟨tokens, htokens, hscript⟩ := bind_eq_ok.1 h
    exact ⟨.start, tokens, scans_iff.2 htokens, hscript⟩

theorem HasScript.after_blanks {blanks : List Char} (hblanks : ∀ c ∈ blanks, isBlank c = true)
    (h : HasScript (blanks ++ text) read) : HasScript text read := by
  obtain ⟨place, tokens, htokens, hscript⟩ := h
  exact ⟨_, _, htokens.after_blanks hblanks, hscript⟩

theorem HasScript.before_blanks {blanks : List Char} (hblanks : ∀ c ∈ blanks, isBlank c = true)
    (h : HasScript (text ++ blanks) read) : HasScript text read := by
  obtain ⟨place, tokens, htokens, hscript⟩ := h
  obtain ⟨ts, p, q, rfl, hts⟩ := htokens.before_blanks hblanks
  obtain ⟨us, hus, heq⟩ := htokens.ends
  obtain rfl := List.append_inj_left' heq rfl
  exact ⟨_, _, hts, script_elsewhere hus rfl rfl rfl hscript⟩

/-- A text is a script as it is without the white space at its ends. -/
theorem HasScript.trim (h : HasScript text read) : HasScript (Text.trimChars text) read := by
  obtain ⟨before, after, hbefore, hafter, htext⟩ := Text.exists_trimChars text
  rw [htext] at h
  exact (h.after_blanks hbefore).before_blanks hafter

theorem Scans.lexical (h : Scans place text tokens) : AreLexical tokens :=
  forall_tokensFrom (fun _ => True) (fun _ _ => trivial) (fun _ => rfl)
    (fun _ hpiece _ => lexical_of_tokenAt hpiece) trivial (scans_iff.1 h)

/-- Semicolons alone have no statements. -/
theorem HasScript.eq_nil (h : HasScript text read) (htext : ∀ c ∈ text, c = ';') : read = [] := by
  obtain ⟨place, tokens, htokens, hscript⟩ := h
  have hnil : Parse.script tokens = .ok [] := by
    clear hscript
    induction htokens with
    | done place => exact Parse.script_of_end rfl
    | @step place c rest piece tokens hpiece hrest ih =>
      obtain ⟨rfl, hmore⟩ := List.forall_mem_cons.1 htext
      obtain rfl := Except.ok.inj hpiece
      exact (Parse.script_of_semicolon rfl (hrest.step hpiece).lexical).trans (ih hmore)
  exact Except.ok.inj (hscript.symm.trans hnil)

/-- No statement starts with a dot. -/
theorem HasScript.head?_ne_dot (h : HasScript text read) : text.head? ≠ some '.' := by
  obtain ⟨place, tokens, htokens, hscript⟩ := h
  intro hdot
  cases htokens with
  | done => cases hdot
  | @step _ c rest piece tokens hpiece hrest =>
    obtain rfl := Option.some.inj hdot
    obtain rfl : ⟨some (.dot, "."), 0⟩ = piece := Except.ok.inj hpiece
    have hlexical := (hrest.step hpiece).lexical
    obtain ⟨stated, S, mid, heq, hstated, -⟩ := Parse.exists_spells (by nofun) (by nofun) hlexical hscript
    obtain ⟨word, others, hkeyword⟩ := hstated.words.exists_keyword
    obtain ⟨first, stated, rfl, hfirst, -⟩ := List.map_eq_cons_iff.1 hkeyword
    have hkind : Token.kind _ = first.kind := congrArg Token.kind (List.cons.inj heq).1
    cases hkind.trans (congrArg Word.kind hfirst)

/-! ## Lines one below the other -/

/-- A statement ends between some tokens and those after them. -/
def breakBetween (ts us : List Token) : Bool :=
  ts.getLast?.all (·.kind == .semicolon) ||
    us.head?.any fun next => next.kind == .semicolon || next.kind == .eof

/-- A statement ends between two texts one below the other: the first by itself can be read as
tokens, and it has none, or ends in a semicolon, or a semicolon or the end comes next. -/
def endsBetween (above below : String) : Bool :=
  match tokenize above, tokenize below with
  | .ok first, .ok others => breakBetween first.dropLast others
  | _, _ => false

theorem endsBetween_eq {above below : String} {first others : List Token}
    (habove : tokenize above = .ok first) (hbelow : tokenize below = .ok others) :
    endsBetween above below = breakBetween first.dropLast others := by
  rw [endsBetween, habove, hbelow]

/-- What ends is told by the kinds of the words. -/
theorem breakBetween_congr {ts' us' : List Token} (hts : ts.map Token.word = ts'.map Token.word)
    (hus : us.map Token.word = us'.map Token.word) : breakBetween ts us = breakBetween ts' us' := by
  have heq (ts us : List Token) : breakBetween ts us =
      ((ts.map Token.word).getLast?.all (·.kind == .semicolon) ||
        (us.map Token.word).head?.any fun next => next.kind == .semicolon || next.kind == .eof) := by
    rw [breakBetween, List.getLast?_map, List.head?_map, Option.all_map, Option.any_map]
    rfl
  rw [heq, heq, hts, hus]

/-- **Where a statement ends a script falls apart** into the one before and the one after. -/
theorem script_split {last : Token} (hts : ∀ t ∈ ts, t.kind ≠ .eof) (hlexical : AreLexical ts)
    (hlast : last.word = .last) (hus : AreLexical us) (hends : breakBetween ts us = true)
    (h : Parse.script (ts ++ us) = .ok read) :
    ∃ first others, Parse.script (ts ++ [last]) = .ok first ∧ Parse.script us = .ok others ∧
      read = first ++ others := by
  have hmem : last.word ∈ statementEnds := hlast ▸ List.mem_cons_self
  have hnil : AreLexical [] := List.forall_mem_nil _
  suffices hcut : ∃ before, Parse.script (ts ++ us) = (before ++ ·) <$> Parse.script us ∧
      Parse.script (ts ++ [last]) = (before ++ ·) <$> Parse.script [last] by
    obtain ⟨before, hall, hbefore⟩ := hcut
    obtain ⟨others, hothers, rfl⟩ := map_eq_ok.1 (hall.symm.trans h)
    have hnone : Parse.script [last] = .ok [] :=
      Parse.script_of_end (beq_iff_eq.2 (congrArg Word.kind hlast))
    rw [hnone] at hbefore
    exact ⟨before, others, hbefore.trans (congrArg Except.ok (List.append_nil before)), hothers, rfl⟩
  rcases (Bool.or_eq_true _ _).mp hends with hends | hends
  · rcases List.eq_nil_or_concat ts with rfl | ⟨before, semicolon, rfl⟩
    · refine ⟨[], ?_, ?_⟩
      · exact (congrFun Except.map_id _).symm
      · exact (congrFun Except.map_id _).symm
    · rw [List.concat_eq_append] at hts hlexical hends h ⊢
      rw [List.getLast?_append, List.getLast?_singleton] at hends
      have hkind : semicolon.kind = .semicolon := beq_iff_eq.1 hends
      have hbefore := areLexical_append.1 hlexical
      have hsemicolon := Parse.mem_statementEnds (areLexical_cons.1 hbefore.2).1 (.inr hkind)
      rw [List.append_assoc, List.singleton_append] at h ⊢
      obtain ⟨read, hread⟩ := Parse.script_cut (fun t ht => hts t (List.mem_append_left _ ht)) hbefore.1
        hsemicolon hus h
      -- what comes after the semicolon is read by itself
      have hrest {others : List Token} (hothers : AreLexical others) :
          Parse.script (before ++ semicolon :: others) = (read ++ ·) <$> Parse.script others := by
        rw [hread semicolon others hsemicolon hothers, Parse.script_of_semicolon hkind
          (areLexical_cons.2 ⟨Parse.lexical_of_ends hsemicolon, hothers⟩)]
      refine ⟨read, hrest hus, ?_⟩
      rw [List.append_assoc, List.singleton_append]
      exact hrest (areLexical_cons.2 ⟨Parse.lexical_of_ends hmem, hnil⟩)
  · cases us with
    | nil => cases hends
    | cons next us =>
      have hnext := Parse.mem_statementEnds (areLexical_cons.1 hus).1
        (by simpa [Bool.or_eq_true, or_comm] using hends)
      obtain ⟨before, hbefore⟩ := Parse.script_cut hts hlexical hnext (areLexical_cons.1 hus).2 h
      exact ⟨before, hbefore next us hnext (areLexical_cons.1 hus).2, hbefore last [] hmem hnil⟩

/-- **The script of lines one below the other** is that of the first and that of the others, if a
statement ends between them. -/
theorem HasScript.split {above below : String} (h : HasScript (above.toList ++ '\n' :: below.toList) read)
    (hends : endsBetween above below = true) : ∃ first others,
      parseScript above = .ok first ∧ parseScript below = .ok others ∧ read = first ++ others := by
  obtain ⟨tokens, htokens, hscript⟩ := h.scans .start
  cases habove : tokenize above with
  | error cause =>
    rw [endsBetween, habove] at hends
    cases hends
  | ok first =>
    obtain ⟨ts, hts, rfl, hmore⟩ := tokensFrom_append habove
    obtain ⟨us, hus, rfl⟩ := map_eq_ok.1 ((hmore _).symm.trans (scans_iff.1 htokens))
    replace hus := scans_iff.2 hus
    obtain ⟨others, hothers, hwords⟩ := hus.elsewhere .start
    rw [endsBetween_eq habove (scans_iff.1 hothers), List.dropLast_concat,
      breakBetween_congr rfl hwords] at hends
    have hlast : Token.word ⟨.eof, "", Position.start.after above.toList⟩ = .last := rfl
    obtain ⟨first, others, hfirst, hrest, rfl⟩ := script_split hts
      (areLexical_append.1 htokens.lexical).1 hlast hus.lexical hends hscript
    exact ⟨first, others, bind_eq_ok.2 ⟨_, habove, hfirst⟩, hasScript_iff.1 ⟨_, us, hus, hrest⟩, rfl⟩

theorem breakBetween_of_append {before : List Token} (h : breakBetween (before ++ ts) us = true) :
    breakBetween ts us = true := by
  rcases List.eq_nil_or_concat ts with rfl | ⟨ts, last, rfl⟩
  · rfl
  · rw [breakBetween, List.concat_eq_append] at h ⊢
    rwa [← List.append_assoc, List.getLast?_concat, ← List.getLast?_concat (l := ts)] at h

/-- A statement that ends below some lines ends there without them. -/
theorem endsBetween_below {first above below : String} {read : List Statement}
    (hfirst : parseScript first = .ok read) (h : endsBetween (first ++ "\n" ++ above) below = true) :
    endsBetween above below = true := by
  obtain ⟨tokens, hfirst, -⟩ := bind_eq_ok.1 hfirst
  obtain ⟨ts, hts, rfl, hmore⟩ := tokensFrom_append hfirst
  have htext : (first ++ "\n" ++ above).toList = first.toList ++ '\n' :: above.toList := by
    simp [String.toList_append]
  rw [endsBetween, tokenize, htext, hmore] at h
  cases habove : tokensFrom (Position.start.after (first.toList ++ ['\n'])) above.toList with
  | error cause =>
    rw [habove] at h
    cases h
  | ok us =>
    cases hbelow : tokenize below with
    | error cause =>
      rw [habove, hbelow] at h
      cases h
    | ok others =>
      rw [habove, hbelow] at h
      obtain ⟨us', hus', hwords⟩ := (scans_iff.2 habove).elsewhere .start
      obtain ⟨vs, -, rfl⟩ := (scans_iff.2 habove).ends
      obtain ⟨vs', -, rfl⟩ := hus'.ends
      rw [List.map_append, List.map_append] at hwords
      rw [endsBetween_eq (scans_iff.1 hus') hbelow, List.dropLast_concat,
        breakBetween_congr (List.append_inj_left' hwords rfl) rfl]
      have hbetween : breakBetween (ts ++ (vs ++ [_])).dropLast others = true := h
      rw [← List.append_assoc, List.dropLast_concat] at hbetween
      exact breakBetween_of_append hbetween

end Sql

end RelStore
