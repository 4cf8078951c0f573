/-
Scripts one below the other.

How far the bound of `Parse.statements` reaches does not matter once it is the number of tokens, so
that a script is read statement by statement (`Parse.script_eq`). With a semicolon between them, two
scripts are read one after the other (`Parse.script_append`). As no token of the first reaches over
a line break, this is so of their texts too (`parseScript_append`): if the second is refused, so are
both together, for the same cause further down.
-/
import RelStore.Proofs.Failing
import RelStore.Proofs.Sql.Parsed
import RelStore.Proofs.Sql.Retelling
import RelStore.Proofs.Sql.Scanning
import RelStore.Proofs.Sql.Semicolons

namespace RelStore.Sql

theorem IsStatement.exists_keyword {words : List Word} {S : Statement} (h : IsStatement words S) :
    ∃ first rest, words = .keyword first :: rest := by
  cases h <;> exact ⟨_, _, rfl⟩

theorem IsStatement.ne_nil {words : List Word} {S : Statement} (h : IsStatement words S) : words ≠ [] := by
  obtain ⟨_, _, rfl⟩ := h.exists_keyword
  nofun

theorem areLexical_append {ts us : List Token} :
    AreLexical (ts ++ us) ↔ AreLexical ts ∧ AreLexical us :=
  List.forall_mem_append

theorem areLexical_cons {t : Token} {ts : List Token} :
    AreLexical (t :: ts) ↔ t.word.Lexical ∧ AreLexical ts :=
  List.forall_mem_cons

namespace Parse

variable {α : Type} {p : Parse α} {tokens rest : List Token} {n m : Nat}

theorem run_ite {c : Prop} [Decidable c] {q : Parse α} :
    (if c then p else q).run tokens = if c then p.run tokens else q.run tokens := by
  split <;> rfl

/-- A reader leaves the end of what it is given. -/
theorem Takes.exists_append {outcome : List Word → α → List Word → Prop}
    (h : Takes (tokens.map Token.word) p outcome) (hlexical : AreLexical tokens) {a : α}
    (hrun : p.run tokens = .ok (a, rest)) : ∃ taken, tokens = taken ++ rest ∧
      (∀ token ∈ taken, token.kind ≠ .eof) ∧ AreLexical rest ∧
      outcome (taken.map Token.word) a (rest.map Token.word) := by
  obtain ⟨taken, heq, htaken, houtcome⟩ := h tokens a rest hlexical rfl hrun
  exact ⟨taken, heq, htaken, fun token htoken => hlexical token (heq ▸ List.mem_append_right _ htoken),
    houtcome⟩

/-! ## Statement by statement -/

/-- The next token is of the kind. -/
def atStart (kind : TokenKind) (tokens : List Token) : Bool :=
  (tokens.head?.getD endToken).kind == kind

@[simp] theorem atStart_cons (kind : TokenKind) (t : Token) (ts : List Token) :
    atStart kind (t :: ts) = (t.kind == kind) := rfl

theorem run_accept {kind : TokenKind} {t : Token} (h : t.kind = kind) (hkind : kind ≠ .eof)
    (ts : List Token) : (accept kind).run (t :: ts) = .ok (true, ts) := by
  have hrun : (accept kind).run (t :: ts) =
      (if t.kind == kind then (do advance; return true) else return false : Parse Bool).run (t :: ts) := rfl
  rw [hrun, if_pos (beq_iff_eq.2 h), run_bind_of_run (run_advance (h ▸ hkind) ts)]
  rfl

theorem run_accept_other {kind : TokenKind} {t : Token} (h : t.kind ≠ kind) (ts : List Token) :
    (accept kind).run (t :: ts) = .ok (false, t :: ts) := by
  have hrun : (accept kind).run (t :: ts) =
      (if t.kind == kind then (do advance; return true) else return false : Parse Bool).run (t :: ts) := rfl
  rw [hrun, if_neg (mt beq_iff_eq.1 h)]
  rfl

section

variable (others : List Token → Except Cause (List Statement))

/-- What a statement is followed by, with the reader of the statements after it. -/
def scriptAfter (first : Statement) (mid : List Token) : Except Cause (List Statement) :=
  if atStart .eof mid then (first :: ·) <$> others mid
  else (expectAs .semicolon "';' or end of input").run mid >>= fun ending =>
    (first :: ·) <$> others ending.2

/-- One round of `statements`, with the reader of the statements after it. -/
def scriptRound (tokens : List Token) : Except Cause (List Statement) :=
  if atStart .eof tokens then .ok []
  else if atStart .semicolon tokens then others tokens.tail
  else statement.run tokens >>= fun read => scriptAfter others read.1 read.2

end

theorem run'_statements_succ (n : Nat) (tokens : List Token) :
    (statements (n + 1)).run' tokens = scriptRound (statements n).run' tokens := by
  cases tokens with
  | nil => rfl
  | cons t ts =>
    rw [StateT.run'_eq, statements, run_bind_of_run (a := atStart .eof (t :: ts)) rfl, run_ite, scriptRound]
    by_cases hend : atStart .eof (t :: ts) = true
    · rw [if_pos hend, if_pos hend]
      rfl
    rw [if_neg hend, if_neg hend]
    by_cases hskip : atStart .semicolon (t :: ts) = true
    · have hkind : t.kind = .semicolon := beq_iff_eq.1 hskip
      rw [if_pos hskip, run_bind_of_run (run_accept hkind (by nofun) ts)]
      rfl
    have hkind : t.kind ≠ .semicolon := mt beq_iff_eq.2 hskip
    rw [if_neg hskip, run_bind_of_run (run_accept_other hkind ts), run_ite, if_neg Bool.false_ne_true,
      StateT.run_bind]
    cases statement.run (t :: ts) with
    | error cause => rfl
    | ok read =>
      obtain ⟨first, mid⟩ := read
      change _ = scriptAfter (statements n).run' first mid
      have hbind {γ δ : Type} (c : γ) (k : γ → Except Cause δ) : (Except.ok c >>= k) = k c := rfl
      rw [hbind, run_bind_of_run (a := atStart .eof mid) rfl, scriptAfter]
      extract_lets others
      have hothers (rest : List Token) :
          (·.1) <$> (others ()).run rest = (first :: ·) <$> (statements n).run' rest := by
        rw [StateT.run_bind, StateT.run'_eq]
        cases (statements n).run rest <;> rfl
      rw [run_ite]
      by_cases hend : atStart .eof mid = true
      · rw [if_pos hend, if_neg (by rw [hend]; nofun), hothers]
      · rw [if_neg hend, if_pos (by rw [Bool.eq_false_iff.2 hend]; rfl), StateT.run_bind]
        cases (expectAs .semicolon "';' or end of input").run (first, mid).2 with
        | error cause => rfl
        | ok ending => exact hothers ending.2

theorem scriptRound_congr {f g : List Token → Except Cause (List Statement)} (hlexical : AreLexical tokens)
    (h : ∀ rest, AreLexical rest → rest.length < tokens.length → f rest = g rest) :
    scriptRound f tokens = scriptRound g tokens := by
  cases tokens with
  | nil => rfl
  | cons t ts =>
    refine if_congr Iff.rfl rfl (if_congr Iff.rfl ?_ ?_)
    · exact h ts (areLexical_cons.1 hlexical).2 (Nat.lt_succ_self _)
    cases hread : statement.run (t :: ts) with
    | error cause => rfl
    | ok read =>
      obtain ⟨first, mid⟩ := read
      obtain ⟨stated, heq, -, hmid, hwords⟩ := takes_statement.exists_append hlexical hread
      have hlength := congrArg List.length heq
      have hpos := List.length_pos_of_ne_nil hwords.ne_nil
      rw [List.length_append] at hlength
      rw [List.length_map] at hpos
      refine if_congr Iff.rfl (congrArg _ (h mid hmid (by omega))) ?_
      cases hending : (expectAs .semicolon "';' or end of input").run mid with
      | error cause => rfl
      | ok ending =>
        obtain ⟨taken, rfl, -, hrest, -⟩ := (takes_sign (isSign (by decide)) _).exists_append hmid hending
        rw [List.length_append] at hlength
        exact congrArg ((first :: ·) <$> ·) (h ending.2 hrest (by omega))

/-- Each statement takes a token, so that the tokens bound the statements. -/
theorem run'_statements_eq (hlexical : AreLexical tokens) (hn : tokens.length ≤ n)
    (hm : tokens.length ≤ m) : (statements n).run' tokens = (statements m).run' tokens := by
  induction n generalizing m tokens with
  | zero =>
    obtain rfl := List.eq_nil_of_length_eq_zero (Nat.le_zero.1 hn)
    cases m <;> rfl
  | succ n ih =>
    cases m with
    | zero =>
      obtain rfl := List.eq_nil_of_length_eq_zero (Nat.le_zero.1 hm)
      rfl
    | succ m =>
      rw [run'_statements_succ, run'_statements_succ]
      exact scriptRound_congr hlexical fun rest hrest hlength => ih hrest (by omega) (by omega)

/-- The statements of some tokens. -/
def script (tokens : List Token) : Except Cause (List Statement) :=
  (statements tokens.length).run' tokens

/-- **A script is read statement by statement.** -/
theorem script_eq (hlexical : AreLexical tokens) : script tokens = scriptRound script tokens := by
  cases tokens with
  | nil => rfl
  | cons t ts =>
    rw [script, List.length_cons, run'_statements_succ]
    exact scriptRound_congr hlexical fun rest hrest hlength =>
      run'_statements_eq hrest (Nat.le_of_lt_succ hlength) (Nat.le_refl _)

theorem script_of_end (h : atStart .eof tokens = true) : script tokens = .ok [] := by
  cases tokens with
  | nil => rfl
  | cons t ts => rw [script, List.length_cons, run'_statements_succ, scriptRound, if_pos h]

/-! ## Scripts one after the other -/

section

variable {t last semicolon : Token} {ts us : List Token} {first : Statement} {read : List Statement}

theorem script_of_semicolon (ht : t.kind = .semicolon) (hlexical : AreLexical (t :: ts)) :
    script (t :: ts) = script ts := by
  rw [script_eq hlexical, scriptRound, atStart_cons, atStart_cons, ht]
  rfl

theorem script_of_other (heof : t.kind ≠ .eof) (hsemicolon : t.kind ≠ .semicolon)
    (hlexical : AreLexical (t :: ts)) :
    script (t :: ts) = statement.run (t :: ts) >>= fun read => scriptAfter script read.1 read.2 := by
  rw [script_eq hlexical, scriptRound, atStart_cons, atStart_cons, beq_false_of_ne heof,
    beq_false_of_ne hsemicolon, if_neg Bool.false_ne_true, if_neg Bool.false_ne_true]

/-- A script goes on after a statement as it does by itself. -/
theorem scriptAfter_of_ends (ht : t.word ∈ statementEnds) (hlexical : AreLexical (t :: ts)) :
    scriptAfter script first (t :: ts) = (first :: ·) <$> script (t :: ts) := by
  rcases List.mem_cons.1 ht with hlast | hsemicolon
  · exact if_pos (beq_iff_eq.2 (congrArg Word.kind hlast))
  · have hkind : t.kind = .semicolon := congrArg Word.kind (List.mem_singleton.1 hsemicolon)
    have hending : (expectAs .semicolon "';' or end of input").run (t :: ts) = .ok (t, ts) := by
      rw [← hkind]
      exact run_expectAs (by rw [hkind]; nofun) _ ts
    rw [scriptAfter, atStart_cons, hkind, hending, script_of_semicolon hkind hlexical]
    rfl

theorem lexical_of_ends (ht : t.word ∈ statementEnds) : t.word.Lexical := by
  rcases List.mem_cons.1 ht with hword | hword
  · exact hword ▸ rfl
  · exact List.mem_singleton.1 hword ▸ rfl

theorem mem_statementEnds (hlexical : t.word.Lexical) (hkind : t.kind = .eof ∨ t.kind = .semicolon) :
    t.word ∈ statementEnds := by
  rcases hkind with heof | hsemicolon
  · refine List.mem_cons.2 (.inl (Word.eq_sign heof ?_))
    rwa [Word.Lexical, show t.word.kind = .eof from heof] at hlexical
  · exact List.mem_cons_of_mem _ (List.mem_singleton.2
      (eq_sign_of_lexical (isSign (by decide)) hlexical hsemicolon))

/-- A statement of a script is followed by a semicolon, or by the end. -/
theorem ends_of_scriptAfter (hlexical : t.word.Lexical) (h : scriptAfter script first (t :: ts) = .ok read) :
    t.word ∈ statementEnds := by
  refine mem_statementEnds hlexical (or_iff_not_imp_left.2 fun heof => ?_)
  by_contra hkind
  rw [scriptAfter, atStart_cons, beq_false_of_ne heof, if_neg Bool.false_ne_true] at h
  obtain ⟨ending, hending, -⟩ := bind_eq_ok.1 h
  have hrun : (expectAs .semicolon "';' or end of input").run (t :: ts) =
      (if t.kind = .semicolon then (do advance; return t)
        else failExpecting "';' or end of input").run (t :: ts) := rfl
  rw [hrun, if_neg hkind] at hending
  cases hending

theorem areLexical_ends (hts : AreLexical ts) (ht : t.word ∈ statementEnds) (hus : AreLexical us) :
    AreLexical (ts ++ t :: us) :=
  areLexical_append.2 ⟨hts, areLexical_cons.2 ⟨lexical_of_ends ht, hus⟩⟩

/-- The tokens are those of a statement. -/
structure Spells (stated : List Token) (S : Statement) : Prop where
  words : IsStatement (stated.map Token.word) S
  kind_ne : ∀ token ∈ stated, token.kind ≠ .eof

/-- A script that starts with neither the end nor a semicolon starts with a statement. -/
theorem exists_spells (heof : t.kind ≠ .eof) (hsemicolon : t.kind ≠ .semicolon)
    (hlexical : AreLexical (t :: ts)) (h : script (t :: ts) = .ok read) :
    ∃ stated S mid, t :: ts = stated ++ mid ∧ Spells stated S ∧ scriptAfter script S mid = .ok read := by
  rw [script_of_other heof hsemicolon hlexical] at h
  obtain ⟨⟨S, mid⟩, hread, hafter⟩ := bind_eq_ok.1 h
  obtain ⟨stated, heq, hstated, -, hwords⟩ := takes_statement.exists_append hlexical hread
  exact ⟨stated, S, mid, heq, ⟨hwords, hstated⟩, hafter⟩

namespace Spells

variable {stated mid : List Token} {S : Statement}

theorem length_pos (h : Spells stated S) : 0 < stated.length := by
  simpa using List.length_pos_of_ne_nil h.words.ne_nil

theorem kind_ne_semicolon (h : Spells stated S) : ∀ token ∈ stated, token.kind ≠ .semicolon :=
  fun token htoken => h.words.noSemicolon token.word (List.mem_map_of_mem htoken)

/-- Whatever may follow a statement comes after all of its tokens. -/
theorem exists_append (h : Spells stated S) (ht : t.word ∈ statementEnds)
    (heq : ts ++ t :: us = stated ++ mid) : ∃ rest, ts = stated ++ rest ∧ mid = rest ++ t :: us := by
  have hnot : t ∉ stated := fun hmem => by
    rcases List.mem_cons.1 ht with hword | hword
    · exact h.kind_ne t hmem (congrArg Word.kind hword)
    · exact h.kind_ne_semicolon t hmem (congrArg Word.kind (List.mem_singleton.1 hword))
  rcases List.append_eq_append_iff.1 heq with ⟨rest, rfl, hrest⟩ | ⟨rest, rfl, rfl⟩
  · cases rest with
    | nil => exact ⟨[], by simp, by simpa using hrest.symm⟩
    | cons token rest =>
      obtain ⟨rfl, -⟩ := List.cons.inj hrest
      exact absurd (List.mem_append_right _ List.mem_cons_self) hnot
  · exact ⟨rest, rfl, rfl⟩

/-- A statement that stands first, before what may follow one, is the first of the script. -/
theorem script_eq (h : Spells stated S) (ht : t.word ∈ statementEnds)
    (hlexical : AreLexical (stated ++ t :: us)) :
    script (stated ++ t :: us) = (S :: ·) <$> script (t :: us) := by
  have hstatement := reads_statement h.words stated (t :: us) rfl ht
  have hus := (areLexical_append.1 hlexical).2
  cases stated with
  | nil => exact absurd rfl h.words.ne_nil
  | cons token stated =>
    rw [List.cons_append] at hlexical hstatement ⊢
    rw [script_of_other (h.kind_ne token List.mem_cons_self) (h.kind_ne_semicolon token List.mem_cons_self)
      hlexical, hstatement]
    exact scriptAfter_of_ends ht hus

end Spells

/-- The statements of some tokens before what may follow a statement, whatever comes there. -/
def ReadBefore (ts : List Token) (before : List Statement) : Prop :=
  ∀ other others, other.word ∈ statementEnds → AreLexical others →
    script (ts ++ other :: others) = (before ++ ·) <$> script (other :: others)

theorem readBefore_nil : ReadBefore [] [] := fun other others _ _ => by
  rw [List.nil_append]
  cases script (other :: others) <;> rfl

theorem ReadBefore.skip {before : List Statement} (h : ReadBefore ts before)
    (hskip : t.kind = .semicolon) (hlexical : AreLexical (t :: ts)) : ReadBefore (t :: ts) before :=
  fun other others hother hothers => by
    have happended := areLexical_ends hlexical hother hothers
    rw [List.cons_append] at happended ⊢
    rw [script_of_semicolon hskip happended]
    exact h other others hother hothers

theorem Spells.readBefore {stated : List Token} {S : Statement} (h : Spells stated S)
    (hlexical : AreLexical stated) : ReadBefore stated [S] := fun _ _ hother hothers =>
  h.script_eq hother (areLexical_ends hlexical hother hothers)

theorem Spells.before {stated : List Token} {S : Statement} {before : List Statement}
    (h : Spells stated S) (hbefore : ReadBefore (t :: ts) before) (ht : t.word ∈ statementEnds)
    (hlexical : AreLexical (stated ++ t :: ts)) : ReadBefore (stated ++ t :: ts) (S :: before) :=
  fun other others hother hothers => by
    have happended := areLexical_ends hlexical hother hothers
    rw [List.append_assoc, List.cons_append] at happended ⊢
    rw [h.script_eq ht happended, ← List.cons_append, hbefore other others hother hothers]
    cases script (other :: others) <;> rfl

/-- **A script can be cut at its end and at each semicolon.** Whatever follows there, the statements
before it are the same. -/
theorem script_cut (hts : ∀ t ∈ ts, t.kind ≠ .eof) (hlexical : AreLexical ts)
    (ht : t.word ∈ statementEnds) (hus : AreLexical us) (h : script (ts ++ t :: us) = .ok read) :
    ∃ before, ReadBefore ts before := by
  induction hlength : ts.length using Nat.strong_induction_on generalizing ts read with
  | _ n ih =>
    cases ts with
    | nil => exact ⟨[], readBefore_nil⟩
    | cons first ts =>
      obtain ⟨hfirst, hothers⟩ := List.forall_mem_cons.1 hts
      have htokens := areLexical_ends hlexical ht hus
      rw [List.cons_append] at h htokens
      by_cases hskip : first.kind = .semicolon
      · rw [script_of_semicolon hskip htokens] at h
        obtain ⟨before, hbefore⟩ := ih ts.length (hlength ▸ Nat.lt_succ_self _) hothers
          (areLexical_cons.1 hlexical).2 h rfl
        exact ⟨before, hbefore.skip hskip hlexical⟩
      · obtain ⟨stated, S, mid, heq, hstated, hafter⟩ := exists_spells hfirst hskip htokens h
        have hsplit : (first :: ts) ++ t :: us = stated ++ mid := heq
        obtain ⟨rest, hrest, rfl⟩ := hstated.exists_append ht hsplit
        rw [hrest] at hlexical hts hlength ⊢
        cases rest with
        | nil =>
          rw [List.append_nil] at hlexical ⊢
          exact ⟨[S], hstated.readBefore hlexical⟩
        | cons next rest =>
          have hmid := (areLexical_append.1 hlexical).2
          have hnext := ends_of_scriptAfter (areLexical_cons.1 hmid).1 hafter
          obtain ⟨others, hothers, -⟩ :=
            map_eq_ok.1 ((scriptAfter_of_ends hnext (areLexical_ends hmid ht hus)).symm.trans hafter)
          have hpos := hstated.length_pos
          rw [List.length_append] at hlength
          obtain ⟨before, hbefore⟩ := ih (next :: rest).length (by omega)
            (fun token hmem => hts token (List.mem_append_right _ hmem)) hmid hothers rfl
          exact ⟨S :: before, hstated.before hbefore hnext hlexical⟩

/-- Two scripts with a semicolon between them are read one after the other. -/
theorem script_append (hts : ∀ t ∈ ts, t.kind ≠ .eof) (hlexical : AreLexical ts)
    (hlast : last.word = .last) (hsemicolon : semicolon.word = .sign .semicolon) (hus : AreLexical us)
    (h : script (ts ++ [last]) = .ok read) :
    script (ts ++ semicolon :: us) = (read ++ ·) <$> script us := by
  have hends : last.word ∈ statementEnds := hlast ▸ List.mem_cons_self
  have hnext : semicolon.word ∈ statementEnds :=
    hsemicolon ▸ List.mem_cons_of_mem _ (List.mem_singleton.2 rfl)
  have hnil : AreLexical [] := List.forall_mem_nil _
  obtain ⟨before, hbefore⟩ := script_cut hts hlexical hends hnil h
  have hread := hbefore last [] hends hnil
  rw [h, script_of_end (by rw [atStart_cons, show last.kind = .eof from congrArg Word.kind hlast]; rfl)] at hread
  obtain rfl : read = before ++ [] := Except.ok.inj hread
  rw [List.append_nil, hbefore semicolon us hnext hus, script_of_semicolon (congrArg Word.kind hsemicolon)
    (areLexical_cons.2 ⟨lexical_of_ends hnext, hus⟩)]

end

end Parse

/-! ## Texts further down -/

section

variable (units breaks : Nat)

/-- A check that is not about places fails for the same cause anywhere. -/
theorem paired_below {check : Except Cause Unit}
    (h : FailsOnly (fun cause => cause.below units breaks = cause) check) :
    Paired (fun cause other => other = cause.below units breaks) (fun _ _ => True) check check := by
  cases check with
  | ok _ => exact .ok trivial
  | error cause => exact .error (h cause rfl).symm

/-- What is not supported has no place. -/
theorem unsupported_below (feature : Feature) :
    .unsupported feature = (Cause.unsupported feature).below units breaks := rfl

/-- A text that stands below another. -/
def Retelling.below : Retelling where
  names := (· = ·)
  places p q := q = p.below units breaks
  causes cause other := other = cause.below units breaks
  key := id
  key_eq h := h
  function_eq h := aggregateName?_congr h
  checkName kind a b hab := by
    subst hab
    refine paired_below units breaks ?_
    exact .ite (fun _ => .error rfl) fun _ => .ite (fun _ => .error rfl) fun _ =>
      .ite (fun _ => .error rfl) fun _ => .ite (fun _ => .error rfl) fun _ => .ok ()
  expected what t u h := by
    have hfound : t.found = u.found := by
      rw [Token.found, Token.found, ← h.kind]
      by_cases hkind : t.kind = .identifier
      · rw [h.name hkind]
      · rw [h.lexeme hkind]
    rw [← hfound, h.place]
    rfl
  misplaced fn clause p q h := by rw [h]; rfl
  outOfRange lexeme p q h := by rw [h]; rfl
  unsupported feature := unsupported_below units breaks feature
  checkPaging clause value :=
    paired_below units breaks (.ite (fun _ => .error rfl) fun _ => .ite (fun _ => .error rfl) fun _ => .ok ())

theorem told_below (t : Token) :
    t.Told (Retelling.below units breaks).names (Retelling.below units breaks).places
      (t.below units breaks) :=
  ⟨rfl, fun _ => rfl, fun _ => rfl, rfl⟩

theorem areLexical_below {tokens : List Token} (h : AreLexical tokens) :
    AreLexical (tokens.map (Token.below units breaks)) :=
  List.forall_mem_map.2 h

theorem retells_below {tokens : List Token} {last : Token} (htokens : ∀ t ∈ tokens, t.kind ≠ .eof)
    (hlast : last.kind = .eof) : (Retelling.below units breaks).Retells (tokens ++ [last])
      ((tokens ++ [last]).map (Token.below units breaks)) := by
  induction tokens with
  | nil => exact .last (told_below units breaks last) hlast
  | cons t tokens ih =>
    obtain ⟨ht, htokens⟩ := List.forall_mem_cons.1 htokens
    refine .more (told_below units breaks t) ht (fun _ => ?_) (ih htokens)
    cases tokens <;> rfl

/-- **Further down, tokens are read as the same script, or they are refused there.** -/
theorem script_below {tokens : List Token} {last : Token} (htokens : ∀ t ∈ tokens, t.kind ≠ .eof)
    (hlast : last.kind = .eof) : Parse.script ((tokens ++ [last]).map (Token.below units breaks)) =
      (Parse.script (tokens ++ [last])).mapError (Cause.below units breaks) := by
  have hfollows := Retelling.follows_statements (tokens ++ [last]).length _ _
    (retells_below units breaks htokens hlast)
  rw [Parse.script, Parse.script, List.length_map, StateT.run'_eq, StateT.run'_eq]
  generalize (Parse.statements (tokens ++ [last]).length).run (tokens ++ [last]) = x at hfollows ⊢
  generalize (Parse.statements (tokens ++ [last]).length).run _ = y at hfollows ⊢
  cases hfollows with
  | @ok x y h =>
    have hsame : x.1.map (Statement.renamed id) = y.1.map (Statement.renamed id) :=
      Retelling.map_eq_of_forall₂ h.1
    rw [Statement.renamed_id, List.map_id, List.map_id] at hsame
    exact congrArg Except.ok hsame.symm
  | error h => exact congrArg Except.error h

end

/-! ## Texts one below the other -/

theorem parseScript_eq (sql : String) : parseScript sql = tokenize sql >>= Parse.script := rfl

/-- **Scripts with a semicolon between them on a line of its own are read one after the other.** If
the second is refused, so are both together, for the same cause further down. -/
theorem parseScript_append {a b : String} {read : List Statement} (h : parseScript a = .ok read) :
    parseScript (a ++ "\n;\n" ++ b) = ((parseScript b).map (read ++ ·)).mapError
      (Cause.below (Text.length (a ++ "\n;\n")) ((a ++ "\n;\n").toList.count '\n')) := by
  obtain ⟨tokens, htokens, hscript⟩ := bind_eq_ok.1 h
  obtain ⟨first, hfirst, rfl, happend⟩ := tokensFrom_append htokens
  have hlexical : AreLexical first := (areLexical_append.1 (lexical_tokenize htokens)).1
  -- the semicolon stands on a line of its own between the texts
  have habove : (a ++ "\n;\n").toList = a.toList ++ ['\n'] ++ [';'] ++ ['\n'] := by
    simp [String.toList_append]
  have hplace : ((Position.start.after (a.toList ++ ['\n'])).after [';']).after ['\n'] =
      Position.start.below (Text.length (a ++ "\n;\n")) ((a ++ "\n;\n").toList.count '\n') := by
    rw [Text.length, Text.units, habove, ← Position.after_newline, Position.after_append _ (_ ++ [';']),
      Position.after_append _ (_ ++ ['\n'])]
  have htext : (a ++ "\n;\n" ++ b).toList = a.toList ++ '\n' :: ';' :: '\n' :: b.toList := by
    simp [String.toList_append]
  generalize Text.length (a ++ "\n;\n") = units, (a ++ "\n;\n").toList.count '\n' = breaks at hplace ⊢
  rw [parseScript_eq, tokenize, htext, happend, tokensFrom_semicolon, tokensFrom_newline, hplace,
    tokensFrom_below, parseScript_eq, tokenize]
  cases hothers : tokensFrom .start b.toList with
  | error cause => rfl
  | ok others =>
    obtain ⟨others, hend, rfl, -⟩ := tokensFrom_append hothers
    have hus := areLexical_below units breaks (lexical_tokenize hothers)
    let semicolon : Token := ⟨.semicolon, ";", Position.start.after (a.toList ++ ['\n'])⟩
    have hsemicolon : semicolon.word = .sign .semicolon := rfl
    refine (Parse.script_append hfirst hlexical rfl hsemicolon hus hscript).trans ?_
    rw [script_below _ _ hend rfl]
    change _ = ((Parse.script (others ++ _)).map _).mapError _
    cases Parse.script (others ++ [⟨.eof, "", Position.start.after b.toList⟩]) <;> rfl

end RelStore.Sql
