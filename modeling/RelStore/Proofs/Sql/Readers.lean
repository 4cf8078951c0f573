/-
What readers of tokens take, and what they read.

There are two judgements on a reader. `Takes before p outcome` is about its successes: on tokens with
the words `before`, the words that it takes, what it gives and the words that it leaves stand in
the relation `outcome`. `Reads p words a follow` says that it does succeed: on these words
it gives `a` and takes no others, as long as the words after them satisfy `follow`. Both are put
together as readers are, and they are looked up in the definitions for readers of one word only.
-/
import RelStore.Proofs.Success
import RelStore.Proofs.Sql.Grammar
import RelStore.Sql.Parse.Statement

namespace RelStore.Sql

/-! ## Words of tokens -/

namespace Word

/-- The word at the end of every text. -/
def last : Word := ⟨.eof, ""⟩

/-- The first of some words; the end has no words after it. -/
def first (words : List Word) : Word := words.head?.getD last

/-- The word after the first, or the first if it is alone. -/
def second : List Word → Word
  | _ :: word :: _ => word
  | words => first words

/-- The word is a sign: its kind says it all. -/
theorem eq_sign {word : Word} {kind : TokenKind} (hkind : word.kind = kind)
    (hlexeme : word.lexeme = kind.sign) : word = sign kind := by
  rw [sign, ← hkind, ← hlexeme.trans (congrArg _ hkind.symm)]

end Word

/-- A bound on a list with a first item leaves one for the others. -/
theorem exists_of_length_cons_le {α : Type} {a : α} {items : List α} {bound : Nat}
    (h : (a :: items).length ≤ bound) : ∃ n, bound = n + 1 ∧ items.length ≤ n := by
  rw [List.length_cons] at h
  exact ⟨bound - 1, by omega, by omega⟩

/-- The first of the words that follow is as it should be. -/
def Followed (next : Word → Prop) : List Word → Prop
  | word :: _ => next word
  | [] => False

theorem Followed.mono {P Q : Word → Prop} (h : ∀ word, P word → Q word) (words : List Word)
    (hwords : Followed P words) : Followed Q words := by
  cases words with
  | nil => exact hwords
  | cons word _ => exact h word hwords

/-- All words of the tokens can be words of a text. -/
def AreLexical (tokens : List Token) : Prop := ∀ token ∈ tokens, token.word.Lexical

theorem Token.isWord_iff {token : Token} {word : String} :
    token.isWord word = true ↔ token.word = .keyword word := by
  rw [isWord, Bool.and_eq_true, beq_iff_eq, beq_iff_eq, Token.word, Word.keyword, Word.mk.injEq]

theorem Listed.length_le {α : Type} {fact : List Word → α → Prop} {words : List Word}
    {items : List α} (h : Listed fact words items) : items.length ≤ words.length + 1 := by
  induction h with
  | one h => exact Nat.le_add_left _ _
  | more h hrest ih =>
    rw [List.length_cons, List.length_append, List.length_cons]
    omega

namespace Parse

variable {α β : Type} {p : Parse α} {f : α → Parse β} {tokens rest : List Token} {a : α} {b : β}
  {words others : List Word}

theorem run_bind_eq_ok : (p >>= f).run tokens = .ok (b, rest) ↔
    ∃ a mid, p.run tokens = .ok (a, mid) ∧ (f a).run mid = .ok (b, rest) := by
  rw [StateT.run_bind, bind_eq_ok]
  exact ⟨fun ⟨⟨a, mid⟩, h⟩ => ⟨a, mid, h⟩, fun ⟨a, mid, h⟩ => ⟨(a, mid), h⟩⟩

theorem run_bind_of_run {mid : List Token} (h : p.run tokens = .ok (a, mid)) :
    (p >>= f).run tokens = (f a).run mid := by
  rw [StateT.run_bind, h]
  rfl

theorem word_peek (tokens : List Token) :
    (tokens.head?.getD endToken).word = Word.first (tokens.map Token.word) := by
  cases tokens <;> rfl

theorem run_peekSecond (tokens : List Token) : ∃ token,
    peekSecond.run tokens = .ok (token, tokens) ∧ token.word = Word.second (tokens.map Token.word) := by
  match tokens with
  | _ :: second :: _ => exact ⟨second, rfl, rfl⟩
  | [last] => exact ⟨last, rfl, rfl⟩
  | [] => exact ⟨endToken, rfl, rfl⟩

/-! ## What readers take -/

/-- The words that a reader takes, what it gives and the words that it leaves then, when it
succeeds on tokens with the words `before`. It does not take the end. -/
def Takes (before : List Word) (p : Parse α) (outcome : List Word → α → List Word → Prop) : Prop :=
  ∀ tokens a rest, AreLexical tokens → tokens.map Token.word = before →
    p.run tokens = .ok (a, rest) → ∃ taken, tokens = taken ++ rest ∧
      (∀ token ∈ taken, token.kind ≠ .eof) ∧ outcome (taken.map Token.word) a (rest.map Token.word)

section

variable {before : List Word} {outcome : List Word → α → List Word → Prop}
  {final : List Word → β → List Word → Prop}

theorem Takes.pure (h : outcome [] a before) : Takes before (pure a) outcome := by
  intro tokens _ _ _ hbefore hrun
  obtain ⟨rfl, rfl⟩ := Prod.mk.inj (Except.ok.inj hrun)
  exact ⟨[], rfl, nofun, hbefore ▸ h⟩

theorem Takes.bind (hp : Takes before p outcome)
    (hf : ∀ words a mid, outcome words a mid → Takes mid (f a) fun others => final (words ++ others)) :
    Takes before (p >>= f) final := by
  intro tokens b rest hlexical hbefore hrun
  obtain ⟨a, mid, ha, hb⟩ := run_bind_eq_ok.1 hrun
  obtain ⟨taken, rfl, htaken, houtcome⟩ := hp tokens a mid hlexical hbefore ha
  have hmid : AreLexical mid := fun token h => hlexical token (List.mem_append_right _ h)
  obtain ⟨more, rfl, hmore, hfinal⟩ := hf _ a _ houtcome mid b rest hmid rfl hb
  exact ⟨taken ++ more, by rw [List.append_assoc], List.forall_mem_append.2 ⟨htaken, hmore⟩,
    by rwa [List.map_append]⟩

/-- What is read last is made into what is given. -/
theorem Takes.gives {g : α → β} (hp : Takes before p outcome)
    (h : ∀ words a mid, outcome words a mid → final words (g a) mid) :
    Takes before (p >>= fun a => Pure.pure (g a)) final :=
  hp.bind fun words a mid houtcome => .pure (by rw [List.append_nil]; exact h words a mid houtcome)

theorem Takes.mono {weaker : List Word → α → List Word → Prop} (h : Takes before p outcome)
    (himp : ∀ words a mid, outcome words a mid → weaker words a mid) : Takes before p weaker := by
  intro tokens a rest hlexical hbefore hrun
  obtain ⟨taken, heq, htaken, houtcome⟩ := h tokens a rest hlexical hbefore hrun
  exact ⟨taken, heq, htaken, himp _ _ _ houtcome⟩

theorem Takes.fails (what : String) : Takes before (failExpecting (α := α) what) outcome := by
  intro tokens a rest _ _ hrun
  cases hrun

theorem Takes.throws (cause : Cause) : Takes before (throw cause : Parse α) outcome := by
  intro tokens a rest _ _ hrun
  cases hrun

/-- Nothing follows a failure. -/
theorem Takes.failsBefore (what : String) : Takes before (failExpecting what >>= f) final := by
  intro tokens a rest _ _ hrun
  cases hrun

theorem Takes.throwsBefore (cause : Cause) : Takes before (throw cause >>= f) final := by
  intro tokens a rest _ _ hrun
  cases hrun

theorem Takes.ite {c : Prop} [Decidable c] {q : Parse α} (hp : c → Takes before p outcome)
    (hq : ¬ c → Takes before q outcome) : Takes before (if c then p else q) outcome := by
  split
  next h => exact hp h
  next h => exact hq h

/-- A look at the tokens. -/
theorem Takes.get {f : List Token → Parse β} (h : ∀ tokens, Takes before (f tokens) final) :
    Takes before (get >>= f) final :=
  fun tokens b rest hlexical hbefore hrun => h tokens tokens b rest hlexical hbefore hrun

/-- Texts have such words only. -/
theorem Takes.lexical (h : (Word.first before).Lexical → Takes before p outcome) :
    Takes before p outcome := by
  intro tokens a rest hlexical hbefore
  refine h ?_ tokens a rest hlexical hbefore
  subst hbefore
  cases tokens with
  | nil => rfl
  | cons token _ => exact hlexical token List.mem_cons_self

end

section

variable {before : List Word}

theorem takes_peek : Takes before peek fun words token mid =>
    words = [] ∧ token.word = Word.first before ∧ mid = before := by
  intro tokens token rest hlexical hbefore hrun
  obtain ⟨rfl, rfl⟩ := Prod.mk.inj (Except.ok.inj hrun)
  exact ⟨[], rfl, nofun, rfl, (word_peek tokens).trans (congrArg _ hbefore), hbefore⟩

theorem takes_peekSecond : Takes before peekSecond fun words token mid =>
    words = [] ∧ token.word = Word.second before ∧ mid = before := by
  intro tokens token rest hlexical hbefore hrun
  obtain ⟨second, hsecond, hword⟩ := run_peekSecond tokens
  obtain ⟨rfl, rfl⟩ := Prod.mk.inj (Except.ok.inj (hsecond.symm.trans hrun))
  exact ⟨[], rfl, nofun, rfl, hword.trans (congrArg _ hbefore), hbefore⟩

theorem takes_advance (h : (Word.first before).kind ≠ .eof) :
    Takes before advance fun words _ mid => words = [Word.first before] ∧ mid = before.tail := by
  intro tokens _ rest hlexical hbefore hrun
  obtain ⟨-, rfl⟩ := Prod.mk.inj (Except.ok.inj hrun)
  subst hbefore
  cases tokens with
  | nil => exact absurd rfl h
  | cons token rest =>
    have hrest : (if token.kind = .eof then token :: rest else rest) = rest := if_neg h
    exact ⟨[token], congrArg (token :: ·) hrest.symm, List.forall_mem_singleton.2 h, rfl,
      congrArg (List.map Token.word) hrest⟩

theorem takes_atKind (kind : TokenKind) : Takes before (atKind kind) fun words found mid =>
    words = [] ∧ mid = before ∧ found = ((Word.first before).kind == kind) := by
  refine takes_peek.bind fun words token mid h => .pure ?_
  obtain ⟨rfl, hword, rfl⟩ := h
  exact ⟨rfl, rfl, hword ▸ rfl⟩

theorem takes_atWord (word : String) : Takes before (atWord word) fun words found mid =>
    words = [] ∧ mid = before ∧ (found = true ↔ Word.first before = .keyword word) := by
  refine takes_peek.bind fun words token mid h => .pure ?_
  obtain ⟨rfl, hword, rfl⟩ := h
  exact ⟨rfl, rfl, hword ▸ token.isWord_iff⟩

/-- Tokens of the kind are signs. -/
def IsSign (kind : TokenKind) : Prop :=
  kind ≠ .eof ∧ ∀ lexeme, Word.Lexical ⟨kind, lexeme⟩ → lexeme = kind.sign

theorem isSign {kind : TokenKind}
    (h : kind ∈ [.equals, .comma, .lparen, .rparen, .semicolon, .star, .dot]) : IsSign kind := by
  simp only [List.mem_cons, List.not_mem_nil, or_false] at h
  rcases h with rfl | rfl | rfl | rfl | rfl | rfl | rfl <;> exact ⟨nofun, fun _ h => h⟩

theorem eq_sign_of_lexical {word : Word} {kind : TokenKind} (h : IsSign kind) (hword : word.Lexical)
    (hkind : word.kind = kind) : word = .sign kind := by
  subst hkind
  exact Word.eq_sign rfl (h.2 _ hword)

/-- A sign is taken if it comes next. -/
theorem takes_accept {kind : TokenKind} (h : IsSign kind) :
    Takes before (accept kind) fun words found _ => words = if found then [.sign kind] else [] := by
  refine .lexical fun hlexical => (takes_atKind kind).bind fun words found mid hfound => ?_
  obtain ⟨rfl, rfl, rfl⟩ := hfound
  refine .ite (fun hkind => ?_) fun _ => .pure rfl
  have heq := eq_sign_of_lexical h hlexical (beq_iff_eq.1 hkind)
  refine (takes_advance (by rw [heq]; exact h.1)).bind fun words _ _ hwords => .pure ?_
  simp [hwords.1, heq]

/-- A sign is taken, and then one thing is read, or it does not come next. -/
theorem takes_ifSign {kind : TokenKind} (h : IsSign kind) {q r : Parse α}
    {outcome : List Word → α → List Word → Prop}
    (hq : ∀ mid, Takes mid q fun others => outcome (.sign kind :: others))
    (hr : ∀ mid, Takes mid r outcome) : Takes before (do if ← accept kind then q else r) outcome := by
  refine (takes_accept h).bind fun words found mid hfound => .ite (fun htrue => ?_) fun hfalse => ?_
  · subst hfound htrue
    exact hq mid
  · obtain rfl := Bool.eq_false_iff.2 hfalse
    subst hfound
    exact hr mid

theorem takes_acceptWord (word : String) : Takes before (acceptWord word) fun words found mid =>
    words = wordIf found word ∧ (found = false → Word.first before ≠ .keyword word ∧ mid = before) := by
  refine (takes_atWord word).bind fun words found mid hfound => ?_
  obtain ⟨rfl, rfl, hiff⟩ := hfound
  refine .ite (fun hword => ?_) fun hword => .pure ⟨rfl, fun _ => ⟨fun heq => hword (hiff.2 heq), rfl⟩⟩
  have heq := hiff.1 hword
  refine (takes_advance (by rw [heq]; nofun)).bind fun words _ _ hwords => .pure ⟨?_, nofun⟩
  simp [hwords.1, heq, wordIf]

/-- A keyword is taken, and then one thing is read, or it does not come next. -/
theorem takes_ifWord {word : String} {q r : Parse α} {outcome : List Word → α → List Word → Prop}
    (hq : ∀ mid, Takes mid q fun others => outcome (.keyword word :: others))
    (hr : Word.first before ≠ .keyword word → Takes before r outcome) :
    Takes before (do if ← acceptWord word then q else r) outcome := by
  refine (takes_acceptWord word).bind fun words found mid hfound => .ite (fun h => ?_) fun h => ?_
  · obtain ⟨rfl, -⟩ := hfound
    subst h
    exact hq mid
  · obtain rfl := Bool.eq_false_iff.2 h
    obtain ⟨rfl, hother⟩ := hfound
    obtain ⟨hne, rfl⟩ := hother rfl
    exact hr hne

theorem takes_expectAs {kind : TokenKind} (hkind : kind ≠ .eof) (what : String) :
    Takes before (expectAs kind what) fun words token _ => words = [token.word] ∧ token.kind = kind := by
  refine takes_peek.bind fun words token mid h => ?_
  obtain ⟨rfl, hword, rfl⟩ := h
  refine .ite (fun htoken => ?_) fun _ => .fails what
  refine (takes_advance (hword ▸ htoken.trans_ne hkind)).bind fun words _ _ hwords =>
    .pure ⟨by simp [hwords.1, hword], htoken⟩

theorem takes_sign {kind : TokenKind} (h : IsSign kind) (what : String) :
    Takes before (expectAs kind what) fun words _ _ => words = [.sign kind] := by
  refine .lexical fun hlexical => takes_peek.bind fun words token mid hpeek => ?_
  obtain ⟨rfl, hword, rfl⟩ := hpeek
  refine .ite (fun htoken => ?_) fun _ => .fails what
  refine (takes_advance (hword ▸ htoken.trans_ne h.1)).bind fun words _ _ hwords => .pure ?_
  simp [hwords.1, eq_sign_of_lexical h hlexical (hword ▸ htoken)]

theorem takes_expectWordAs (word what : String) :
    Takes before (expectWordAs word what) fun words _ _ => words = [.keyword word] := by
  refine (takes_acceptWord word).bind fun words found mid hfound => ?_
  refine .ite (fun h => .pure ?_) fun _ => .fails what
  simp [hfound.1, h, wordIf]

theorem takes_name (what : String) :
    Takes before (name what) fun words s _ => words = [.name s] := by
  refine (takes_expectAs (by nofun) what).bind fun words token mid h => .pure ?_
  rw [h.1, List.append_nil, List.singleton_inj, Token.word, Word.name, Word.mk.injEq]
  exact ⟨h.2, rfl⟩

end

section

variable {before : List Word} {item : Parse α} {fact : List Word → α → Prop}

theorem takes_afterCommas (h : ∀ before, Takes before item fun words a _ => fact words a) (bound : Nat) :
    Takes before (afterCommas item bound) fun words items _ =>
      (words = [] ∧ items = []) ∨ ∃ others, words = .sign .comma :: others ∧ Listed fact others items := by
  induction bound generalizing before with
  | zero => exact .pure (.inl ⟨rfl, rfl⟩)
  | succ bound ih =>
    refine (takes_accept (isSign (by decide))).bind fun words found mid hfound => ?_
    refine .ite (fun htrue => ?_) fun hfalse => .pure (.inl ⟨by simp [hfound, hfalse], rfl⟩)
    refine (h mid).bind fun words a mid hfirst => ih.bind fun others items mid hothers => .pure ?_
    refine .inr ⟨_, by rw [hfound, htrue]; rfl, ?_⟩
    rcases hothers with ⟨rfl, rfl⟩ | ⟨others, rfl, hlisted⟩
    · simpa using Listed.one hfirst
    · simpa using Listed.more hfirst hlisted

theorem takes_commaList (h : ∀ before, Takes before item fun words a _ => fact words a) :
    Takes before (commaList item) fun words items _ => Listed fact words items := by
  refine (h before).bind fun words a mid hfirst => .get fun tokens => ?_
  refine (takes_afterCommas h _).bind fun others items mid hothers => .pure ?_
  rcases hothers with ⟨rfl, rfl⟩ | ⟨others, rfl, hlisted⟩
  · simpa using Listed.one hfirst
  · simpa using Listed.more hfirst hlisted

end

/-! ## What readers read -/

/-- On these words the reader succeeds, gives `a` and takes no other words, if those that follow
are as they should be. -/
def Reads (p : Parse α) (words : List Word) (a : α) (follow : List Word → Prop) : Prop :=
  ∀ tokens rest, tokens.map Token.word = words → follow (rest.map Token.word) →
    p.run (tokens ++ rest) = .ok (a, rest)

section

variable {before follow : List Word → Prop}

theorem Reads.pure : Reads (pure a) [] a follow := by
  intro tokens rest hwords _
  obtain rfl := List.map_eq_nil_iff.1 hwords
  rfl

theorem Reads.bind (hp : Reads p words a before) (hf : Reads (f a) others b follow)
    (h : ∀ more, follow more → before (others ++ more)) :
    Reads (p >>= f) (words ++ others) b follow := by
  intro tokens rest hwords hfollow
  obtain ⟨tokens, mid, rfl, rfl, hmid⟩ := List.map_eq_append_iff.1 hwords
  have hbefore : before ((mid ++ rest).map Token.word) := by
    rw [List.map_append, hmid]
    exact h _ hfollow
  rw [List.append_assoc, run_bind_of_run (hp tokens (mid ++ rest) rfl hbefore)]
  exact hf mid rest hmid hfollow

theorem Reads.map {g : α → β} (hp : Reads p words a follow) : Reads (g <$> p) words (g a) follow := by
  intro tokens rest hwords hfollow
  rw [StateT.run_map, hp tokens rest hwords hfollow]
  rfl

/-- What is read last takes nothing. -/
theorem Reads.finish (hp : Reads p words a before) (hf : Reads (f a) [] b follow)
    (h : ∀ more, follow more → before more) : Reads (p >>= f) words b follow :=
  List.append_nil words ▸ hp.bind hf h

/-- What is read first takes nothing. -/
theorem Reads.after (hp : Reads p [] a before) (hf : Reads (f a) words b follow)
    (h : ∀ more, follow more → before (words ++ more)) : Reads (p >>= f) words b follow :=
  hp.bind hf h

theorem Reads.mono (hp : Reads p words a before) (h : ∀ more, follow more → before more) :
    Reads p words a follow :=
  fun tokens rest hwords hfollow => hp tokens rest hwords (h _ hfollow)

/-- A look at the tokens. -/
theorem Reads.get {f : List Token → Parse β}
    (h : ∀ tokens, words.length ≤ tokens.length → Reads (f tokens) words b follow) :
    Reads (get >>= f) words b follow := by
  intro tokens rest hwords hfollow
  refine h (tokens ++ rest) ?_ tokens rest hwords hfollow
  rw [← hwords, List.length_map, List.length_append]
  exact Nat.le_add_right _ _

/-- A look at the next token. -/
theorem Reads.peek {f : Token → Parse β} {P : Word → Prop}
    (h : ∀ token, P token.word → Reads (f token) words b follow)
    (hfirst : ∀ more, follow more → P (Word.first (words ++ more))) :
    Reads (peek >>= f) words b follow := by
  intro tokens rest hwords hfollow
  refine h _ ?_ tokens rest hwords hfollow
  rw [word_peek, List.map_append, hwords]
  exact hfirst _ hfollow

theorem Reads.peekSecond {f : Token → Parse β} {P : Word → Prop}
    (h : ∀ token, P token.word → Reads (f token) words b follow)
    (hsecond : ∀ more, follow more → P (Word.second (words ++ more))) :
    Reads (peekSecond >>= f) words b follow := by
  intro tokens rest hwords hfollow
  obtain ⟨second, hrun, hword⟩ := run_peekSecond (tokens ++ rest)
  rw [run_bind_of_run hrun]
  refine h second ?_ tokens rest hwords hfollow
  rw [hword, List.map_append, hwords]
  exact hsecond _ hfollow

theorem Reads.ofPos {c : Prop} [Decidable c] {q : Parse α} (hc : c) (h : Reads p words a follow) :
    Reads (if c then p else q) words a follow := by
  rwa [if_pos hc]

theorem Reads.ofNeg {c : Prop} [Decidable c] {q : Parse α} (hc : ¬ c) (h : Reads q words a follow) :
    Reads (if c then p else q) words a follow := by
  rwa [if_neg hc]

/-- What is read next does not matter to what is read first. -/
theorem Reads.andThen (hp : Reads p words a fun _ => True) (hf : Reads (f a) others b follow) :
    Reads (p >>= f) (words ++ others) b follow :=
  hp.bind hf fun _ _ => trivial

end

theorem run_advance {token : Token} (h : token.kind ≠ .eof) (rest : List Token) :
    advance.run (token :: rest) = .ok ((), rest) :=
  congrArg (fun rest => Except.ok ((), rest)) (if_neg h)

section

variable {follow : List Word → Prop}

theorem reads_advance {word : Word} (h : word.kind ≠ .eof) : Reads advance [word] () follow := by
  intro tokens rest hwords _
  obtain ⟨token, rfl, rfl⟩ := List.map_eq_singleton_iff.1 hwords
  exact run_advance h rest

/-- One token is taken after a look at it. -/
theorem Reads.advance {q : Parse β} {word : Word} (hword : word.kind ≠ .eof)
    (h : Reads q words b follow) : Reads (advance >>= fun _ => q) (word :: words) b follow :=
  (reads_advance hword).andThen h

theorem reads_atKind (kind : TokenKind) (found : Bool) : Reads (atKind kind) [] found
    fun more => ((Word.first more).kind == kind) = found := by
  refine .peek (P := fun first => (first.kind == kind) = found) (fun token h => ?_) fun _ h => h
  subst h
  exact .pure

theorem reads_atWord (word : String) (found : Bool) : Reads (atWord word) [] found
    fun more => decide (Word.first more = .keyword word) = found := by
  refine .peek (P := fun first => decide (first = .keyword word) = found) (fun token h => ?_) fun _ h => h
  obtain rfl : token.isWord word = found := by
    rw [← h, Bool.eq_iff_iff, token.isWord_iff, decide_eq_true_iff]
  exact .pure

theorem reads_accept {kind : TokenKind} (hkind : kind ≠ .eof) (lexeme : String) :
    Reads (accept kind) [⟨kind, lexeme⟩] true follow :=
  (reads_atKind kind true).after ((reads_advance hkind).andThen .pure) fun _ _ => beq_self_eq_true _

theorem reads_accept_other (kind : TokenKind) :
    Reads (accept kind) [] false (Followed fun word => word.kind ≠ kind) := by
  refine (reads_atKind kind false).after .pure fun more h => ?_
  cases more with
  | nil => exact absurd h id
  | cons word _ => exact beq_false_of_ne h

theorem reads_acceptWord (word : String) :
    Reads (acceptWord word) [.keyword word] true follow :=
  (reads_atWord word true).after ((reads_advance (by nofun)).andThen .pure) fun _ _ =>
    decide_eq_true rfl

theorem reads_acceptWord_other (word : String) :
    Reads (acceptWord word) [] false (Followed (· ≠ .keyword word)) := by
  refine (reads_atWord word false).after .pure fun more h => ?_
  cases more with
  | nil => exact absurd h id
  | cons word _ => exact decide_eq_false h

theorem run_expectAs {token : Token} (h : token.kind ≠ .eof) (what : String) (rest : List Token) :
    (expectAs token.kind what).run (token :: rest) = .ok (token, rest) := by
  refine (run_bind_of_run (show peek.run (token :: rest) = .ok (token, token :: rest) from rfl)).trans ?_
  rw [if_pos rfl]
  exact run_bind_of_run (run_advance h rest)

/-- One token is taken for what it says. -/
theorem Reads.expectAs (word : Word) {what : String} {f : Token → Parse β}
    (hword : word.kind ≠ .eof) (h : ∀ token, token.word = word → Reads (f token) words b follow) :
    Reads (expectAs word.kind what >>= f) (word :: words) b follow := by
  intro tokens rest hwords hfollow
  obtain ⟨token, tokens, rfl, rfl, hrest⟩ := List.map_eq_cons_iff.1 hwords
  refine (run_bind_of_run (run_expectAs hword what (tokens ++ rest))).trans ?_
  exact h token rfl tokens rest hrest hfollow

theorem Reads.sign {kind : TokenKind} {what : String} {q : Parse β} (hkind : kind ≠ .eof)
    (h : Reads q words b follow) :
    Reads (Parse.expectAs kind what >>= fun _ => q) (.sign kind :: words) b follow :=
  Reads.expectAs (.sign kind) hkind fun _ _ => h

theorem reads_expectWordAs (word what : String) :
    Reads (expectWordAs word what) [.keyword word] () follow :=
  (reads_acceptWord word).andThen .pure

theorem reads_name (what s : String) : Reads (name what) [.name s] s follow := by
  refine Reads.expectAs (.name s) (by nofun) fun token htoken => ?_
  obtain rfl : token.lexeme = s := congrArg Word.lexeme htoken
  exact .pure

/-- The keyword comes next. -/
theorem Reads.ifWord {word : String} {q r : Parse β} (h : Reads q words b follow) :
    Reads (do if ← acceptWord word then q else r) (.keyword word :: words) b follow :=
  (reads_acceptWord word).andThen (.ofPos rfl h)

/-- The keyword does not come next. -/
theorem Reads.unlessWord {word : String} {q r : Parse β}
    (hother : ∀ more, follow more → Followed (· ≠ .keyword word) (words ++ more))
    (h : Reads r words b follow) : Reads (do if ← acceptWord word then q else r) words b follow :=
  (reads_acceptWord_other word).after (.ofNeg nofun h) hother

theorem reads_acceptWordIf (word : String) (present : Bool) :
    Reads (acceptWord word) (wordIf present word) present (Followed (· ≠ .keyword word)) := by
  cases present
  · exact reads_acceptWord_other word
  · exact reads_acceptWord word

end

section

variable {item : Parse α} {fact : List Word → α → Prop} {after : Word → Prop} {items : List α}

/-- The words after a list: they start with no comma, and fit after an item. -/
def AfterList (after : Word → Prop) (word : Word) : Prop := word.kind ≠ .comma ∧ after word

theorem reads_afterCommas_nil (bound : Nat) :
    Reads (afterCommas item bound) [] [] (Followed (AfterList after)) := by
  cases bound with
  | zero => exact .pure
  | succ bound => exact (reads_accept_other .comma).after .pure (Followed.mono fun _ h => h.1)

theorem reads_afterCommas (h : ∀ words a, fact words a → Reads item words a (Followed after))
    (hcomma : after (.sign .comma)) (hlisted : Listed fact words items) {bound : Nat}
    (hbound : items.length ≤ bound) : Reads (afterCommas item bound) (.sign .comma :: words) items
      (Followed (AfterList after)) := by
  induction hlisted generalizing bound with
  | one hitem =>
    obtain ⟨bound, rfl, -⟩ := exists_of_length_cons_le hbound
    refine (reads_accept (by nofun) ",").andThen ?_
    refine (h _ _ hitem).finish ?_ (Followed.mono fun _ h => h.2)
    exact (reads_afterCommas_nil bound).finish .pure fun _ h => h
  | more hitem hrest ih =>
    obtain ⟨bound, rfl, hless⟩ := exists_of_length_cons_le hbound
    refine (reads_accept (by nofun) ",").andThen ((h _ _ hitem).bind ?_ fun _ _ => hcomma)
    exact (ih hless).finish .pure fun _ h => h

theorem reads_commaList (h : ∀ words a, fact words a → Reads item words a (Followed after))
    (hcomma : after (.sign .comma)) (hlisted : Listed fact words items) :
    Reads (commaList item) words items (Followed (AfterList after)) := by
  cases hlisted with
  | one hitem =>
    refine (h _ _ hitem).finish (.get fun tokens _ => ?_) (Followed.mono fun _ h => h.2)
    exact (reads_afterCommas_nil _).finish .pure fun _ h => h
  | more hitem hrest =>
    refine (h _ _ hitem).bind (.get fun tokens hlength => ?_) fun _ _ => hcomma
    exact (reads_afterCommas h hcomma hrest (Nat.le_trans hrest.length_le hlength)).finish .pure fun _ h => h

end

end Parse

end RelStore.Sql
