/-
Walks that follow readers of tokens.

A walk follows a reader (`Walk.Follows`) if from every cursor that stands at a token it comes to
an end, never leaves the list, keeps the clause in force whether it gives something or fails, and
gives or fails as the reader does on the tokens from there on. That comes with two numbers: `room`, a
bound on the tokens that are left, and `taken`, how many of them are gone at least if it gives something.
A loop is followed by induction on `room`, of which each round takes a part: no cursor stands
where there is none.
-/
import RelStore.Proofs.Sql.Walk

namespace RelStore.Sql

/-- The last token is the end of the text. -/
def AreEnded (tokens : List Token) : Prop := ∃ token ∈ tokens.getLast?, token.kind = .eof

/-- The index of a token that comes after no end. -/
def IsInside (tokens : List Token) (index : Nat) : Prop :=
  index < tokens.length ∧ ∀ token ∈ tokens.take index, token.kind ≠ .eof

variable {tokens : List Token}

theorem IsInside.succ {index : Nat} {token : Token} (h : IsInside tokens index) (hended : AreEnded tokens)
    (htoken : tokens[index]? = some token) (hkind : token.kind ≠ .eof) : IsInside tokens (index + 1) := by
  obtain ⟨hindex, rfl⟩ := List.getElem?_eq_some_iff.1 htoken
  refine ⟨?_, ?_⟩
  · obtain ⟨last, hlast, hlastKind⟩ := hended
    rw [List.getLast?_eq_getElem?] at hlast
    obtain ⟨hlength, rfl⟩ := List.getElem?_eq_some_iff.1 hlast
    have hne : index ≠ tokens.length - 1 := by
      rintro rfl
      exact hkind hlastKind
    omega
  · rw [List.take_succ_eq_append_getElem hindex]
    exact List.forall_mem_append.2 ⟨h.2, List.forall_mem_singleton.2 hkind⟩

theorem Token.kind_of_isWord {token : Token} {word : String} (h : token.isWord word = true) :
    token.kind = .keyword :=
  beq_iff_eq.1 (Bool.and_eq_true_iff.1 h).1

namespace Cursor

/-- A cursor that stands in the list of tokens, as it has done all the time. -/
structure Within (tokens : List Token) (cursor : Cursor) : Prop where
  index : IsInside tokens cursor.index
  passed : ∀ index ∈ cursor.passed, IsInside tokens index

/-- A cursor before a token that is as it should be, in a clause, and with so many tokens left at most. -/
structure Stands (tokens : List Token) (ahead : Token → Prop) (clause : Clause) (room : Nat)
    (cursor : Cursor) : Prop where
  ended : AreEnded tokens
  within : cursor.Within tokens
  clause_eq : cursor.clause = clause
  length_le : tokens.length ≤ cursor.index + room
  ahead : ∀ token ∈ tokens[cursor.index]?, ahead token

variable {ahead other : Token → Prop} {clause : Clause} {room more : Nat} {cursor : Cursor}

/-- The token that comes next. -/
theorem Stands.exists_token (h : cursor.Stands tokens ahead clause room) : ∃ token,
    tokens[cursor.index]? = some token ∧ tokens.drop cursor.index = token :: tokens.drop (cursor.index + 1) ∧
      ahead token ∧ cursor.Stands tokens (· = token) clause room := by
  have hindex := h.within.index.1
  have htoken : tokens[cursor.index]? = some tokens[cursor.index] := List.getElem?_eq_getElem hindex
  refine ⟨tokens[cursor.index], htoken, List.drop_eq_getElem_cons hindex, h.ahead _ htoken, ?_⟩
  refine { h with ahead := fun token hmem => ?_ }
  rw [htoken] at hmem
  exact (Option.some.inj hmem).symm

theorem Stands.room_pos (h : cursor.Stands tokens ahead clause room) : 0 < room := by
  have := h.within.index.1
  have := h.length_le
  omega

theorem Stands.mono (h : cursor.Stands tokens ahead clause room) (hroom : room ≤ more)
    (hahead : ∀ token, ahead token → other token) : cursor.Stands tokens other clause more :=
  { h with
    length_le := Nat.le_trans h.length_le (Nat.add_le_add_left hroom _)
    ahead := fun token htoken => hahead token (h.ahead token htoken) }

end Cursor

open Cursor (Stands)

namespace Walk

variable {α β : Type} {walk : Walk α} {f : α → Walk β} {reader : Parse α} {g : α → Parse β}
  {ahead other : Token → Prop} {clause : Clause} {room taken : Nat} {start : Cursor}

/-! ## Walks in general -/

theorem runFrom_bind (walk : Walk α) (f : α → Walk β) (tokens : List Token) (start : Cursor) :
    (walk >>= f).runFrom tokens start = (walk.runFrom tokens start).bind fun (result, last) =>
      match result with
      | .ok a => (f a).runFrom tokens last
      | .error stop => some (.error stop, last) := by
  change Option.bind (walk.runFrom tokens start) _ = _
  congr 1
  funext ⟨result, last⟩
  cases result <;> rfl

/-- A walk ends as a reader does, at the token with the index `least` or later if it gives something. -/
inductive Ends (tokens : List Token) (least : Nat) :
    Except Cause (α × List Token) → Except Stop α × Cursor → Prop where
  | gives {a : α} {last : Cursor} (h : least ≤ last.index) :
    Ends tokens least (.ok (a, tokens.drop last.index)) (.ok a, last)
  | fails {cause : Cause} {last : Cursor} :
    Ends tokens least (.error cause) (.error (.refused cause), last)

/-- The walk goes on as the reader does, from any cursor that stands where it should. -/
def Follows (ahead : Token → Prop) (clause : Clause) (room taken : Nat) (walk : Walk α)
    (reader : Parse α) : Prop :=
  ∀ tokens start, start.Stands tokens ahead clause room → ∃ result,
    walk.runFrom tokens start = some result ∧ result.2.Within tokens ∧ result.2.clause = clause ∧
      Ends tokens (start.index + taken) (reader.run (tokens.drop start.index)) result

namespace Follows

/-- No cursor stands where no token is left. -/
theorem exhausted : Follows ahead clause 0 taken walk reader :=
  fun _ _ hstart => absurd hstart.room_pos (Nat.lt_irrefl 0)

/-- So only the bounds that leave a token matter. -/
theorem ofPos (h : 0 < room → Follows ahead clause room taken walk reader) :
    Follows ahead clause room taken walk reader :=
  fun tokens start hstart => h hstart.room_pos tokens start hstart

theorem mono {less more : Nat} (h : Follows other clause more taken walk reader)
    (hahead : ∀ token, ahead token → other token) (hroom : room ≤ more) (htaken : less ≤ taken) :
    Follows ahead clause room less walk reader := by
  intro tokens start hstart
  obtain ⟨result, hrun, hwithin, hclause, hends⟩ := h tokens start (hstart.mono hroom hahead)
  refine ⟨result, hrun, hwithin, hclause, ?_⟩
  generalize reader.run (tokens.drop start.index) = outcome at hends
  cases hends with
  | gives hleast => exact .gives (by omega)
  | fails => exact .fails

/-- It may take more than it has to. -/
theorem atLeast {less : Nat} (h : Follows ahead clause room taken walk reader) (hless : less ≤ taken) :
    Follows ahead clause room less walk reader :=
  h.mono (fun _ h => h) (Nat.le_refl _) hless

/-- What is known of the next token need not be made use of. -/
theorem whatever (h : Follows (fun _ => True) clause room taken walk reader) :
    Follows ahead clause room taken walk reader :=
  h.mono (fun _ _ => trivial) (Nat.le_refl _) (Nat.le_refl _)

/-- Before one of the tokens that may come next. -/
theorem before {token : Token} (h : Follows ahead clause room taken walk reader) (htoken : ahead token) :
    Follows (· = token) clause room taken walk reader :=
  h.mono (by rintro _ rfl; exact htoken) (Nat.le_refl _) (Nat.le_refl _)

/-- The reader may be any that does the same before such a token. -/
theorem read {other : Parse α} (h : Follows ahead clause room taken walk reader)
    (hsame : ∀ token rest, ahead token → reader.run (token :: rest) = other.run (token :: rest)) :
    Follows ahead clause room taken walk other := by
  intro tokens start hstart
  obtain ⟨token, -, hdrop, hahead, -⟩ := hstart.exists_token
  obtain ⟨result, hrun, hwithin, hclause, hends⟩ := h tokens start hstart
  rw [hdrop, hsame token _ hahead, ← hdrop] at hends
  exact ⟨result, hrun, hwithin, hclause, hends⟩

theorem pure (a : α) : Follows ahead clause room 0 (Pure.pure a) (Pure.pure a) :=
  fun _ start hstart =>
    ⟨(.ok a, start), rfl, hstart.within, hstart.clause_eq, .gives (Nat.le_refl _)⟩

theorem refuses (cause : Cause) : Follows ahead clause room taken (refuse cause : Walk α) (throw cause) :=
  fun _ start hstart => ⟨(.error (.refused cause), start), rfl, hstart.within, hstart.clause_eq, .fails⟩

/-- One walk after another: what the first takes, the second need not take. -/
theorem next {gone : Nat} (h : Follows ahead clause room gone walk reader)
    (hf : ∀ a, Follows (fun _ => True) clause (room - gone) (taken - gone) (f a) (g a)) :
    Follows ahead clause room taken (walk >>= f) (reader >>= g) := by
  intro tokens start hstart
  obtain ⟨⟨result, mid⟩, hrun, hwithin, hclause, hends⟩ := h tokens start hstart
  rw [runFrom_bind, hrun, StateT.run_bind]
  generalize reader.run (tokens.drop start.index) = outcome at hends
  cases hends with
  | fails => exact ⟨_, rfl, hwithin, hclause, .fails⟩
  | @gives a _ hleast =>
    have hlength := hstart.length_le
    obtain ⟨last, hlast, hwithin, hclause, hends⟩ := hf a tokens mid
      ⟨hstart.ended, hwithin, hclause, by omega, fun _ _ => trivial⟩
    refine ⟨last, hlast, hwithin, hclause, ?_⟩
    change Ends _ _ ((g a).run (tokens.drop mid.index)) _
    generalize (g a).run (tokens.drop mid.index) = outcome at hends
    cases hends with
    | gives hmore => exact .gives (by omega)
    | fails => exact .fails

theorem map (h : Follows ahead clause room taken walk reader) (k : α → β) :
    Follows ahead clause room taken (k <$> walk) (k <$> reader) := by
  rw [map_eq_pure_bind, map_eq_pure_bind]
  exact h.next fun a => (Nat.sub_self taken).symm ▸ pure (k a)

/-- Nothing follows a refusal. -/
theorem refusesBefore (cause : Cause) :
    Follows ahead clause room taken ((refuse cause : Walk α) >>= f) ((throw cause : Parse α) >>= g) :=
  fun _ start hstart => ⟨(.error (.refused cause), start), rfl, hstart.within, hstart.clause_eq, .fails⟩

theorem ite {c : Prop} [Decidable c] {walk' : Walk α} {reader' : Parse α}
    (h : c → Follows ahead clause room taken walk reader)
    (h' : ¬ c → Follows ahead clause room taken walk' reader') :
    Follows ahead clause room taken (if c then walk else walk') (if c then reader else reader') := by
  split
  next hc => exact h hc
  next hc => exact h' hc

/-- The number of tokens that are left can serve as a bound. -/
theorem measure {walk : Walk β} {g : List Token → Parse β}
    (h : ∀ tokens, tokens.length ≤ room → Follows ahead clause tokens.length taken walk (g tokens)) :
    Follows ahead clause room taken walk (get >>= g) := by
  intro tokens start hstart
  have hlength := hstart.length_le
  refine h (tokens.drop start.index) ?_ tokens start { hstart with length_le := ?_ }
  · rw [List.length_drop]
    omega
  · rw [List.length_drop]
    omega

end Follows

theorem follows_check (checked : Except Cause Unit) :
    Follows ahead clause room 0 (check checked) (liftM checked) := by
  cases checked with
  | ok _ => exact .pure ()
  | error cause => exact .refuses cause

/-! ## Clauses -/

theorem Follows.clauseInForce {f : Clause → Walk β} {reader : Parse β}
    (h : Follows ahead clause room taken (f clause) reader) :
    Follows ahead clause room taken (clauseInForce >>= f) reader := by
  intro tokens start hstart
  have hrun : (Walk.clauseInForce >>= f).runFrom tokens start = (f start.clause).runFrom tokens start := rfl
  rw [hrun, hstart.clause_eq]
  exact h tokens start hstart

/-- The clause before is put back after whatever the walk comes to. -/
theorem runFrom_forClause (inner : Clause) (walk : Walk α) (tokens : List Token) (start : Cursor) :
    (forClause inner walk).runFrom tokens start = (walk.runFrom tokens (start.inClause inner)).map
      fun (result, last) => (result, last.inClause start.clause) := by
  have hbody : (forClause inner walk).runFrom tokens start =
      ((walk >>= fun read => do modify (·.inClause start.clause); pure read).runFrom tokens
        (start.inClause inner)).bind fun (result, last) =>
      match result with
      | .ok a => some (.ok a, last)
      | .error stop => some (.error stop, last.inClause start.clause) := by
    change Option.bind _ _ = Option.bind _ _
    congr 1
    funext ⟨result, last⟩
    cases result <;> rfl
  rw [hbody, runFrom_bind]
  cases walk.runFrom tokens (start.inClause inner) with
  | none => rfl
  | some ended =>
    obtain ⟨result, last⟩ := ended
    cases result <;> rfl

/-- In a clause of its own a walk follows a reader, whatever the clause around it is. -/
theorem follows_forClause {inner : Clause} (h : Follows ahead inner room taken walk reader) :
    Follows ahead clause room taken (forClause inner walk) reader := by
  intro tokens start hstart
  obtain ⟨⟨result, last⟩, hrun, hwithin, -, hends⟩ := h tokens (start.inClause inner)
    ⟨hstart.ended, ⟨hstart.within.index, hstart.within.passed⟩, rfl, hstart.length_le, hstart.ahead⟩
  refine ⟨(result, last.inClause start.clause), ?_, ?_, hstart.clause_eq, ?_⟩
  · rw [runFrom_forClause, hrun]
    rfl
  · exact ⟨hwithin.index, hwithin.passed⟩
  · change Ends _ (start.index + taken) (reader.run (tokens.drop start.index)) _ at hends
    generalize reader.run (tokens.drop start.index) = outcome at hends
    cases hends with
    | gives hleast =>
      exact Ends.gives (show start.index + taken ≤ (last.inClause start.clause).index from hleast)
    | fails => exact .fails

/-! ## Tokens -/

theorem runFrom_get_bind (f : Cursor → Walk β) (tokens : List Token) (start : Cursor) :
    (get >>= f).runFrom tokens start = (f start).runFrom tokens start := rfl

theorem runFrom_read_bind (f : List Token → Walk β) (tokens : List Token) (start : Cursor) :
    (read >>= f).runFrom tokens start = (f tokens).runFrom tokens start := rfl

theorem runFrom_tokenAt {index : Nat} {token : Token} (h : tokens[index]? = some token) (start : Cursor) :
    (tokenAt index).runFrom tokens start = some (.ok token, start) := by
  rw [tokenAt, runFrom_read_bind, h]
  rfl

theorem runFrom_peek {token : Token} (h : tokens[start.index]? = some token) :
    peek.runFrom tokens start = some (.ok token, start) := by
  rw [peek, runFrom_get_bind]
  exact runFrom_tokenAt h start

/-- A look at the token after the next finds one: the next itself if it is the last. -/
theorem exists_runFrom_peekSecond (h : start.index < tokens.length) : ∃ token,
    peekSecond.runFrom tokens start = some (.ok token, start) ∧
      Parse.peekSecond.run (tokens.drop start.index) = .ok (token, tokens.drop start.index) := by
  have hrun (index : Nat) (hindex : min (start.index + 1) (tokens.length - 1) = index) :
      peekSecond.runFrom tokens start = (tokenAt index).runFrom tokens start := by
    rw [peekSecond, runFrom_get_bind, runFrom_read_bind, hindex]
  by_cases hmore : start.index + 1 < tokens.length
  · refine ⟨tokens[start.index + 1], ?_, ?_⟩
    · rw [hrun (start.index + 1) (by omega)]
      exact runFrom_tokenAt (List.getElem?_eq_getElem hmore) start
    · rw [List.drop_eq_getElem_cons h, List.drop_eq_getElem_cons hmore]
      rfl
  · refine ⟨tokens[start.index], ?_, ?_⟩
    · rw [hrun start.index (by omega)]
      exact runFrom_tokenAt (List.getElem?_eq_getElem h) start
    · rw [List.drop_eq_getElem_cons h, List.drop_eq_nil_of_le (by omega)]
      rfl

theorem runFrom_advance {token : Token} (h : tokens[start.index]? = some token) :
    advance.runFrom tokens start =
      some (.ok (), if token.kind = .eof then start else start.next) := by
  rw [advance, runFrom_bind, runFrom_peek h, Option.bind_some]
  by_cases hkind : token.kind = .eof
  · rw [if_pos hkind]
    simp only [hkind, ne_eq, not_true_eq_false, if_false]
    rfl
  · rw [if_neg hkind]
    simp only [hkind, ne_eq, not_false_eq_true, if_true]
    rfl

theorem Follows.peek {f : Token → Walk β} {g : Token → Parse β}
    (hf : ∀ token, ahead token → Follows (· = token) clause room taken (f token) (g token)) :
    Follows ahead clause room taken (peek >>= f) (Parse.peek >>= g) := by
  intro tokens start hstart
  obtain ⟨token, htoken, hdrop, hahead, hstands⟩ := hstart.exists_token
  obtain ⟨result, hrun, hresult⟩ := hf token hahead tokens start hstands
  refine ⟨result, ?_, ?_⟩
  · rw [runFrom_bind, runFrom_peek htoken]
    exact hrun
  · rw [hdrop] at hresult ⊢
    exact hresult

theorem Follows.peekSecond {f : Token → Walk β} {g : Token → Parse β}
    (hf : ∀ token, Follows ahead clause room taken (f token) (g token)) :
    Follows ahead clause room taken (peekSecond >>= f) (Parse.peekSecond >>= g) := by
  intro tokens start hstart
  obtain ⟨token, hwalk, hreader⟩ := exists_runFrom_peekSecond hstart.within.index.1
  obtain ⟨result, hrun, hresult⟩ := hf token tokens start hstart
  refine ⟨result, ?_, ?_⟩
  · rw [runFrom_bind, hwalk]
    exact hrun
  · rw [StateT.run_bind, hreader]
    exact hresult

/-- A token that is not the end is taken. -/
theorem follows_advance_of_ne {token : Token} (hkind : token.kind ≠ .eof) :
    Follows (· = token) clause room 1 advance Parse.advance := by
  intro tokens start hstart
  obtain ⟨_, htoken, hdrop, rfl, -⟩ := hstart.exists_token
  refine ⟨_, runFrom_advance htoken, ?_⟩
  have hrun : Parse.advance.run (tokens.drop start.index) = .ok ((), tokens.drop (start.index + 1)) := by
    rw [hdrop]
    exact congrArg (fun rest => Except.ok ((), rest)) (if_neg hkind)
  rw [if_neg hkind, hrun]
  refine ⟨⟨hstart.within.index.succ hstart.ended htoken hkind, ?_⟩, hstart.clause_eq, ?_⟩
  · exact List.forall_mem_cons.2 ⟨hstart.within.index, hstart.within.passed⟩
  · exact Ends.gives (Nat.le_refl start.next.index)

theorem follows_advance : Follows ahead clause room 0 advance Parse.advance := by
  intro tokens start hstart
  obtain ⟨token, htoken, hdrop, -, hstands⟩ := hstart.exists_token
  by_cases hkind : token.kind = .eof
  · refine ⟨_, runFrom_advance htoken, ?_⟩
    have hrun : Parse.advance.run (tokens.drop start.index) = .ok ((), tokens.drop start.index) := by
      rw [hdrop]
      exact congrArg (fun rest => Except.ok ((), rest)) (if_pos hkind)
    rw [if_pos hkind, hrun]
    exact ⟨hstart.within, hstart.clause_eq, .gives (Nat.le_refl _)⟩
  · have htakes : Follows (· = token) clause room 1 advance Parse.advance := follows_advance_of_ne hkind
    exact htakes.atLeast (Nat.zero_le _) tokens start hstands

theorem Follows.fails (what : String) :
    Follows ahead clause room taken (failExpecting what : Walk α) (Parse.failExpecting what) :=
  .peek fun _ _ => .refuses _

/-- Nothing follows a failure. -/
theorem Follows.failsBefore (what : String) : Follows ahead clause room taken
    ((failExpecting what : Walk α) >>= f) ((Parse.failExpecting what : Parse α) >>= g) := by
  rw [failExpecting, Parse.failExpecting, bind_assoc, bind_assoc]
  exact .peek fun _ _ => .refusesBefore _

/-! ## Words -/

theorem follows_atKind (kind : TokenKind) :
    Follows ahead clause room 0 (atKind kind) (Parse.atKind kind) :=
  .peek fun _ _ => .pure _

theorem follows_atWord (word : String) :
    Follows ahead clause room 0 (atWord word) (Parse.atWord word) :=
  .peek fun _ _ => .pure _

/-- What comes after a token is taken or not, put behind each of the two. -/
theorem bind_taking {m : Type → Type} [Monad m] [LawfulMonad m] (peek : m Token) (advance : m Unit)
    (test : Token → Bool) (f : Bool → m β) :
    (do if ← (do return test (← peek)) then advance; return true else return false) >>= f =
      (do if test (← peek) then advance; f true else f false) := by
  simp only [bind_assoc, pure_bind]
  congr 1
  funext token
  split <;> simp only [bind_assoc, pure_bind]

section

variable {whole other : Walk β} {reader reader' : Parse β}

/-- A token that passes a test, as the end does not, is taken, or it stays. -/
theorem Follows.ifPasses {test : Token → Bool} (htest : ∀ token, test token = true → token.kind ≠ .eof)
    (h : Follows (fun _ => True) clause (room - 1) (taken - 1) whole reader)
    (h' : Follows ahead clause room taken other reader') :
    Follows ahead clause room taken
      (do if test (← Walk.peek) then advance; whole else other)
      (do if test (← Parse.peek) then Parse.advance; reader else reader') := by
  refine .peek fun token hahead => .ite (fun hpasses => ?_) fun _ => ?_
  · exact (follows_advance_of_ne (htest token hpasses)).next fun _ => h
  · exact h'.before hahead

/-- A token of the kind is taken, and then one thing is read, or it does not come next. -/
theorem Follows.ifKind {kind : TokenKind} (hkind : kind ≠ .eof)
    (h : Follows (fun _ => True) clause (room - 1) (taken - 1) whole reader)
    (h' : Follows ahead clause room taken other reader') :
    Follows ahead clause room taken (do if ← accept kind then whole else other)
      (do if ← Parse.accept kind then reader else reader') := by
  rw [accept, atKind, Parse.accept, Parse.atKind, bind_taking, bind_taking]
  exact .ifPasses (fun _ htest => beq_iff_eq.1 htest ▸ hkind) h h'

/-- A keyword is taken, and then one thing is read, or it does not come next. -/
theorem Follows.ifWord {word : String}
    (h : Follows (fun _ => True) clause (room - 1) (taken - 1) whole reader)
    (h' : Follows ahead clause room taken other reader') :
    Follows ahead clause room taken (do if ← acceptWord word then whole else other)
      (do if ← Parse.acceptWord word then reader else reader') := by
  rw [acceptWord, atWord, Parse.acceptWord, Parse.atWord, bind_taking, bind_taking]
  exact .ifPasses (fun _ htest => (Token.kind_of_isWord htest).trans_ne nofun) h h'

/-- The walk looks for a keyword that the production of the next thing takes. -/
theorem Follows.whenWord {word : String}
    (h : Follows (·.isWord word = true) clause room taken whole (do Parse.expectWord word; reader))
    (h' : Follows ahead clause room taken other reader') :
    Follows ahead clause room taken (do if ← atWord word then whole else other)
      (do if ← Parse.acceptWord word then reader else reader') := by
  have hlook : (do if ← atWord word then whole else other) =
      (do if (← Walk.peek).isWord word then whole else other) := by
    rw [atWord, bind_assoc]
    rfl
  have hreader : (do if ← Parse.acceptWord word then reader else reader') =
      (do if (← Parse.peek).isWord word then Parse.advance; reader else reader') := by
    rw [Parse.acceptWord, Parse.atWord, bind_taking]
    rfl
  rw [hlook, hreader]
  refine .peek fun token hahead => .ite (fun hword => ?_) fun _ => h'.before hahead
  refine (h.before hword).read ?_
  rintro token rest rfl
  rw [Parse.expectWord, Parse.expectWordAs, Parse.acceptWord, Parse.atWord, bind_taking]
  change StateT.run ((if token.isWord word = true then _ else _) >>= fun _ => reader) (token :: rest) = _
  rw [if_pos hword]
  rfl

end

theorem follows_accept (kind : TokenKind) : Follows ahead clause room 0 (accept kind) (Parse.accept kind) :=
  (follows_atKind kind).next fun _ => .ite (fun _ => follows_advance.next fun _ => .pure _) fun _ => .pure _

theorem follows_acceptWord (word : String) :
    Follows ahead clause room 0 (acceptWord word) (Parse.acceptWord word) :=
  (follows_atWord word).next fun _ => .ite (fun _ => follows_advance.next fun _ => .pure _) fun _ => .pure _

theorem follows_expectAs {kind : TokenKind} (hkind : kind ≠ .eof) (what : String) :
    Follows ahead clause room 1 (expectAs kind what) (Parse.expectAs kind what) := by
  refine .peek fun token _ => .ite (fun htoken => ?_) fun _ => .fails what
  exact (follows_advance_of_ne (htoken.trans_ne hkind)).next fun _ => .pure _

theorem follows_expect {kind : TokenKind} (hkind : kind ≠ .eof) :
    Follows ahead clause room 1 (expect kind) (Parse.expect kind) :=
  follows_expectAs hkind _

theorem follows_expectWordAs (word what : String) :
    Follows ahead clause room 1 (expectWordAs word what) (Parse.expectWordAs word what) :=
  .ifWord (.pure _) (.fails what)

theorem follows_expectWord (word : String) :
    Follows ahead clause room 1 (expectWord word) (Parse.expectWord word) :=
  follows_expectWordAs word word

theorem follows_name (what : String) :
    Follows ahead clause room 1 (name what) (Parse.name what) :=
  (follows_expectAs (by nofun) what).next fun _ => .pure _

section

variable {item : Walk α} {read : Parse α}

theorem follows_afterCommas (h : ∀ room, Follows (fun _ => True) clause room 1 item read)
    {bound : Nat} (hbound : room ≤ bound) (items : List α) :
    Follows ahead clause room 0 (afterCommas item items)
      (do return items ++ (← Parse.afterCommas read bound)) := by
  induction bound generalizing room ahead items with
  | zero =>
    obtain rfl := Nat.le_zero.1 hbound
    exact .exhausted
  | succ bound ih =>
    rw [afterCommas_eq, Parse.afterCommas]
    simp only [bind_assoc, ite_bind, pure_bind, List.append_nil]
    refine .ifKind (by nofun) ((h _).next fun next => ?_) (.pure items)
    have hrest : Follows (fun _ => True) clause (room - 1 - 1) 0 (afterCommas item (items ++ [next]))
        (do return items ++ [next] ++ (← Parse.afterCommas read bound)) := ih (by omega) _
    simp only [List.append_assoc, List.singleton_append] at hrest
    exact hrest

theorem follows_commaList (h : ∀ room, Follows (fun _ => True) clause room 1 item read) :
    Follows ahead clause room 1 (commaList item) (Parse.commaList read) :=
  (h _).whatever.next fun first => .measure fun _ _ => follows_afterCommas h (Nat.le_refl _) [first]

end

end Walk

end RelStore.Sql
