/-
The reader of conditions is a reader of the grammar.
-/
import RelStore.Proofs.Sql.Readers

namespace RelStore.Sql

theorem AggregateFn.name_of_ofName? {name : String} {fn : AggregateFn}
    (h : ofName? name = some fn) : name = fn.name :=
  (beq_iff_eq.1 (List.find?_some (p := fun fn : AggregateFn => fn.name == name) h)).symm

theorem CompareOp.symbol_of_ofSymbol? {symbol : String} {op : CompareOp}
    (h : ofSymbol? symbol = some op) : op.symbol = symbol :=
  beq_iff_eq.1 (List.find?_some (p := fun op : CompareOp => op.symbol == symbol) h)

theorem IsColumn.starts {words : List Word} {ref : ColumnRef} (h : IsColumn words ref) :
    ∃ name others, words = .name name :: others := by
  cases h <;> exact ⟨_, _, rfl⟩

theorem IsAggregate.starts {words : List Word} {call : AggregateCall} (h : IsAggregate words call) :
    ∃ name others, words = .name name :: .sign .lparen :: others ∧ IsFunction name call.fn := by
  cases h with
  | rows hname => exact ⟨_, _, rfl, hname⟩
  | column hname _ => exact ⟨_, _, rfl, hname⟩

theorem IsColumn.second_ne {words : List Word} {ref : ColumnRef} (h : IsColumn words ref)
    {more : List Word} (hmore : Followed (·.kind ≠ .lparen) more) :
    (Word.second (words ++ more)).kind ≠ .lparen := by
  cases h with
  | alone column =>
    cases more with
    | nil => exact absurd hmore id
    | cons word _ => exact hmore
  | qualified table column => nofun

/-- The words that may follow an operand. -/
def AfterOperand (word : Word) : Prop := word.kind ≠ .dot ∧ word.kind ≠ .lparen

/-- The words that may come first in an operand. -/
def StartsOperand (word : Word) : Prop := word.kind ≠ .lparen ∧ word ≠ .keyword "NOT"

theorem IsOperand.starts {clause : Clause} {words : List Word} {e : Expr}
    (h : IsOperand clause words e) :
    ∃ first others, words = first :: others ∧ StartsOperand first := by
  cases h with
  | literal hliteral =>
    exact ⟨_, [], rfl, by cases hliteral <;> exact ⟨by nofun, by nofun⟩⟩
  | column hcolumn =>
    obtain ⟨name, others, rfl⟩ := hcolumn.starts
    exact ⟨_, _, rfl, by nofun, by nofun⟩
  | aggregate _ hcall =>
    obtain ⟨name, others, rfl, -⟩ := hcall.starts
    exact ⟨_, _, rfl, by nofun, by nofun⟩

/-- A test starts with no word that could belong to the operand before it. -/
theorem IsTest.follows {clause : Clause} {left e : Expr} {words more : List Word}
    (h : IsTest clause left words e) (hmore : Followed AfterOperand more) :
    Followed AfterOperand (words ++ more) := by
  cases h with
  | none => exact hmore
  | comparison op _ => cases op <;> exact ⟨by nofun, by nofun⟩
  | isNull negated => exact ⟨by nofun, by nofun⟩
  | between negated _ _ => cases negated <;> exact ⟨by nofun, by nofun⟩
  | inList negated _ => cases negated <;> exact ⟨by nofun, by nofun⟩
  | like negated pattern => cases negated <;> exact ⟨by nofun, by nofun⟩

/-- A predicate starts with no NOT. -/
theorem Derives.starts {clause : Clause} {words : List Word} {e : Expr}
    (h : Derives clause .predicate words e) :
    ∃ first others, words = first :: others ∧ first ≠ .keyword "NOT" := by
  cases h with
  | parentheses _ => exact ⟨_, _, rfl, by nofun⟩
  | test hleft _ =>
    obtain ⟨first, others, rfl, hfirst⟩ := hleft.starts
    exact ⟨first, _, rfl, hfirst.2⟩

namespace Parse

variable {before : List Word} {clause : Clause}

/-! ## What is taken for operands -/

theorem takes_literal? : Takes before literal? fun words value? mid =>
    (∀ value ∈ value?, ∃ word, words = [word] ∧ IsLiteral word value) ∧
      (value? = none → words = [] ∧ mid = before) := by
  refine takes_peek.bind fun words token mid h => ?_
  obtain ⟨rfl, hfirst, rfl⟩ := h
  have hfound {value : Value} (hkind : token.kind ≠ .eof) (h : IsLiteral token.word value) :
      Takes mid (advance >>= fun _ => pure (some value)) fun words value? rest =>
        (∀ value ∈ value?, ∃ word, words = [word] ∧ IsLiteral word value) ∧
          (value? = none → words = [] ∧ rest = mid) := by
    refine (takes_advance (hfirst ▸ hkind)).bind fun words _ _ hwords => .pure ⟨?_, nofun⟩
    rintro _ ⟨⟩
    exact ⟨token.word, by simp [hwords.1, hfirst], h⟩
  have hnone : Takes mid (pure none) fun words value? rest =>
      (∀ value ∈ value?, ∃ word, words = [word] ∧ IsLiteral word value) ∧
        (value? = none → words = [] ∧ rest = mid) :=
    .pure ⟨nofun, fun _ => ⟨rfl, rfl⟩⟩
  split
  next hkind =>
    have hword : token.word = ⟨.number, token.lexeme⟩ := congrArg (Word.mk · _) hkind
    refine (takes_advance (hfirst ▸ by rw [hword]; nofun)).bind fun words _ _ hwords => ?_
    refine .ite (fun hrange => .pure ⟨?_, nofun⟩) fun _ => .throws _
    rintro _ ⟨⟩
    refine ⟨⟨.number, token.lexeme⟩, by simp [hwords.1, ← hfirst, hword], .number _ fun _ => ?_⟩
    rwa [Bool.or_eq_true, List.contains_iff_mem] at hrange
  next hkind =>
    have hword : token.word = .quoted token.lexeme := congrArg (Word.mk · _) hkind
    exact hfound (hkind.trans_ne nofun) (hword ▸ .text _)
  next hkind =>
    have hword : token.word = .keyword token.lexeme := congrArg (Word.mk · _) hkind
    split
    next hlexeme => exact hfound (hkind.trans_ne nofun) (hword.trans (congrArg _ hlexeme) ▸ .true)
    next hlexeme => exact hfound (hkind.trans_ne nofun) (hword.trans (congrArg _ hlexeme) ▸ .false)
    next hlexeme => exact hfound (hkind.trans_ne nofun) (hword.trans (congrArg _ hlexeme) ▸ .null)
    next => exact hnone
  next => exact hnone

theorem takes_columnRef : Takes before columnRef fun words ref _ => IsColumn words ref := by
  refine (takes_name _).bind fun words first mid hfirst => ?_
  subst hfirst
  refine takes_ifSign (isSign (by decide)) (fun mid => ?_) fun mid => .pure (.alone first)
  refine (takes_name _).gives fun words column mid hcolumn => ?_
  subst hcolumn
  exact .qualified first column

theorem takes_aggregateAhead? : Takes before aggregateAhead? fun words fn? mid =>
    words = [] ∧ mid = before ∧
      ∀ fn ∈ fn?, ∃ name, Word.first before = .name name ∧ IsFunction name fn := by
  refine takes_peek.bind fun words token mid h => takes_peekSecond.bind fun words second mid' h' => ?_
  obtain ⟨rfl, hfirst, rfl⟩ := h
  obtain ⟨rfl, -, rfl⟩ := h'
  refine .ite (fun hkind => .pure ⟨rfl, rfl, fun fn hfn => ?_⟩) fun _ => .pure ⟨rfl, rfl, nofun⟩
  exact ⟨token.lexeme, hfirst ▸ congrArg (Word.mk · _) hkind.1, AggregateFn.name_of_ofName? hfn⟩

theorem takes_aggregateCall {name : String} {fn : AggregateFn} (hname : IsFunction name fn)
    (hbefore : Word.first before = .name name) :
    Takes before (aggregateCall fn) fun words call _ => IsAggregate words call := by
  refine (takes_advance (by rw [hbefore]; nofun)).bind fun first _ mid hfirst => ?_
  refine (takes_sign (isSign (by decide)) _).bind fun opening _ mid hopening => ?_
  refine (takes_atKind .star).bind fun none star mid hstar => ?_
  rw [hbefore] at hfirst
  obtain ⟨rfl, rfl⟩ := hfirst
  obtain ⟨rfl, rfl, rfl⟩ := hstar
  subst hopening
  refine .ite (fun hstar => ?_) fun _ => ?_
  · refine .ite (fun _ => .failsBefore _) fun hfn => ?_
    obtain rfl : fn = .count := not_not.1 hfn
    refine .lexical fun hlexical => ?_
    have hstar := eq_sign_of_lexical (isSign (by decide)) hlexical (beq_iff_eq.1 hstar)
    refine (takes_advance (by rw [hstar]; nofun)).bind fun inner _ mid hinner => ?_
    refine (takes_sign (isSign (by decide)) _).bind fun closing _ mid hclosing => .pure ?_
    rw [hinner.1, hstar, hclosing]
    exact .rows hname
  · refine (takes_atWord "DISTINCT").bind fun none _ mid hdistinct => ?_
    refine .ite (fun _ => .throwsBefore _) fun _ => ?_
    refine (takes_atKind .identifier).bind fun none' _ mid' hidentifier => ?_
    refine takes_aggregateAhead?.bind fun none'' _ mid'' hahead => ?_
    obtain ⟨rfl, rfl, -⟩ := hdistinct
    obtain ⟨rfl, rfl, -⟩ := hidentifier
    obtain ⟨rfl, rfl, -⟩ := hahead
    refine .ite (fun _ => ?_) fun _ => ?_
    · refine (takes_atKind .rparen).bind fun _ _ _ _ => (takes_atKind .eof).bind fun _ _ _ _ => ?_
      exact .ite (fun _ => .failsBefore _) fun _ => .throwsBefore _
    · refine takes_columnRef.bind fun words ref mid hwords => ?_
      exact takes_ifSign (isSign (by decide)) (fun mid => .pure (.column hname hwords)) fun _ => .throws _

theorem takes_operand : Takes before (operand clause) fun words e _ => IsOperand clause words e := by
  refine takes_literal?.bind fun words value? mid hvalue => ?_
  cases value? with
  | some value =>
    obtain ⟨word, rfl, hliteral⟩ := hvalue.1 value rfl
    exact .pure (.literal hliteral)
  | none =>
    obtain ⟨rfl, rfl⟩ := hvalue.2 rfl
    refine takes_aggregateAhead?.bind fun words fn? mid hfn => ?_
    obtain ⟨rfl, rfl, hname⟩ := hfn
    cases fn? with
    | some fn =>
      refine .ite (fun hclause => ?_) fun _ => ?_
      · obtain ⟨name, hfirst, hfunction⟩ := hname fn rfl
        exact (takes_aggregateCall hfunction hfirst).gives fun _ _ _ => .aggregate hclause
      · exact takes_peek.bind fun _ _ _ _ => .throws _
    | none =>
      refine (takes_atKind .identifier).bind fun words _ mid hidentifier => ?_
      obtain ⟨rfl, rfl, -⟩ := hidentifier
      refine .ite (fun _ => ?_) fun _ => .fails _
      exact takes_columnRef.gives fun _ _ _ => .column

/-! ## What is taken for predicates -/

theorem takes_comparison? : Takes before comparison? fun words op? mid =>
    words = [] ∧ mid = before ∧ ∀ op ∈ op?, Word.first before = op.word := by
  refine .lexical fun hlexical => takes_peek.bind fun words token mid h => ?_
  obtain ⟨rfl, hfirst, rfl⟩ := h
  refine .ite (fun hkind => .pure ⟨rfl, rfl, fun op hop => ?_⟩) fun _ => .pure ⟨rfl, rfl, nofun⟩
  rw [← hfirst] at hlexical ⊢
  have hsymbol := CompareOp.symbol_of_ofSymbol? hop
  obtain ⟨kind, lexeme, place⟩ := token
  subst hsymbol
  rcases hkind with rfl | rfl
  · have heq : op.symbol = "=" := hlexical
    cases op <;> first | rfl | exact absurd heq (by decide)
  · have hmem : op.symbol ∈ ["<", ">", "<=", ">=", "<>", "!="] := hlexical
    cases op <;> first | rfl | exact absurd hmem (by decide)

/-- The keywords that NOT stands before. -/
def Negatable (word : Word) : Prop :=
  word = .keyword "BETWEEN" ∨ word = .keyword "IN" ∨ word = .keyword "LIKE"

instance : DecidablePred Negatable := fun _ => inferInstanceAs (Decidable (_ ∨ _ ∨ _))

theorem takes_negationAhead : Takes before negationAhead fun words negated mid =>
    words = [] ∧ mid = before ∧ (negated = true →
      Word.first before = .keyword "NOT" ∧ Negatable (Word.first before.tail)) := by
  refine takes_peekSecond.bind fun words second mid h => ?_
  refine (takes_atWord "NOT").bind fun words found mid hfound => .pure ?_
  obtain ⟨rfl, hsecond, rfl⟩ := h
  obtain ⟨rfl, rfl, hiff⟩ := hfound
  refine ⟨rfl, rfl, fun h => ?_⟩
  rw [Bool.and_eq_true, hiff, Bool.or_eq_true, Bool.or_eq_true, Token.isWord_iff, Token.isWord_iff,
    Token.isWord_iff, hsecond, or_assoc] at h
  obtain ⟨hnot, hnegatable⟩ := h
  refine ⟨hnot, ?_⟩
  match mid, hnot, hnegatable with
  | _ :: _ :: _, _, hnegatable => exact hnegatable
  | [word], hnot, hnegatable =>
    obtain rfl : word = .keyword "NOT" := hnot
    exact absurd hnegatable (by decide)

section

variable (left : Expr) (negated : Bool)

theorem takes_between : Takes before (do
      let low ← operand clause
      expectWordAs "AND" "AND in BETWEEN"
      let high ← operand clause
      return .between left low high negated) fun words e _ =>
    IsTest clause left (wordIf negated "NOT" ++ .keyword "BETWEEN" :: words) e := by
  refine takes_operand.bind fun words low mid hlow => ?_
  refine (takes_expectWordAs "AND" _).bind fun words _ mid hand => ?_
  subst hand
  exact takes_operand.gives fun words high mid hhigh => .between negated hlow hhigh

theorem takes_inList : Takes before (do
      let _ ← expect .lparen
      let values ← commaList (operand clause)
      let _ ← expectAs .rparen "',' or ')'"
      return .inList left values negated) fun words e _ =>
    IsTest clause left (wordIf negated "NOT" ++ .keyword "IN" :: words) e := by
  refine (takes_sign (isSign (by decide)) _).bind fun words _ mid hopening => ?_
  refine (takes_commaList fun _ => takes_operand).bind fun words values mid hvalues => ?_
  refine (takes_sign (isSign (by decide)) _).gives fun words _ mid hclosing => ?_
  subst hopening hclosing
  exact .inList negated hvalues

theorem takes_like : Takes before (do
      let pattern ← expectAs .string "a quoted LIKE pattern"
      return .like left pattern.lexeme negated) fun words e _ =>
    IsTest clause left (wordIf negated "NOT" ++ .keyword "LIKE" :: words) e := by
  refine (takes_expectAs (by nofun) _).gives fun words pattern mid hpattern => ?_
  obtain ⟨rfl, hkind⟩ := hpattern
  have hword : pattern.word = .quoted pattern.lexeme := congrArg (Word.mk · _) hkind
  rw [hword]
  exact .like negated pattern.lexeme

end

theorem takes_afterOperand (left : Expr) : Takes before (afterOperand clause left) fun words e _ =>
    IsTest clause left words e := by
  refine takes_comparison?.bind fun words op? mid hop => ?_
  obtain ⟨rfl, rfl, hword⟩ := hop
  cases op? with
  | some op =>
    have hfirst := hword op rfl
    refine (takes_advance (by rw [hfirst]; cases op <;> nofun)).bind fun words _ mid hwords => ?_
    rw [hwords.1, hfirst]
    exact takes_operand.gives fun others right mid => .comparison op
  | none =>
    refine takes_ifWord (fun mid => ?_) fun _ => ?_
    · refine (takes_acceptWord "NOT").bind fun words negated mid hnot => ?_
      refine (takes_expectWordAs "NULL" _).gives fun words _ mid hnull => ?_
      obtain ⟨rfl, -⟩ := hnot
      subst hnull
      exact .isNull negated
    · refine takes_negationAhead.bind fun words negated mid hnegated => ?_
      obtain ⟨rfl, rfl, hnot⟩ := hnegated
      extract_lets rest
      -- NOT is taken only if one of the three keywords follows it
      have hrest (ahead : List Word) (hnext : negated = true → Negatable (Word.first ahead)) :
          Takes ahead (rest ()) fun words e _ =>
            IsTest clause left (wordIf negated "NOT" ++ words) e := by
        refine takes_ifWord (fun _ => takes_between left negated) fun hbetween => ?_
        refine takes_ifWord (fun _ => takes_inList left negated) fun hin => ?_
        refine takes_ifWord (fun _ => takes_like left negated) fun hlike => .pure ?_
        cases negated
        · exact .none
        · rcases hnext rfl with h | h | h <;> contradiction
      refine .ite (fun h => ?_) fun h => ?_
      · obtain ⟨hfirst, hsecond⟩ := hnot h
        refine (takes_advance (by rw [hfirst]; nofun)).bind fun words _ mid hwords => ?_
        obtain ⟨rfl, rfl⟩ := hwords
        rw [hfirst]
        subst h
        exact hrest _ fun _ => hsecond
      · obtain rfl := Bool.eq_false_iff.2 h
        exact hrest mid nofun

/-! ## What is taken for conditions -/

theorem takes_predicate {inner : Parse Expr}
    (hinner : ∀ before, Takes before inner fun words e _ => Derives clause .expr words e) :
    Takes before (predicate clause inner) fun words e _ => Derives clause .predicate words e := by
  refine takes_ifSign (isSign (by decide)) (fun mid => ?_) fun mid => ?_
  · refine (hinner mid).bind fun words e mid he => ?_
    refine (takes_sign (isSign (by decide)) _).gives fun words _ mid hclosing => ?_
    subst hclosing
    exact .parentheses he
  · refine takes_operand.bind fun words left mid hleft => ?_
    exact (takes_afterOperand left).mono fun others e _ => .test hleft

theorem takes_negation {item : Parse Expr}
    (hitem : ∀ before, Takes before item fun words e _ => Derives clause .predicate words e)
    (bound : Nat) :
    Takes before (negation item bound) fun words e _ => Derives clause .negation words e := by
  induction bound generalizing before with
  | zero => exact (hitem before).mono fun _ _ _ => .predicate
  | succ bound ih =>
    refine takes_ifWord (fun mid => ?_) fun _ => (hitem before).mono fun _ _ _ => .predicate
    exact ih.gives fun _ _ _ => .not

section

variable {word : String} {join : Expr → Expr → Expr} {item : Parse Expr} {whole part : Nonterminal}

theorem takes_chainAfter
    (hjoin : ∀ {words others left right}, Derives clause whole words left →
      Derives clause part others right →
        Derives clause whole (words ++ .keyword word :: others) (join left right))
    (hitem : ∀ before, Takes before item fun words e _ => Derives clause part words e) (bound : Nat)
    {words : List Word} {left : Expr} (hleft : Derives clause whole words left) :
    Takes before (chainAfter word join item bound left) fun others e _ =>
      Derives clause whole (words ++ others) e := by
  induction bound generalizing before words left with
  | zero => exact .pure (List.append_nil _ ▸ hleft)
  | succ bound ih =>
    refine takes_ifWord (fun mid => ?_) fun _ => .pure (List.append_nil _ ▸ hleft)
    refine (hitem mid).bind fun others right mid hright => (ih (hjoin hleft hright)).mono ?_
    intro more e _ he
    rwa [List.append_assoc] at he

theorem takes_chain
    (hjoin : ∀ {words others left right}, Derives clause whole words left →
      Derives clause part others right →
        Derives clause whole (words ++ .keyword word :: others) (join left right))
    (hpart : ∀ {words e}, Derives clause part words e → Derives clause whole words e)
    (hitem : ∀ before, Takes before item fun words e _ => Derives clause part words e) :
    Takes before (chain word join item) fun words e _ => Derives clause whole words e :=
  (hitem before).bind fun _ _ _ hfirst => .get fun _ => takes_chainAfter hjoin hitem _ (hpart hfirst)

end

theorem takes_exprWithin (depth : Nat) :
    Takes before (exprWithin clause depth) fun words e _ => Derives clause .expr words e := by
  induction depth generalizing before with
  | zero => exact .fails _
  | succ depth ih =>
    refine takes_chain .or .conjunct fun before => takes_chain .and .negation fun before => ?_
    exact .get fun _ => takes_negation (fun before => takes_predicate fun before => ih) _

theorem takes_expr : Takes before (expr clause) fun words e _ => Derives clause .expr words e :=
  .get fun _ => takes_exprWithin _

/-! ## What is read as an operand -/

section

variable {words : List Word} {follow : List Word → Prop}

theorem reads_literal? {word : Word} {value : Value} (h : IsLiteral word value) :
    Reads literal? [word] (some value) follow := by
  refine .peek (P := (· = word)) (fun token htoken => ?_) fun _ _ => rfl
  obtain ⟨kind, lexeme, place⟩ := token
  cases h with
  | number numeral hrange =>
    cases htoken
    refine .advance (by nofun) (.ofPos ?_ .pure)
    rw [Bool.or_eq_true, List.contains_iff_mem]
    exact hrange rfl
  | text content =>
    cases htoken
    exact .advance (by nofun) .pure
  | true =>
    cases htoken
    exact .advance (by nofun) .pure
  | false =>
    cases htoken
    exact .advance (by nofun) .pure
  | null =>
    cases htoken
    exact .advance (by nofun) .pure

theorem reads_literal?_none : Reads literal? [] none (Followed fun word => word.kind = .identifier) := by
  refine .peek (P := fun word => word.kind = .identifier) (fun token htoken => ?_) fun more h => ?_
  · obtain ⟨kind, lexeme, place⟩ := token
    obtain rfl : kind = .identifier := htoken
    exact .pure
  · cases more with
    | nil => exact absurd h id
    | cons word _ => exact h

theorem reads_columnRef {ref : ColumnRef} (h : IsColumn words ref) :
    Reads columnRef words ref (Followed fun word => word.kind ≠ .dot) := by
  cases h with
  | alone column =>
    exact (reads_name _ _).andThen ((reads_accept_other .dot).after .pure fun _ h => h)
  | qualified table column =>
    exact (reads_name _ _).andThen ((reads_accept (by nofun) _).andThen ((reads_name _ _).andThen .pure))

theorem aggregateName?_of_isFunction {name : String} {fn : AggregateFn} (h : IsFunction name fn) :
    aggregateName? name = some fn :=
  (congrArg AggregateFn.ofName? h).trans fn.ofName?_name

theorem reads_aggregateAhead?_none :
    Reads aggregateAhead? [] none fun more => (Word.second more).kind ≠ .lparen := by
  refine .peek (P := fun _ => True) (fun token _ => ?_) fun _ _ => trivial
  refine .peekSecond (P := fun word => word.kind ≠ .lparen) (fun second h => ?_) fun _ h => h
  exact .ofNeg (fun hkinds => h hkinds.2) .pure

theorem reads_aggregateAhead? (fn : AggregateFn) : Reads aggregateAhead? [] (some fn)
    fun more => ∃ name others, more = .name name :: .sign .lparen :: others ∧ IsFunction name fn := by
  refine .peek (P := fun word => ∃ name, word = .name name ∧ IsFunction name fn) (fun token h => ?_) ?_
  · refine .peekSecond (P := (· = .sign .lparen)) (fun second hsecond => ?_) ?_
    · obtain ⟨name, hword, hname⟩ := h
      refine .ofPos ⟨congrArg Word.kind hword, congrArg Word.kind hsecond⟩ ?_
      rw [show token.lexeme = name from congrArg Word.lexeme hword, aggregateName?_of_isFunction hname]
      exact .pure
    · rintro _ ⟨name, others, rfl, hname⟩
      rfl
  · rintro _ ⟨name, others, rfl, hname⟩
    exact ⟨name, rfl, hname⟩

theorem reads_aggregateCall {call : AggregateCall} (h : IsAggregate words call) :
    Reads (aggregateCall call.fn) words call follow := by
  cases h with
  | rows hname =>
    refine .advance (by nofun) (.sign (by nofun) ?_)
    refine (reads_atKind .star true).after (.ofPos rfl (.ofNeg (not_not.2 rfl) ?_)) fun _ _ => rfl
    exact .advance (by nofun) (.sign (by nofun) .pure)
  | column hname hwords =>
    refine .advance (by nofun) (.sign (by nofun) ?_)
    obtain ⟨name, others, hstart⟩ := hwords.starts
    refine (reads_atKind .star false).after (.ofNeg nofun ?_) fun _ _ => by rw [hstart]; rfl
    refine (reads_atWord "DISTINCT" false).after (.ofNeg nofun ?_) fun _ _ => by rw [hstart]; rfl
    refine (reads_atKind .identifier true).after ?_ fun _ _ => by rw [hstart]; rfl
    refine reads_aggregateAhead?_none.after (.ofNeg nofun ?_) fun more _ => ?_
    · refine (reads_columnRef hwords).bind ?_ fun _ _ => by nofun
      exact (reads_accept (by nofun) _).andThen (.ofPos rfl .pure)
    · rw [List.append_assoc]
      exact hwords.second_ne (by nofun)

theorem reads_operand {e : Expr} (h : IsOperand clause words e) :
    Reads (operand clause) words e (Followed AfterOperand) := by
  cases h with
  | literal hliteral => exact (reads_literal? hliteral).finish .pure fun _ h => h
  | column hcolumn =>
    obtain ⟨name, others, hstart⟩ := hcolumn.starts
    refine reads_literal?_none.after ?_ fun _ _ => by rw [hstart]; rfl
    refine reads_aggregateAhead?_none.after ?_ fun more h => hcolumn.second_ne (.mono (fun _ h => h.2) _ h)
    refine (reads_atKind .identifier true).after (.ofPos rfl ?_) fun _ _ => by rw [hstart]; rfl
    exact (reads_columnRef hcolumn).finish .pure (Followed.mono fun _ h => h.1)
  | aggregate hclause hcall =>
    obtain ⟨name, others, hstart, hname⟩ := hcall.starts
    refine reads_literal?_none.after ?_ fun _ _ => by rw [hstart]; rfl
    refine (reads_aggregateAhead? _).after ?_ fun more h => ⟨name, _, by rw [hstart]; rfl, hname⟩
    exact .ofPos hclause ((reads_aggregateCall hcall).finish .pure fun _ h => h)

/-! ## What is read as a predicate -/

/-- The words that may follow a predicate. -/
structure AfterPredicate (word : Word) : Prop where
  operand : AfterOperand word
  kind : word.kind ≠ .equals ∧ word.kind ≠ .comparison
  keyword : word ∉ [.keyword "IS", .keyword "NOT", .keyword "BETWEEN", .keyword "IN", .keyword "LIKE"]

theorem reads_comparison? (op : CompareOp) :
    Reads comparison? [] (some op) fun more => Word.first more = op.word := by
  refine .peek (P := (· = op.word)) (fun token htoken => ?_) fun _ h => h
  obtain ⟨kind, lexeme, place⟩ := token
  have hsymbol : lexeme = op.symbol := (congrArg Word.lexeme htoken).trans (by cases op <;> rfl)
  have hkind : kind = .equals ∨ kind = .comparison := by
    rw [show kind = op.word.kind from congrArg Word.kind htoken]
    cases op
    · exact .inl rfl
    all_goals exact .inr rfl
  refine .ofPos hkind ?_
  rw [hsymbol, CompareOp.ofSymbol?_symbol]
  exact .pure

theorem reads_comparison?_none : Reads comparison? [] none
    (Followed fun word => word.kind ≠ .equals ∧ word.kind ≠ .comparison) := by
  refine .peek (P := fun word => word.kind ≠ .equals ∧ word.kind ≠ .comparison) (fun token h => ?_) ?_
  · exact .ofNeg (not_or.2 h) .pure
  · intro more h
    cases more with
    | nil => exact absurd h id
    | cons word _ => exact h

theorem reads_negationAhead (negated : Bool) : Reads negationAhead [] negated fun more =>
    negated = true ↔ Word.first more = .keyword "NOT" ∧ Negatable (Word.second more) := by
  intro tokens rest hwords hnegated
  obtain rfl := List.map_eq_nil_iff.1 hwords
  obtain ⟨second, hrun, hsecond⟩ := run_peekSecond rest
  refine (run_bind_of_run hrun).trans (congrArg (fun b => Except.ok (b, rest)) ?_)
  rw [Bool.eq_iff_iff, hnegated, Bool.and_eq_true, Bool.or_eq_true, Bool.or_eq_true, Token.isWord_iff,
    Token.isWord_iff, Token.isWord_iff, Token.isWord_iff, hsecond, word_peek, or_assoc]
  rfl

/-- A reader that comes after NOT, or after no NOT. -/
theorem reads_notIf {β : Type} {f : Bool → Parse β} {b : β} (negated : Bool)
    (hwords : Negatable (Word.first words)) (h : Reads (f negated) words b follow) :
    Reads (do
      let negated ← negationAhead
      if negated then advance
      f negated) (wordIf negated "NOT" ++ words) b follow := by
  cases words with
  | nil => exact absurd hwords (by decide)
  | cons word words =>
    refine (reads_negationAhead negated).after ?_ fun more _ => ?_
    · cases negated
      · exact .ofNeg nofun h
      · exact .ofPos rfl (.advance (by nofun) h)
    · cases negated
      · refine iff_of_false nofun fun hnot => ?_
        obtain rfl : word = .keyword "NOT" := hnot.1
        exact absurd (show Negatable (.keyword "NOT") from hwords) (by decide)
      · exact iff_of_true rfl ⟨rfl, hwords⟩

theorem reads_afterOperand {left e : Expr} (h : IsTest clause left words e) :
    Reads (afterOperand clause left) words e (Followed AfterPredicate) := by
  cases h with
  | none =>
    have hkeyword (word : String) (h : Word.keyword word ∈ [Word.keyword "IS", .keyword "NOT",
        .keyword "BETWEEN", .keyword "IN", .keyword "LIKE"]) (more : List Word)
        (hmore : Followed AfterPredicate more) : Followed (· ≠ .keyword word) more :=
      Followed.mono (fun next hnext heq => hnext.keyword (by rwa [heq])) more hmore
    refine reads_comparison?_none.after ?_ (Followed.mono fun _ h => h.kind)
    refine .unlessWord (hkeyword _ (by decide)) ?_
    refine (reads_negationAhead false).after (.ofNeg nofun ?_) fun more hmore => ?_
    · refine .unlessWord (hkeyword _ (by decide)) ?_
      refine .unlessWord (hkeyword _ (by decide)) ?_
      exact .unlessWord (hkeyword _ (by decide)) .pure
    · refine iff_of_false nofun fun hnot => ?_
      have hother := hkeyword "NOT" (by decide) more hmore
      cases more with
      | nil => exact hother
      | cons word _ => exact hother hnot.1
  | comparison op hright =>
    refine (reads_comparison? op).after ?_ fun _ _ => rfl
    exact .advance (by cases op <;> nofun)
      ((reads_operand hright).finish .pure (Followed.mono fun _ h => h.operand))
  | isNull negated =>
    refine reads_comparison?_none.after ?_ fun _ _ => ⟨by nofun, by nofun⟩
    refine .ifWord ?_
    refine (reads_acceptWordIf "NOT" negated).bind ?_ fun _ _ => by nofun
    exact (reads_expectWordAs "NULL" _).andThen .pure
  | between negated hlow hhigh =>
    refine reads_comparison?_none.after ?_ fun _ _ => by cases negated <;> exact ⟨nofun, nofun⟩
    refine .unlessWord (fun _ _ => by cases negated <;> nofun) ?_
    refine reads_notIf negated (.inl rfl) ?_
    refine .ifWord ?_
    refine (reads_operand hlow).bind ?_ fun _ _ => ⟨by nofun, by nofun⟩
    refine (reads_expectWordAs "AND" _).andThen ?_
    exact (reads_operand hhigh).finish .pure (Followed.mono fun _ h => h.operand)
  | inList negated hvalues =>
    refine reads_comparison?_none.after ?_ fun _ _ => by cases negated <;> exact ⟨nofun, nofun⟩
    refine .unlessWord (fun _ _ => by cases negated <;> nofun) ?_
    refine reads_notIf negated (.inr (.inl rfl)) ?_
    refine .unlessWord (fun _ _ => by nofun) ?_
    refine .ifWord (.sign (by nofun) ?_)
    refine (reads_commaList (fun _ _ => reads_operand) ⟨by nofun, by nofun⟩ hvalues).bind ?_ fun _ _ =>
      ⟨by nofun, by nofun, by nofun⟩
    exact .sign (by nofun) .pure
  | like negated pattern =>
    refine reads_comparison?_none.after ?_ fun _ _ => by cases negated <;> exact ⟨nofun, nofun⟩
    refine .unlessWord (fun _ _ => by cases negated <;> nofun) ?_
    refine reads_notIf negated (.inr (.inr rfl)) ?_
    refine .unlessWord (fun _ _ => by nofun) ?_
    refine .unlessWord (fun _ _ => by nofun) ?_
    refine .ifWord ?_
    refine Reads.expectAs (.quoted pattern) (by nofun) fun token htoken => ?_
    obtain rfl : token.lexeme = pattern := congrArg Word.lexeme htoken
    exact .pure

/-! ## What is read as a condition -/

theorem reads_parentheses {inner : Parse Expr} {e : Expr}
    (h : Reads inner words e (Followed (· = .sign .rparen))) :
    Reads (predicate clause inner) (.sign .lparen :: (words ++ [.sign .rparen])) e follow := by
  refine (reads_accept (by nofun) _).andThen (.ofPos rfl ?_)
  exact h.bind (.sign (by nofun) .pure) fun _ _ => rfl

theorem reads_test {inner : Parse Expr} {others : List Word} {left e : Expr}
    (hleft : IsOperand clause words left) (htest : IsTest clause left others e) :
    Reads (predicate clause inner) (words ++ others) e (Followed AfterPredicate) := by
  obtain ⟨first, tail, rfl, hfirst⟩ := hleft.starts
  refine (reads_accept_other .lparen).after (.ofNeg nofun ?_) fun _ _ => hfirst.1
  exact (reads_operand hleft).bind (reads_afterOperand htest)
    fun more hmore => htest.follows (Followed.mono (fun _ h => h.operand) more hmore)

section

variable {word : String} {join : Expr → Expr → Expr} {item : Parse Expr} {after : Word → Prop}

/-- A chain reads the words up to a point as the tree `e` and may go on from there. -/
def ReadsTo (word : String) (join : Expr → Expr → Expr) (item : Parse Expr) (after : Word → Prop)
    (words : List Word) (e : Expr) : Prop :=
  ∀ tokens rest, tokens.map Token.word = words → Followed after (rest.map Token.word) →
    ∃ bound, rest.length ≤ bound ∧
      (chain word join item).run (tokens ++ rest) = (chainAfter word join item bound e).run rest

theorem ReadsTo.first {e : Expr} (h : Reads item words e (Followed after)) :
    ReadsTo word join item after words e := by
  intro tokens rest hwords hafter
  exact ⟨rest.length, Nat.le_refl _, run_bind_of_run (h tokens rest hwords hafter)⟩

theorem ReadsTo.more {others : List Word} {left right : Expr}
    (hleft : ReadsTo word join item after words left)
    (hright : Reads item others right (Followed after)) (hword : after (.keyword word)) :
    ReadsTo word join item after (words ++ .keyword word :: others) (join left right) := by
  intro tokens rest hwords hafter
  obtain ⟨tokens, mid, rfl, htokens, hmid⟩ := List.map_eq_append_iff.1 hwords
  obtain ⟨token, mid, rfl, htoken, hmid⟩ := List.map_eq_cons_iff.1 hmid
  obtain ⟨bound, hbound, hrun⟩ := hleft tokens (token :: (mid ++ rest)) htokens
    (by rw [List.map_cons, htoken]; exact hword)
  obtain ⟨bound, rfl, hless⟩ := exists_of_length_cons_le hbound
  refine ⟨bound, ?_, ?_⟩
  · rw [List.length_append] at hless
    omega
  · have htaken : Reads (acceptWord word) [.keyword word] true fun _ => True := reads_acceptWord word
    rw [List.append_assoc, List.cons_append, hrun]
    refine (run_bind_of_run (htaken [token] (mid ++ rest) (congrArg (· :: []) htoken) trivial)).trans ?_
    exact run_bind_of_run (hright mid rest hmid hafter)

theorem ReadsTo.reads {e : Expr} (h : ReadsTo word join item after words e) :
    Reads (chain word join item) words e (Followed fun next => after next ∧ next ≠ .keyword word) := by
  intro tokens rest hwords hfollow
  obtain ⟨bound, -, hrun⟩ := h tokens rest hwords (Followed.mono (fun _ h => h.1) _ hfollow)
  have hstop : Reads (chainAfter word join item bound e) [] e (Followed (· ≠ .keyword word)) := by
    cases bound with
    | zero => exact .pure
    | succ bound => exact (reads_acceptWord_other word).after (.ofNeg nofun .pure) fun _ h => h
  exact hrun.trans (hstop [] rest rfl (Followed.mono (fun _ h => h.2) _ hfollow))

end

/-- A conjunct goes on to the next AND. -/
def AfterConjunct (word : Word) : Prop := AfterPredicate word ∧ word ≠ .keyword "AND"

/-- The words that may follow a condition. -/
def AfterExpr (word : Word) : Prop := AfterConjunct word ∧ word ≠ .keyword "OR"

/-- The readers of a condition nested at most `depth` deep read these words from a symbol. -/
def ReadsFrom (clause : Clause) (depth : Nat) : Nonterminal → List Word → Expr → Prop
  | .predicate, words, e =>
    Reads (predicate clause (exprWithin clause depth)) words e (Followed AfterPredicate)
  | .negation, words, e => ∀ bound, words.length ≤ bound →
    Reads (negation (predicate clause (exprWithin clause depth)) bound) words e
      (Followed AfterPredicate)
  | .conjunct, words, e => ReadsTo "AND" .and
    (do negation (predicate clause (exprWithin clause depth)) (← get).length) AfterPredicate words e
  | .expr, words, e => ReadsTo "OR" .or
    (chain "AND" .and do negation (predicate clause (exprWithin clause depth)) (← get).length)
    AfterConjunct words e

theorem afterPredicate {word : Word} (hkind : word.kind = .keyword ∨ word.kind = .rparen ∨
      word.kind = .semicolon ∨ word.kind = .comma ∨ word.kind = .eof)
    (hword : word ∉ [.keyword "IS", .keyword "NOT", .keyword "BETWEEN", .keyword "IN", .keyword "LIKE"]) :
    AfterPredicate word := by
  obtain ⟨kind, lexeme⟩ := word
  rcases hkind with rfl | rfl | rfl | rfl | rfl <;>
    exact ⟨⟨by nofun, by nofun⟩, ⟨by nofun, by nofun⟩, hword⟩

theorem readsFrom_of_derives {symbol : Nonterminal} {e : Expr} (h : Derives clause symbol words e) :
    ∀ depth, words.length ≤ depth → ReadsFrom clause depth symbol words e := by
  induction h with
  | or hleft hright ihleft ihright =>
    intro depth hdepth
    rw [List.length_append, List.length_cons] at hdepth
    exact (ihleft depth (by omega)).more (ihright depth (by omega)).reads
      ⟨afterPredicate (.inl rfl) (by decide), by decide⟩
  | conjunct h ih => exact fun depth hdepth => .first (ih depth hdepth).reads
  | and hleft hright ihleft ihright =>
    intro depth hdepth
    rw [List.length_append, List.length_cons] at hdepth
    exact (ihleft depth (by omega)).more (.get fun tokens htokens => ihright depth (by omega) _ htokens)
      (afterPredicate (.inl rfl) (by decide))
  | negation h ih =>
    exact fun depth hdepth => .first (.get fun tokens htokens => ih depth hdepth _ htokens)
  | not h ih =>
    intro depth hdepth bound hbound
    obtain ⟨bound, rfl, hless⟩ := exists_of_length_cons_le hbound
    refine .ifWord ?_
    exact (ih depth (Nat.le_of_succ_le hdepth) bound hless).finish .pure fun _ h => h
  | predicate h ih =>
    intro depth hdepth bound hbound
    obtain ⟨first, others, rfl, hfirst⟩ := h.starts
    cases bound with
    | zero => exact ih depth hdepth
    | succ bound =>
      exact (reads_acceptWord_other "NOT").after (.ofNeg nofun (ih depth hdepth)) fun _ _ => hfirst
  | parentheses h ih =>
    intro depth hdepth
    obtain ⟨depth, rfl, hless⟩ := exists_of_length_cons_le hdepth
    rw [List.length_append] at hless
    refine reads_parentheses ((ih depth (by omega)).reads.mono (Followed.mono ?_))
    rintro _ rfl
    exact ⟨⟨afterPredicate (.inr (.inl rfl)) (by decide), by decide⟩, by decide⟩
  | test hleft htest => exact fun _ _ => reads_test hleft htest

theorem reads_expr {e : Expr} (h : Derives clause .expr words e) :
    Reads (expr clause) words e (Followed AfterExpr) :=
  .get fun tokens htokens => (readsFrom_of_derives h tokens.length htokens).reads

end

end Parse

/-- The words that end a condition: what comes next in the text is no part of it. -/
def conditionEnds : List Word :=
  [.last, .sign .semicolon, .sign .rparen, .keyword "WHERE", .keyword "GROUP", .keyword "HAVING",
    .keyword "ORDER", .keyword "LIMIT", .keyword "OFFSET"]

theorem afterExpr_of_mem {word : Word} (h : word ∈ conditionEnds) : Parse.AfterExpr word := by
  have hkind : ∀ word ∈ conditionEnds, word.kind = .keyword ∨ word.kind = .rparen ∨
      word.kind = .semicolon ∨ word.kind = .comma ∨ word.kind = .eof := by decide
  have hword : ∀ word ∈ conditionEnds, word ∉ [.keyword "IS", .keyword "NOT", .keyword "BETWEEN",
      .keyword "IN", .keyword "LIKE"] ∧ word ≠ .keyword "AND" ∧ word ≠ .keyword "OR" := by decide
  have hother := hword word h
  exact ⟨⟨Parse.afterPredicate (hkind word h) hother.1, hother.2.1⟩, hother.2.2⟩

/-- **The reader of a condition takes just the words that the grammar derives**, and gives the tree
that they stand for. -/
theorem read_condition_iff {clause : Clause} {e : Expr} {tokens rest : List Token} {follow : Token}
    (hlexical : AreLexical (tokens ++ follow :: rest)) (hfollow : follow.word ∈ conditionEnds) :
    (Parse.expr clause).run (tokens ++ follow :: rest) = .ok (e, follow :: rest) ↔
      Derives clause .expr (tokens.map Token.word) e := by
  constructor
  · intro h
    obtain ⟨taken, heq, -, hderives⟩ := Parse.takes_expr _ e _ hlexical rfl h
    rwa [List.append_cancel_right heq]
  · exact fun h => Parse.reads_expr h tokens (follow :: rest) rfl (afterExpr_of_mem hfollow)

/-- `NOT a AND b BETWEEN c AND d OR e;` -/
def mixedTokens : List Token :=
  [⟨.keyword, "NOT", .start⟩, ⟨.identifier, "a", .start⟩, ⟨.keyword, "AND", .start⟩,
    ⟨.identifier, "b", .start⟩, ⟨.keyword, "BETWEEN", .start⟩, ⟨.identifier, "c", .start⟩,
    ⟨.keyword, "AND", .start⟩, ⟨.identifier, "d", .start⟩, ⟨.keyword, "OR", .start⟩,
    ⟨.identifier, "e", .start⟩]

theorem read_mixedTokens :
    AreLexical (mixedTokens ++ [⟨.semicolon, ";", .start⟩]) ∧
      (Parse.expr .filter).run (mixedTokens ++ [⟨.semicolon, ";", .start⟩]) =
        .ok (.or
          (.and (.not (.column ⟨none, "a"⟩))
            (.between (.column ⟨none, "b"⟩) (.column ⟨none, "c"⟩) (.column ⟨none, "d"⟩) false))
          (.column ⟨none, "e"⟩), [⟨.semicolon, ";", .start⟩]) := by
  have hlexical : AreLexical (mixedTokens ++ [⟨.semicolon, ";", .start⟩]) := by
    have hname {c : Char} (hstart : isWordStart c = true)
        (hother : String.ofList [c.toUpper] ∉ keywords) : IsIdentifier (String.ofList [c]) :=
      ⟨⟨c, [], String.toList_ofList, hstart, nofun⟩, by rwa [String.toList_ofList]⟩
    have hkeyword {word : String} (h : word ∈ keywords) : Word.Lexical (.keyword word) := h
    simp only [AreLexical, mixedTokens, List.cons_append, List.nil_append, List.forall_mem_cons]
    refine ⟨hkeyword (by decide), hname rfl (by decide), hkeyword (by decide), hname rfl (by decide),
      hkeyword (by decide), hname rfl (by decide), hkeyword (by decide), hname rfl (by decide),
      hkeyword (by decide), hname rfl (by decide), rfl, nofun⟩
  have hcolumn (name : String) : IsOperand .filter [.name name] (.column ⟨none, name⟩) :=
    .column (.alone name)
  have hnegation (name : String) : Derives .filter .negation [.name name] (.column ⟨none, name⟩) :=
    .predicate (.test (hcolumn name) .none)
  have hbetween : Derives .filter .negation [.name "b", .keyword "BETWEEN", .name "c", .keyword "AND",
      .name "d"] (.between (.column ⟨none, "b"⟩) (.column ⟨none, "c"⟩) (.column ⟨none, "d"⟩) false) :=
    .predicate (.test (hcolumn "b") (.between false (hcolumn "c") (hcolumn "d")))
  exact ⟨hlexical, (read_condition_iff hlexical (by decide)).2
    (.or (.conjunct (.and (.negation (.not (hnegation "a"))) hbetween)) (.negation (hnegation "e")))⟩

end RelStore.Sql
