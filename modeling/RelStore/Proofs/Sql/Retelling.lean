/-
Readers of a text that is told another way.

A retelling of a text has tokens of the same kinds, which say the same, but that they stand at other
places and that names may be other names of the same things; what follows AS is called the same.
Readers do the same with both (`Retelling.Follows`): they give the same statement but for its names,
or they fail for the same reason told of the other text (`Retelling.follows_statement`).
-/
import RelStore.Proofs.Paired
import RelStore.Proofs.Sql.Readers
import RelStore.Proofs.Sql.Renaming

namespace RelStore.Sql

/-! ## Retellings -/

/-- What messages quote of a token where another was expected. -/
def Token.found (t : Token) : Option String := if t.kind = .eof then none else some t.lexeme

/-- The tokens say the same, at their places and by their names. -/
structure Token.Told (names : String → String → Prop) (places : Position → Position → Prop)
    (t u : Token) : Prop where
  kind : t.kind = u.kind
  lexeme : t.kind ≠ .identifier → t.lexeme = u.lexeme
  name : t.kind = .identifier → names t.lexeme u.lexeme
  place : places t.place u.place

/-- A way to tell texts: which names stand for the same, which places are the same, and which causes
for a text to be refused. Names for the same have one key. -/
structure Retelling where
  names : String → String → Prop
  places : Position → Position → Prop
  causes : Cause → Cause → Prop
  key : String → String
  key_eq {a b : String} : names a b → key a = key b
  /-- Names of aggregate functions are names of the same. -/
  function_eq {a b : String} : names a b → Parse.aggregateName? a = Parse.aggregateName? b
  /-- New objects may have both names or neither. -/
  checkName (kind : NameKind) {a b : String} :
    names a b → Paired causes (fun _ _ => True) (checkName kind a) (checkName kind b)
  expected (what : String) {t u : Token} : t.Told names places u →
    causes (.expected what t.found t.place) (.expected what u.found u.place)
  misplaced (fn : AggregateFn) (clause : Clause) {p q : Position} :
    places p q → causes (.misplacedAggregate fn clause p) (.misplacedAggregate fn clause q)
  outOfRange (lexeme : String) {p q : Position} :
    places p q → causes (.integerOutOfRange lexeme p) (.integerOutOfRange lexeme q)
  unsupported (feature : Feature) : causes (.unsupported feature) (.unsupported feature)
  checkPaging (clause : PagingClause) (value : Binary64) :
    Paired causes (fun _ _ => True) (checkPaging clause value) (checkPaging clause value)

/-- For retellings that keep the names. -/
theorem aggregateName?_congr {a b : String} (h : a = b) :
    Parse.aggregateName? a = Parse.aggregateName? b := congrArg _ h

namespace Retelling

variable (R : Retelling)

/-- The other tokens tell the same as these. -/
inductive Retells : List Token → List Token → Prop where
  | last {t u : Token} (h : t.Told R.names R.places u) (hkind : t.kind = .eof) : Retells [t] [u]
  | more {t u : Token} {ts us : List Token} (h : t.Told R.names R.places u) (hkind : t.kind ≠ .eof)
    (halias : t.isWord "AS" = true → ts.head?.map Token.lexeme = us.head?.map Token.lexeme)
    (hrest : Retells ts us) : Retells (t :: ts) (u :: us)

variable {R}

theorem Retells.length_eq {ts us : List Token} (h : R.Retells ts us) : ts.length = us.length := by
  induction h with
  | last => rfl
  | more _ _ _ _ ih => exact congrArg (· + 1) ih

theorem told_isWord {t u : Token} (h : t.Told R.names R.places u) (word : String) :
    t.isWord word = u.isWord word := by
  rw [Token.isWord, Token.isWord, ← h.kind]
  by_cases hkind : t.kind = .keyword
  · rw [h.lexeme (by rw [hkind]; decide)]
  · rw [beq_false_of_ne hkind, Bool.false_and, Bool.false_and]

open Parse

variable (R) in
/-- On tokens and on those that tell the same, both readers succeed with related results and leave
tokens that tell the same, or both fail for one cause. -/
def Follows {α β : Type} (p : Parse α) (q : Parse β) (same : α → β → Prop) : Prop :=
  ∀ ts us, R.Retells ts us →
    Paired R.causes (fun x y => same x.1 y.1 ∧ R.Retells x.2 y.2) (p.run ts) (q.run us)

variable {α β γ δ : Type} {p : Parse α} {q : Parse β} {f : α → Parse γ} {g : β → Parse δ}
  {same : α → β → Prop} {final : γ → δ → Prop} {clause : Clause}

/-! ## Readers in general -/

namespace Follows

theorem pure {a : α} {b : β} (h : same a b) : R.Follows (Pure.pure a) (Pure.pure b) same :=
  fun _ _ hts => .ok ⟨h, hts⟩

theorem throws {cause other : Cause} (h : R.causes cause other) :
    R.Follows (throw cause : Parse α) (throw other : Parse β) same :=
  fun _ _ _ => .error h

theorem next (h : R.Follows p q same) (hf : ∀ a b, same a b → R.Follows (f a) (g b) final) :
    R.Follows (p >>= f) (q >>= g) final :=
  fun ts us hts => (h ts us hts).bind fun x y hxy => hf x.1 y.1 hxy.1 x.2 y.2 hxy.2

/-- What is read is the same, and is made use of. -/
theorem use {q : Parse α} {g : α → Parse δ} (h : R.Follows p q (· = ·))
    (hf : ∀ a, R.Follows (f a) (g a) final) : R.Follows (p >>= f) (q >>= g) final :=
  h.next fun a _ hab => hab ▸ hf a

theorem map {f : α → γ} {g : β → δ} (h : R.Follows p q same) (hf : ∀ a b, same a b → final (f a) (g b)) :
    R.Follows (f <$> p) (g <$> q) final := by
  rw [map_eq_pure_bind, map_eq_pure_bind]
  exact h.next fun a b hab => .pure (hf a b hab)

theorem get {f : List Token → Parse γ} {g : List Token → Parse δ}
    (hf : ∀ ts us, ts.length = us.length → R.Follows (f ts) (g us) final) :
    R.Follows (get >>= f) (get >>= g) final :=
  fun ts us hts => hf ts us hts.length_eq ts us hts

theorem peek {f : Token → Parse γ} {g : Token → Parse δ}
    (hf : ∀ t u, t.Told R.names R.places u → R.Follows (f t) (g u) final) :
    R.Follows (peek >>= f) (peek >>= g) final := by
  intro ts us hts
  cases hts with
  | last h hkind => exact hf _ _ h _ _ (.last h hkind)
  | more h hkind halias hrest => exact hf _ _ h _ _ (.more h hkind halias hrest)

theorem peekSecond {f : Token → Parse γ} {g : Token → Parse δ}
    (hf : ∀ t u, t.Told R.names R.places u → R.Follows (f t) (g u) final) :
    R.Follows (peekSecond >>= f) (peekSecond >>= g) final := by
  intro ts us hts
  cases hts with
  | last h hkind => exact hf _ _ h _ _ (.last h hkind)
  | more h hkind halias hrest =>
    have hts := hrest
    cases hrest with
    | last hsecond _ => exact hf _ _ hsecond _ _ (.more h hkind halias hts)
    | more hsecond _ _ _ => exact hf _ _ hsecond _ _ (.more h hkind halias hts)

theorem advance {f : Unit → Parse γ} {g : Unit → Parse δ} (hf : R.Follows (f ()) (g ()) final) :
    R.Follows (advance >>= f) (advance >>= g) final := by
  intro ts us hts
  cases hts with
  | @last t u h hkind =>
    have hstays {token : Token} (hkind : token.kind = .eof) :
        Parse.advance.run [token] = .ok ((), [token]) :=
      congrArg (fun rest => Except.ok ((), rest)) (if_pos hkind)
    rw [StateT.run_bind, StateT.run_bind, hstays hkind, hstays (h.kind ▸ hkind)]
    exact hf _ _ (.last h hkind)
  | more h hkind halias hrest =>
    rw [StateT.run_bind, StateT.run_bind, run_advance hkind, run_advance (h.kind ▸ hkind)]
    exact hf _ _ hrest

theorem fails (what : String) :
    R.Follows (failExpecting what : Parse α) (failExpecting what : Parse β) same :=
  peek fun _ _ h => throws (R.expected what h)

/-- Nothing follows a failure. -/
theorem throwsBefore {cause other : Cause} (h : R.causes cause other) :
    R.Follows ((throw cause : Parse α) >>= f) ((throw other : Parse β) >>= g) final :=
  fun _ _ _ => .error h

theorem failsBefore (what : String) :
    R.Follows ((failExpecting what : Parse α) >>= f) ((failExpecting what : Parse β) >>= g) final :=
  have hfails : R.Follows (failExpecting what : Parse α) (failExpecting what : Parse β) fun _ _ => False :=
    fails what
  hfails.next nofun

theorem ite {c d : Prop} [Decidable c] [Decidable d] {p' : Parse α} {q' : Parse β} (hcd : c ↔ d)
    (hp : R.Follows p q same) (hq : R.Follows p' q' same) :
    R.Follows (if c then p else p') (if d then q else q') same := by
  by_cases hc : c
  · rwa [if_pos hc, if_pos (hcd.1 hc)]
  · rwa [if_neg hc, if_neg (mt hcd.2 hc)]

theorem lifted {check other : Except Cause Unit} (h : Paired R.causes (fun _ _ => True) check other) :
    R.Follows (liftM check : Parse Unit) (liftM other) (· = ·) := by
  intro ts us hts
  cases h with
  | ok _ => exact .ok ⟨rfl, hts⟩
  | error h => exact .error h

end Follows

/-! ## Words -/

theorem follows_atKind (kind : TokenKind) : R.Follows (atKind kind) (atKind kind) (· = ·) :=
  .peek fun _ _ h => .pure (by rw [h.kind])

theorem follows_atWord (word : String) : R.Follows (atWord word) (atWord word) (· = ·) :=
  .peek fun _ _ h => .pure (told_isWord h word)

theorem follows_accept (kind : TokenKind) : R.Follows (accept kind) (accept kind) (· = ·) :=
  (follows_atKind kind).use fun _ => .ite .rfl (.advance (.pure rfl)) (.pure rfl)

theorem follows_acceptWord (word : String) : R.Follows (acceptWord word) (acceptWord word) (· = ·) :=
  (follows_atWord word).use fun _ => .ite .rfl (.advance (.pure rfl)) (.pure rfl)

/-- A word is taken by both readers, or by none. -/
theorem Follows.ifWord {word : String} {p' : Parse α} {q' : Parse β} (hp : R.Follows p q same)
    (hq : R.Follows p' q' same) :
    R.Follows (do if ← acceptWord word then p else p') (do if ← acceptWord word then q else q') same :=
  (follows_acceptWord word).use fun _ => .ite .rfl hp hq

theorem follows_expectAs (kind : TokenKind) (what : String) : R.Follows (expectAs kind what)
    (expectAs kind what) fun t u => t.Told R.names R.places u ∧ t.kind = kind := by
  refine .peek fun t u h => ?_
  by_cases hkind : t.kind = kind
  · rw [if_pos hkind, if_pos (h.kind ▸ hkind)]
    exact .advance (.pure ⟨h, hkind⟩)
  · rw [if_neg hkind, if_neg (h.kind ▸ hkind)]
    exact .fails what

/-- What is expected is taken by both. -/
theorem Follows.expects {kind : TokenKind} {what : String} {f : Token → Parse γ} {g : Token → Parse δ}
    (hf : ∀ t u, R.Follows (f t) (g u) final) :
    R.Follows (expectAs kind what >>= f) (expectAs kind what >>= g) final :=
  (follows_expectAs kind what).next fun t u _ => hf t u

theorem follows_expectWordAs (word what : String) :
    R.Follows (expectWordAs word what) (expectWordAs word what) (· = ·) :=
  .ifWord (.pure rfl) (.fails what)

theorem follows_name (what : String) : R.Follows (name what) (name what) R.names :=
  (follows_expectAs .identifier what).next fun _ _ h => .pure (h.1.name h.2)

theorem follows_afterCommas (h : R.Follows p q same) (bound : Nat) :
    R.Follows (afterCommas p bound) (afterCommas q bound) (List.Forall₂ same) := by
  induction bound with
  | zero => exact .pure .nil
  | succ bound ih =>
    refine (follows_accept .comma).use fun _ => .ite .rfl ?_ (.pure .nil)
    exact h.next fun a b hab => ih.next fun as bs habs => .pure (.cons hab habs)

theorem follows_commaList (h : R.Follows p q same) :
    R.Follows (commaList p) (commaList q) (List.Forall₂ same) := by
  refine h.next fun a b hab => .get fun ts us hlength => ?_
  rw [hlength]
  exact (follows_afterCommas h _).next fun as bs habs => .pure (.cons hab habs)

/-! ## Conditions -/

variable (R) in
/-- Both are one but for the names in them. -/
abbrev Same {α : Type} (renamed : (String → String) → α → α) (a b : α) : Prop :=
  renamed R.key a = renamed R.key b

theorem follows_literal? : R.Follows literal? literal? (· = ·) := by
  refine .peek fun t u h => ?_
  by_cases hkind : t.kind = .identifier
  · simp only [hkind, h.kind ▸ hkind]
    exact .pure rfl
  rw [← h.kind, ← h.lexeme hkind]
  split
  · exact .advance (.ite .rfl (.pure rfl) (.throws (R.outOfRange _ h.place)))
  · exact .advance (.pure rfl)
  · split
    · exact .advance (.pure rfl)
    · exact .advance (.pure rfl)
    · exact .advance (.pure rfl)
    · exact .pure rfl
  · exact .pure rfl

theorem follows_literal : R.Follows literal literal (· = ·) := by
  refine follows_literal?.use fun value? => ?_
  cases value? with
  | none => exact .fails _
  | some value => exact .pure rfl

theorem follows_columnRef : R.Follows columnRef columnRef (R.Same ColumnRef.renamed) := by
  refine (follows_name _).next fun a b hab => (follows_accept .dot).use fun _ => .ite .rfl ?_ (.pure ?_)
  · refine (follows_name _).next fun c d hcd => .pure ?_
    simp [Same, ColumnRef.renamed, R.key_eq hab, R.key_eq hcd]
  · simp [Same, ColumnRef.renamed, R.key_eq hab]

theorem follows_aggregateAhead? : R.Follows aggregateAhead? aggregateAhead? (· = ·) := by
  refine .peek fun t u h => .peekSecond fun v w hsecond => ?_
  rw [← h.kind, ← hsecond.kind]
  by_cases hahead : t.kind = .identifier ∧ v.kind = .lparen
  · rw [if_pos hahead, if_pos hahead]
    exact .pure (R.function_eq (h.name hahead.1))
  · rw [if_neg hahead, if_neg hahead]
    exact .pure rfl

theorem follows_aggregateCall (fn : AggregateFn) :
    R.Follows (aggregateCall fn) (aggregateCall fn) (R.Same AggregateCall.renamed) := by
  refine .advance (.expects fun _ _ => (follows_atKind .star).use fun _ => .ite .rfl ?_ ?_)
  · refine .ite .rfl (.failsBefore _) (.advance ?_)
    exact .expects fun _ _ => .pure rfl
  refine (follows_atWord "DISTINCT").use fun _ => .ite .rfl (.throwsBefore (R.unsupported _)) ?_
  refine (follows_atKind .identifier).use fun _ => follows_aggregateAhead?.use fun _ => .ite .rfl ?_ ?_
  · exact (follows_atKind .rparen).use fun _ => (follows_atKind .eof).use fun _ =>
      .ite .rfl (.failsBefore _) (.throwsBefore (R.unsupported _))
  · refine follows_columnRef.next fun ref other href => ?_
    refine (follows_accept .rparen).use fun _ => .ite .rfl (.pure ?_) (.throws (R.unsupported _))
    simp only [Same, AggregateCall.renamed, Option.map_some, href]

theorem follows_operand : R.Follows (operand clause) (operand clause) (R.Same Expr.renamed) := by
  refine follows_literal?.use fun value? => ?_
  cases value? with
  | some value => exact .pure rfl
  | none =>
    refine follows_aggregateAhead?.use fun fn? => ?_
    cases fn? with
    | some fn =>
      refine .ite .rfl ((follows_aggregateCall fn).next fun call other hcall => .pure ?_)
        (.peek fun _ _ h => .throws (R.misplaced fn clause h.place))
      simp only [Same, Expr.renamed, hcall]
    | none =>
      refine (follows_atKind .identifier).use fun _ => .ite .rfl ?_ (.fails _)
      refine follows_columnRef.next fun ref other href => .pure ?_
      simp only [Same, Expr.renamed, href]

theorem follows_comparison? : R.Follows comparison? comparison? (· = ·) := by
  refine .peek fun t u h => ?_
  rw [← h.kind]
  by_cases hkind : t.kind = .equals ∨ t.kind = .comparison
  · rw [if_pos hkind, if_pos hkind, h.lexeme (by rcases hkind with hkind | hkind <;> rw [hkind] <;> nofun)]
    exact .pure rfl
  · rw [if_neg hkind, if_neg hkind]
    exact .pure rfl

theorem follows_negationAhead : R.Follows negationAhead negationAhead (· = ·) := by
  refine .peekSecond fun t u h => (follows_atWord "NOT").use fun _ => .pure ?_
  rw [told_isWord h, told_isWord h, told_isWord h]

/-- Lists whose items agree in something agree in it as a whole. -/
theorem map_eq_of_forall₂ {f : α → β} {as bs : List α} (h : List.Forall₂ (fun a b => f a = f b) as bs) :
    as.map f = bs.map f := by
  rw [← List.forall₂_eq_eq_eq, List.forall₂_map_left_iff, List.forall₂_map_right_iff]
  exact h

theorem follows_afterOperand {left left' : Expr} (hleft : R.Same Expr.renamed left left') :
    R.Follows (afterOperand clause left) (afterOperand clause left') (R.Same Expr.renamed) := by
  rw [Same] at hleft
  refine follows_comparison?.use fun op? => ?_
  cases op? with
  | some op =>
    refine .advance (follows_operand.next fun right right' hright => .pure ?_)
    simp only [Same, Expr.renamed, hleft, hright]
  | none =>
    refine .ifWord ((follows_acceptWord "NOT").use fun negated => ?_) ?_
    · refine (follows_expectWordAs _ _).use fun _ => .pure ?_
      simp only [Same, Expr.renamed, hleft]
    refine follows_negationAhead.use fun negated => ?_
    extract_lets rest rest'
    have hrest (start : Unit) : R.Follows (rest start) (rest' start) (R.Same Expr.renamed) := by
      refine .ifWord ?_ (.ifWord ?_ (.ifWord ?_ (.pure hleft)))
      · refine follows_operand.next fun low low' hlow => (follows_expectWordAs _ _).use fun _ => ?_
        refine follows_operand.next fun high high' hhigh => .pure ?_
        simp only [Same, Expr.renamed, hleft, hlow, hhigh]
      · refine .expects fun _ _ => (follows_commaList follows_operand).next fun values values' hvalues => ?_
        refine .expects fun _ _ => .pure ?_
        simp only [Same, Expr.renamed, renamedAll_eq, hleft, map_eq_of_forall₂ hvalues]
      · refine (follows_expectAs _ _).next fun t u h => .pure ?_
        simp only [Same, Expr.renamed, hleft, h.1.lexeme (by rw [h.2]; nofun)]
    exact .ite .rfl (.advance (hrest ())) (hrest ())

section

variable {item item' : Parse Expr} (h : R.Follows item item' (R.Same Expr.renamed))

include h

theorem follows_predicate :
    R.Follows (predicate clause item) (predicate clause item') (R.Same Expr.renamed) := by
  refine (follows_accept .lparen).use fun _ => .ite .rfl ?_ ?_
  · exact h.next fun e e' he => .expects fun _ _ => .pure he
  · exact follows_operand.next fun left left' hleft => follows_afterOperand hleft

theorem follows_negation (bound : Nat) :
    R.Follows (negation item bound) (negation item' bound) (R.Same Expr.renamed) := by
  induction bound with
  | zero => exact h
  | succ bound ih =>
    refine .ifWord (ih.next fun e e' he => .pure ?_) h
    simp only [Same, Expr.renamed, he]

theorem follows_chain (word : String) {join : Expr → Expr → Expr}
    (hjoin : ∀ left right, (join left right).renamed R.key =
      join (left.renamed R.key) (right.renamed R.key)) :
    R.Follows (chain word join item) (chain word join item') (R.Same Expr.renamed) := by
  refine h.next fun first first' hfirst => .get fun ts us hlength => ?_
  rw [hlength]
  generalize us.length = bound
  induction bound generalizing first first' with
  | zero => exact .pure hfirst
  | succ bound ih =>
    refine .ifWord (h.next fun right right' hright => ih _ _ ?_) (.pure hfirst)
    rw [Same] at hfirst hright
    rw [Same, hjoin, hjoin, hfirst, hright]

end

theorem follows_exprWithin (depth : Nat) :
    R.Follows (exprWithin clause depth) (exprWithin clause depth) (R.Same Expr.renamed) := by
  induction depth with
  | zero => exact .fails _
  | succ depth ih =>
    refine follows_chain (follows_chain (.get fun ts us hlength => ?_) _ ?_) _ ?_
    · rw [hlength]
      exact follows_negation (follows_predicate ih) _
    · exact fun _ _ => by rw [Expr.renamed]
    · exact fun _ _ => by rw [Expr.renamed]

theorem follows_expr : R.Follows (expr clause) (expr clause) (R.Same Expr.renamed) := by
  refine .get fun ts us hlength => ?_
  rw [hlength]
  exact follows_exprWithin _

/-! ## Definitions -/

theorem follows_newName (kind : NameKind) : R.Follows (newName kind) (newName kind) R.names :=
  (follows_name _).next fun _ _ hab => (Follows.lifted (R.checkName kind hab)).use fun _ => .pure hab

theorem follows_dataType : R.Follows dataType dataType (· = ·) := by
  refine .peek fun t u h => ?_
  have htype : (if t.kind = .keyword then typeOfWord? t.lexeme else none) =
      if u.kind = .keyword then typeOfWord? u.lexeme else none := by
    rw [← h.kind]
    by_cases hkind : t.kind = .keyword
    · rw [h.lexeme (by rw [hkind]; nofun)]
    · rw [if_neg hkind, if_neg hkind]
  rw [htype]
  split
  · exact .advance (.pure rfl)
  · exact .fails _

theorem follows_columnProperties (bound : Nat) {column column' : Column}
    (h : R.Same Column.renamed column column') : R.Follows (columnProperties bound column)
      (columnProperties bound column') (R.Same Column.renamed) := by
  induction bound generalizing column column' with
  | zero => exact .pure h
  | succ bound ih =>
    rw [Same, Column.renamed, Column.renamed, Column.mk.injEq] at h
    obtain ⟨hname, htype, hprimary, hunique, hreferences⟩ := h
    refine .ifWord ((follows_expectWordAs _ _).use fun _ => ih ?_) (.ifWord (ih ?_) (.ifWord ?_ (.pure ?_)))
    · simp only [Same, Column.renamed, hname, htype, hunique, hreferences]
    · simp only [Same, Column.renamed, hname, htype, hprimary, hreferences]
    · refine (follows_name _).next fun table table' htable => .expects fun _ _ => ?_
      refine (follows_name _).next fun target target' htarget => .expects fun _ _ => ih ?_
      simp only [Same, Column.renamed, hname, htype, hprimary, hunique, Option.map_some,
        Reference.renamed, R.key_eq htable, R.key_eq htarget]
    · simp only [Same, Column.renamed, hname, htype, hprimary, hunique, hreferences]

theorem follows_columnDefinition :
    R.Follows columnDefinition columnDefinition (R.Same Column.renamed) := by
  refine (follows_newName _).next fun a b hab => follows_dataType.use fun type => .get fun ts us hlength => ?_
  rw [hlength]
  refine follows_columnProperties _ ?_
  simp only [Same, Column.renamed, R.key_eq hab, Option.map_none]

theorem follows_createStatement :
    R.Follows createStatement createStatement (R.Same Statement.renamed) := by
  refine .ifWord ((follows_newName _).next fun a b hab => .pure ?_) ?_
  · simp only [Same, Statement.renamed, R.key_eq hab]
  refine (follows_expectWordAs _ _).use fun _ => (follows_newName _).next fun a b hab => ?_
  refine .expects fun _ _ => (follows_commaList follows_columnDefinition).next fun columns columns' h => ?_
  refine .expects fun _ _ => .pure ?_
  simp only [Same, Statement.renamed, Schema.renamed, R.key_eq hab, map_eq_of_forall₂ h]

theorem follows_dropStatement :
    R.Follows dropStatement dropStatement (R.Same Statement.renamed) := by
  refine .ifWord ((follows_name _).next fun a b hab => .pure ?_)
    ((follows_expectWordAs _ _).use fun _ => (follows_name _).next fun a b hab => .pure ?_)
  · simp only [Same, Statement.renamed, R.key_eq hab]
  · simp only [Same, Statement.renamed, R.key_eq hab]

theorem follows_showStatement :
    R.Follows showStatement showStatement (R.Same Statement.renamed) :=
  .ifWord (.pure rfl) ((follows_expectWordAs _ _).use fun _ => .pure rfl)

/-! ## Writes -/

theorem follows_insertStatement :
    R.Follows insertStatement insertStatement (R.Same Statement.renamed) := by
  refine (follows_expectWordAs _ _).use fun _ => (follows_name _).next fun table table' htable => ?_
  have hvalues (columns columns' : Option (List String))
      (hcolumns : columns.map (List.map R.key) = columns'.map (List.map R.key)) : R.Follows
        (do
          expectWord "VALUES"
          let _ ← expect .lparen
          let values ← commaList literal
          let _ ← expectAs .rparen "',' or ')'"
          return Statement.insert table columns values)
        (do
          expectWord "VALUES"
          let _ ← expect .lparen
          let values ← commaList literal
          let _ ← expectAs .rparen "',' or ')'"
          return Statement.insert table' columns' values) (R.Same Statement.renamed) := by
    refine (follows_expectWordAs _ _).use fun _ => .expects fun _ _ => ?_
    refine (follows_commaList follows_literal).next fun values values' h => .expects fun _ _ => .pure ?_
    rw [List.forall₂_eq_eq_eq] at h
    simp only [Same, Statement.renamed, R.key_eq htable, hcolumns, h]
  refine (follows_accept .lparen).use fun _ => .ite .rfl ?_ (hvalues none none rfl)
  refine (follows_commaList (follows_name _)).next fun names names' h => .expects fun _ _ => hvalues _ _ ?_
  rw [Option.map_some, Option.map_some, map_eq_of_forall₂ (h.imp fun _ _ => R.key_eq)]

theorem follows_filter? : R.Follows filter? filter? fun e e' =>
    e.map (Expr.renamed R.key) = e'.map (Expr.renamed R.key) :=
  .ifWord (follows_expr.next fun _ _ h => .pure (congrArg some h)) (.pure rfl)

theorem follows_assignment : R.Follows assignment assignment (R.Same Assignment.renamed) := by
  refine (follows_name _).next fun a b hab => .expects fun _ _ => follows_literal.use fun value => .pure ?_
  simp only [Same, Assignment.renamed, R.key_eq hab]

theorem follows_updateStatement :
    R.Follows updateStatement updateStatement (R.Same Statement.renamed) := by
  refine (follows_name _).next fun a b hab => (follows_expectWordAs _ _).use fun _ => ?_
  refine (follows_commaList follows_assignment).next fun items items' hitems => ?_
  refine follows_filter?.next fun filter filter' hfilter => .pure ?_
  simp only [Same, Statement.renamed, R.key_eq hab, map_eq_of_forall₂ hitems, hfilter]

theorem follows_deleteStatement :
    R.Follows deleteStatement deleteStatement (R.Same Statement.renamed) := by
  refine (follows_expectWordAs _ _).use fun _ => (follows_name _).next fun a b hab => ?_
  refine follows_filter?.next fun filter filter' hfilter => .pure ?_
  simp only [Same, Statement.renamed, R.key_eq hab, hfilter]

/-! ## Queries -/

theorem run_acceptWord {word : String} {t : Token} (h : t.isWord word = true) (ts : List Token) :
    (acceptWord word).run (t :: ts) = .ok (true, ts) := by
  have hkind : t.kind ≠ .eof := by
    rw [show t.kind = .keyword from congrArg Word.kind (Token.isWord_iff.1 h)]
    nofun
  have hrun : (acceptWord word).run (t :: ts) =
      (if t.isWord word then (do advance; return true) else return false : Parse Bool).run (t :: ts) := rfl
  rw [hrun, if_pos h, run_bind_of_run (run_advance hkind ts)]
  rfl

theorem run_acceptWord_other {word : String} {t : Token} (h : t.isWord word = false) (ts : List Token) :
    (acceptWord word).run (t :: ts) = .ok (false, t :: ts) := by
  have hrun : (acceptWord word).run (t :: ts) =
      (if t.isWord word then (do advance; return true) else return false : Parse Bool).run (t :: ts) := rfl
  rw [hrun, if_neg (Bool.eq_false_iff.1 h)]
  rfl

theorem head?_of_run_name {what s : String} {ts rest : List Token}
    (h : (name what).run ts = .ok (s, rest)) : ts.head?.map Token.lexeme = some s := by
  cases ts with
  | nil => cases h
  | cons t ts =>
    obtain ⟨token, mid, htoken, hgiven⟩ := run_bind_eq_ok.1 h
    obtain ⟨rfl, -⟩ := Prod.mk.inj (Except.ok.inj hgiven)
    by_cases hkind : t.kind = .identifier
    · rw [← hkind, run_expectAs (by rw [hkind]; nofun)] at htoken
      obtain ⟨rfl, -⟩ := Prod.mk.inj (Except.ok.inj htoken)
      rfl
    · have hrun : (expectAs .identifier what).run (t :: ts) =
          (if t.kind = .identifier then (do advance; return t) else failExpecting what).run (t :: ts) := rfl
      rw [hrun, if_neg hkind] at htoken
      cases htoken

theorem paired_name (what : String) {ts us : List Token} (hts : R.Retells ts us)
    (hfirst : ts.head?.map Token.lexeme = us.head?.map Token.lexeme) :
    Paired R.causes (fun x y => x.1 = y.1 ∧ R.Retells x.2 y.2) ((name what).run ts) ((name what).run us) := by
  have hnames := follows_name what ts us hts
  generalize hx : (name what).run ts = x at hnames ⊢
  generalize hy : (name what).run us = y at hnames ⊢
  cases hnames with
  | @ok x y hxy =>
    have hsame := (head?_of_run_name hx).symm.trans (hfirst.trans (head?_of_run_name hy))
    exact .ok ⟨Option.some.inj hsame, hxy.2⟩
  | error hcauses => exact .error hcauses

/-- What follows AS is called the same. -/
theorem follows_alias? : R.Follows alias? alias? (· = ·) := by
  have hnone {t u : Token} {ts us : List Token} (h : t.Told R.names R.places u)
      (hword : t.isWord "AS" = false) (hts : R.Retells (t :: ts) (u :: us)) :
      Paired R.causes (fun x y => x.1 = y.1 ∧ R.Retells x.2 y.2) (alias?.run (t :: ts))
        (alias?.run (u :: us)) := by
    rw [alias?, run_bind_of_run (run_acceptWord_other hword ts),
      run_bind_of_run (run_acceptWord_other (told_isWord h "AS" ▸ hword) us)]
    exact .ok ⟨rfl, hts⟩
  intro ts us hts
  cases hts with
  | @last t u h hkind =>
    refine hnone h ?_ (.last h hkind)
    rw [Token.isWord, hkind]
    rfl
  | @more t u ts us h hkind halias hrest =>
    cases hword : t.isWord "AS" with
    | false => exact hnone h hword (.more h hkind halias hrest)
    | true =>
      rw [alias?, run_bind_of_run (run_acceptWord hword ts),
        run_bind_of_run (run_acceptWord (told_isWord h "AS" ▸ hword) us)]
      exact (paired_name "alias" hrest (halias hword)).bind fun x y hxy =>
        .ok ⟨congrArg some hxy.1, hxy.2⟩

theorem follows_projection : R.Follows projection projection (R.Same Projection.renamed) := by
  refine (follows_accept .star).use fun _ => .ite .rfl (.pure rfl) ?_
  refine follows_aggregateAhead?.use fun fn? => ?_
  cases fn? with
  | some fn =>
    refine (follows_aggregateCall fn).next fun call call' hcall => follows_alias?.use fun name? => .pure ?_
    simp only [Same, Projection.renamed, hcall]
  | none =>
    refine (follows_atKind .identifier).use fun _ => .ite .rfl ?_ (.fails _)
    refine follows_columnRef.next fun ref ref' href => follows_alias?.use fun name? => .pure ?_
    simp only [Same, Projection.renamed, href]

theorem follows_join? : R.Follows join? join? fun join join' =>
    join.map (Join.renamed R.key) = join'.map (Join.renamed R.key) := by
  refine (follows_atWord "INNER").use fun _ => (follows_atWord "JOIN").use fun _ => .ite .rfl ?_ (.pure rfl)
  refine (follows_acceptWord "INNER").use fun _ => (follows_expectWordAs _ _).use fun _ => ?_
  refine (follows_name _).next fun a b hab => (follows_expectWordAs _ _).use fun _ => ?_
  refine follows_expr.next fun e e' he => .pure ?_
  simp only [Option.map_some, Join.renamed, R.key_eq hab, he]

theorem follows_groupBy : R.Follows groupBy groupBy (List.Forall₂ (R.Same ColumnRef.renamed)) :=
  .ifWord ((follows_expectWordAs _ _).use fun _ => follows_commaList follows_columnRef) (.pure .nil)

theorem follows_having? : R.Follows having? having? fun e e' =>
    e.map (Expr.renamed R.key) = e'.map (Expr.renamed R.key) :=
  .ifWord (follows_expr.next fun _ _ h => .pure (congrArg some h)) (.pure rfl)

theorem follows_orderItem : R.Follows orderItem orderItem (R.Same OrderItem.renamed) := by
  refine follows_aggregateAhead?.use fun fn? => ?_
  extract_lets rest
  have hrest {key key' : OrderKey} (h : R.Same OrderKey.renamed key key') :
      R.Follows (rest key) (rest key') (R.Same OrderItem.renamed) := by
    refine .ifWord (.pure ?_) ((follows_acceptWord "ASC").use fun _ => .pure ?_)
    · simp only [Same, OrderItem.renamed, h]
    · simp only [Same, OrderItem.renamed, h]
  cases fn? with
  | some fn =>
    refine Follows.next ((follows_aggregateCall fn).map fun call call' hcall => ?_) fun _ _ => hrest
    simp only [Same, OrderKey.renamed, hcall]
  | none =>
    refine Follows.next (follows_columnRef.map fun ref ref' href => ?_) fun _ _ => hrest
    simp only [Same, OrderKey.renamed, href]

theorem follows_orderBy : R.Follows orderBy orderBy (List.Forall₂ (R.Same OrderItem.renamed)) :=
  .ifWord ((follows_expectWordAs _ _).use fun _ => follows_commaList follows_orderItem) (.pure .nil)

theorem follows_paging? (clause : PagingClause) : R.Follows (paging? clause) (paging? clause) (· = ·) := by
  refine .ifWord ((follows_expectAs _ _).next fun t u h => ?_) (.pure rfl)
  rw [h.1.lexeme (by rw [h.2]; nofun)]
  exact (Follows.lifted (R.checkPaging clause _)).use fun _ => .pure rfl

theorem follows_limitAndOffset : R.Follows limitAndOffset limitAndOffset (· = ·) := by
  refine (follows_paging? _).use fun limit? => ?_
  cases limit? with
  | some limit => exact (follows_paging? _).use fun _ => .pure rfl
  | none =>
    refine (follows_paging? _).use fun offset? => ?_
    cases offset? with
    | some offset => exact (follows_paging? _).use fun _ => .pure rfl
    | none => exact .pure rfl

theorem follows_selectStatement :
    R.Follows selectStatement selectStatement (R.Same Statement.renamed) := by
  refine (follows_acceptWord "DISTINCT").use fun distinct => ?_
  refine (follows_commaList follows_projection).next fun projections projections' hprojections => ?_
  refine (follows_expectWordAs _ _).use fun _ => (follows_name _).next fun table table' htable => ?_
  refine follows_join?.next fun join join' hjoin => follows_filter?.next fun filter filter' hfilter => ?_
  refine follows_groupBy.next fun refs refs' hrefs => follows_having?.next fun having having' hhaving => ?_
  refine follows_orderBy.next fun items items' hitems => follows_limitAndOffset.use fun paging => .pure ?_
  simp only [Same, Statement.renamed, Select.renamed, map_eq_of_forall₂ hprojections, R.key_eq htable,
    hjoin, hfilter, map_eq_of_forall₂ hrefs, hhaving, map_eq_of_forall₂ hitems]

/-! ## Statements -/

/-- **A statement and its retelling are one but for names, or both are refused for one cause.** -/
theorem follows_statement : R.Follows statement statement (R.Same Statement.renamed) := by
  refine .ifWord follows_createStatement (.ifWord follows_dropStatement ?_)
  refine .ifWord ((follows_name _).next fun a b hab => .pure ?_) (.ifWord follows_showStatement ?_)
  · simp only [Same, Statement.renamed, R.key_eq hab]
  refine .ifWord ((follows_name _).next fun a b hab => .pure ?_) (.ifWord follows_insertStatement ?_)
  · simp only [Same, Statement.renamed, R.key_eq hab]
  refine .ifWord follows_selectStatement (.ifWord follows_updateStatement ?_)
  exact .ifWord follows_deleteStatement (.fails _)

theorem follows_oneStatement : R.Follows oneStatement oneStatement (R.Same Statement.renamed) := by
  refine follows_statement.next fun S S' hS => (follows_accept .semicolon).use fun _ => ?_
  exact (follows_atKind .eof).use fun _ => .ite .rfl (.pure hS) (.fails _)

theorem follows_statements (bound : Nat) :
    R.Follows (statements bound) (statements bound) (List.Forall₂ (R.Same Statement.renamed)) := by
  induction bound with
  | zero => exact .pure .nil
  | succ bound ih =>
    refine (follows_atKind .eof).use fun _ => .ite .rfl (.pure .nil) ?_
    refine (follows_accept .semicolon).use fun _ => .ite .rfl ih ?_
    refine follows_statement.next fun first first' hfirst => (follows_atKind .eof).use fun _ => ?_
    extract_lets rest rest'
    have hrest (start : Unit) :
        R.Follows (rest start) (rest' start) (List.Forall₂ (R.Same Statement.renamed)) :=
      ih.next fun _ _ hothers => .pure (.cons hfirst hothers)
    exact .ite .rfl (.expects fun _ _ => hrest ()) (hrest ())

end Retelling

end RelStore.Sql
