/-
What texts are refused for.

A text that is no statement is refused for a character or a word that cannot stand where it does,
for a number out of range, for a name that may not be given, or for a feature that this engine
lacks. All these are foreseen (`failsForeseen_parse`).
-/
import RelStore.Proofs.Failing
import RelStore.Sql.Parse.Statement

namespace RelStore.Sql

/-! ## Tokens -/

theorem failsForeseen_pieceAt (place : Position) (c : Char) (rest : List Char) :
    FailsForeseen (pieceAt place c rest) := by
  refine .ite (fun _ => .ok _) fun _ => .ite (fun _ => .ok _) fun _ => .ite (fun _ => ?_) fun _ => ?_
  · split
    · exact .ok _
    · exact .error rfl
  refine .ite (fun _ => .ok _) fun _ => .ite (fun _ => .ok _) fun _ => .ite (fun _ => ?_) fun _ => ?_
  · split
    · exact .ok _
    · exact .ite (fun _ => .error rfl) fun _ => .ok _
  · split
    · exact .ok _
    · exact .error rfl

theorem failsForeseen_tokensFrom (place : Position) (text : List Char) :
    FailsForeseen (tokensFrom place text) := by
  fun_induction tokensFrom place text with
  | case1 place => exact .ok _
  | case2 place c rest cause hpiece => exact .error (failsForeseen_pieceAt place c rest cause hpiece)
  | case3 place c rest piece _ cause hrest ih => exact .error (ih cause hrest)
  | case4 place c rest => exact .ok _
  | case5 place c rest => exact .ok _

theorem failsForeseen_checkName (kind : NameKind) (name : String) :
    FailsForeseen (checkName kind name) :=
  .ite (fun _ => .error rfl) fun _ => .ite (fun _ => .error rfl) fun _ =>
    .ite (fun _ => .error rfl) fun _ => .ite (fun _ => .error rfl) fun _ => .ok ()

theorem failsForeseen_checkPaging (clause : PagingClause) (value : Binary64) :
    FailsForeseen (checkPaging clause value) :=
  .ite (fun _ => .error rfl) fun _ => .ite (fun _ => .error rfl) fun _ => .ok ()

namespace Parse

variable {α β : Type} {p : Parse α} {f : α → Parse β} {clause : Clause}

/-- A reader fails for causes that are foreseen, whatever the tokens are. -/
def Foresees (p : Parse α) : Prop := RunsForeseen (fun _ => True) p fun _ => True

/-! ## Readers in general -/

namespace Foresees

theorem pure (a : α) : Foresees (pure a) := Runs.pure trivial

theorem throws {cause : Cause} (h : cause.isForeseen = true) : Foresees (throw cause : Parse α) :=
  Runs.throw h

theorem next (h : Foresees p) (hf : ∀ a, Foresees (f a)) : Foresees (p >>= f) :=
  Runs.bind h fun a _ => hf a

theorem map (h : Foresees p) (g : α → β) : Foresees (g <$> p) := by
  rw [map_eq_pure_bind]
  exact h.next fun _ => .pure _

/-- What comes after a reader that does not fail. -/
theorem after {tokens : List Token → List Token} {read : List Token → α}
    (hp : ∀ given, p.run given = .ok (read given, tokens given)) (hf : ∀ a, Foresees (f a)) :
    Foresees (p >>= f) :=
  next (fun given _ => by rw [hp]; exact ⟨.ok _, fun _ _ _ => ⟨trivial, trivial⟩⟩) hf

theorem get {f : List Token → Parse β} (hf : ∀ tokens, Foresees (f tokens)) :
    Foresees (get >>= f) :=
  after (fun _ => rfl) hf

theorem peek {f : Token → Parse β} (hf : ∀ token, Foresees (f token)) : Foresees (peek >>= f) :=
  after (fun _ => rfl) hf

theorem peekSecond {f : Token → Parse β} (hf : ∀ token, Foresees (f token)) :
    Foresees (peekSecond >>= f) :=
  next (fun given _ => by
    match given with
    | _ :: _ :: _ => exact ⟨.ok _, fun _ _ _ => ⟨trivial, trivial⟩⟩
    | [_] => exact ⟨.ok _, fun _ _ _ => ⟨trivial, trivial⟩⟩
    | [] => exact ⟨.ok _, fun _ _ _ => ⟨trivial, trivial⟩⟩) hf

theorem advance {f : Unit → Parse β} (hf : Foresees (f ())) : Foresees (advance >>= f) :=
  after (fun _ => rfl) fun _ => hf

theorem fails (what : String) : Foresees (failExpecting (α := α) what) :=
  peek fun _ => throws rfl

/-- Nothing follows a failure. -/
theorem throwsBefore {cause : Cause} (h : cause.isForeseen = true) : Foresees (throw cause >>= f) :=
  fun _ _ => ⟨.error h, nofun⟩

theorem failsBefore (what : String) : Foresees (failExpecting what >>= f) :=
  fun _ _ => ⟨.error rfl, nofun⟩

theorem ite {c : Prop} [Decidable c] {q : Parse α} (hp : Foresees p) (hq : Foresees q) :
    Foresees (if c then p else q) :=
  Runs.ite (fun _ => hp) fun _ => hq

theorem lifted {check : Except Cause Unit} (h : FailsForeseen check) :
    Foresees (liftM check : Parse Unit) :=
  Runs.lift h fun _ _ => trivial

end Foresees

open Foresees

/-! ## Words -/

theorem foresees_atKind (kind : TokenKind) : Foresees (atKind kind) := .peek fun _ => .pure _

theorem foresees_atWord (word : String) : Foresees (atWord word) := .peek fun _ => .pure _

theorem foresees_accept (kind : TokenKind) : Foresees (accept kind) :=
  (foresees_atKind kind).next fun _ => .ite (.advance (.pure _)) (.pure _)

theorem foresees_acceptWord (word : String) : Foresees (acceptWord word) :=
  (foresees_atWord word).next fun _ => .ite (.advance (.pure _)) (.pure _)

theorem foresees_expectAs (kind : TokenKind) (what : String) : Foresees (expectAs kind what) :=
  .peek fun _ => .ite (.advance (.pure _)) (.fails _)

theorem foresees_expect (kind : TokenKind) : Foresees (expect kind) := foresees_expectAs _ _

theorem foresees_expectWordAs (word what : String) : Foresees (expectWordAs word what) :=
  (foresees_acceptWord word).next fun _ => .ite (.pure _) (.fails _)

theorem foresees_expectWord (word : String) : Foresees (expectWord word) := foresees_expectWordAs _ _

theorem foresees_name (what : String) : Foresees (name what) :=
  (foresees_expectAs _ _).next fun _ => .pure _

theorem foresees_afterCommas (h : Foresees p) (bound : Nat) : Foresees (afterCommas p bound) := by
  induction bound with
  | zero => exact .pure _
  | succ bound ih =>
    exact (foresees_accept _).next fun _ => .ite (h.next fun _ => ih.next fun _ => .pure _) (.pure _)

theorem foresees_commaList (h : Foresees p) : Foresees (commaList p) :=
  h.next fun _ => .get fun _ => (foresees_afterCommas h _).next fun _ => .pure _

/-! ## Conditions -/

theorem foresees_literal? : Foresees literal? := by
  refine .peek fun token => ?_
  split
  · exact .advance (.ite (.pure _) (.throws rfl))
  · exact .advance (.pure _)
  · split
    · exact .advance (.pure _)
    · exact .advance (.pure _)
    · exact .advance (.pure _)
    · exact .pure _
  · exact .pure _

theorem foresees_literal : Foresees literal := by
  refine foresees_literal?.next fun value => ?_
  cases value with
  | none => exact .fails _
  | some v => exact .pure _

theorem foresees_columnRef : Foresees columnRef :=
  (foresees_name _).next fun _ => (foresees_accept _).next fun _ =>
    .ite ((foresees_name _).next fun _ => .pure _) (.pure _)

theorem foresees_aggregateAhead? : Foresees aggregateAhead? :=
  .peek fun _ => .peekSecond fun _ => .ite (.pure _) (.pure _)

theorem foresees_aggregateCall (fn : AggregateFn) : Foresees (aggregateCall fn) := by
  refine .advance ((foresees_expect _).next fun _ => (foresees_atKind _).next fun _ => .ite ?_ ?_)
  · refine .ite (.failsBefore _) (.advance ?_)
    exact (foresees_expect _).next fun _ => .pure _
  refine (foresees_atWord _).next fun _ => .ite (.throwsBefore rfl) ?_
  refine (foresees_atKind _).next fun _ => foresees_aggregateAhead?.next fun _ => .ite ?_ ?_
  · exact (foresees_atKind _).next fun _ => (foresees_atKind _).next fun _ =>
      .ite (.failsBefore _) (.throwsBefore rfl)
  · exact foresees_columnRef.next fun _ => (foresees_accept _).next fun _ =>
      .ite (.pure _) (.throws rfl)

theorem foresees_operand : Foresees (operand clause) := by
  refine foresees_literal?.next fun value? => ?_
  cases value? with
  | some value => exact .pure _
  | none =>
    refine foresees_aggregateAhead?.next fun fn? => ?_
    cases fn? with
    | some fn =>
      exact .ite ((foresees_aggregateCall fn).next fun _ => .pure _) (.peek fun _ => .throws rfl)
    | none =>
      exact (foresees_atKind _).next fun _ => .ite (foresees_columnRef.next fun _ => .pure _) (.fails _)

theorem foresees_afterOperand (left : Expr) : Foresees (afterOperand clause left) := by
  refine Foresees.next (.peek fun _ => .ite (.pure _) (.pure _)) fun op? => ?_
  cases op? with
  | some op => exact .advance (foresees_operand.next fun _ => .pure _)
  | none =>
    refine (foresees_acceptWord _).next fun _ => .ite ?_ ?_
    · exact (foresees_acceptWord _).next fun _ => (foresees_expectWordAs _ _).next fun _ => .pure _
    refine Foresees.next (.peekSecond fun _ => (foresees_atWord _).next fun _ => .pure _) fun negated => ?_
    extract_lets rest
    have hrest (start : Unit) : Foresees (rest start) := by
      refine (foresees_acceptWord _).next fun _ => .ite ?_ ?_
      · exact foresees_operand.next fun _ => (foresees_expectWordAs _ _).next fun _ =>
          foresees_operand.next fun _ => .pure _
      refine (foresees_acceptWord _).next fun _ => .ite ?_ ?_
      · exact (foresees_expect _).next fun _ => (foresees_commaList foresees_operand).next fun _ =>
          (foresees_expectAs _ _).next fun _ => .pure _
      exact (foresees_acceptWord _).next fun _ =>
        .ite ((foresees_expectAs _ _).next fun _ => .pure _) (.pure _)
    exact .ite (.advance (hrest ())) (hrest ())

theorem foresees_predicate {inner : Parse Expr} (hinner : Foresees inner) :
    Foresees (predicate clause inner) :=
  (foresees_accept _).next fun _ =>
    .ite (hinner.next fun _ => (foresees_expect _).next fun _ => .pure _)
      (foresees_operand.next fun _ => foresees_afterOperand _)

theorem foresees_negation {item : Parse Expr} (hitem : Foresees item) (bound : Nat) :
    Foresees (negation item bound) := by
  induction bound with
  | zero => exact hitem
  | succ bound ih =>
    exact (foresees_acceptWord _).next fun _ => .ite (ih.next fun _ => .pure _) hitem

theorem foresees_chain {item : Parse Expr} (hitem : Foresees item) (word : String)
    (join : Expr → Expr → Expr) : Foresees (chain word join item) := by
  refine hitem.next fun first => .get fun tokens => ?_
  generalize tokens.length = bound
  induction bound generalizing first with
  | zero => exact .pure _
  | succ bound ih =>
    exact (foresees_acceptWord _).next fun _ => .ite (hitem.next fun _ => ih _) (.pure _)

theorem foresees_exprWithin (depth : Nat) : Foresees (exprWithin clause depth) := by
  induction depth with
  | zero => exact .fails _
  | succ depth ih =>
    refine foresees_chain (foresees_chain (.get fun _ => ?_) _ _) _ _
    exact foresees_negation (foresees_predicate ih) _

theorem foresees_expr : Foresees (expr clause) := .get fun _ => foresees_exprWithin _

/-! ## Definitions -/

theorem foresees_newName (kind : NameKind) : Foresees (newName kind) :=
  (foresees_name _).next fun _ =>
    (Foresees.lifted (failsForeseen_checkName kind _)).next fun _ => .pure _

theorem foresees_dataType : Foresees dataType := by
  refine .peek fun token => ?_
  split
  · exact .advance (.pure _)
  · exact .fails _

theorem foresees_columnProperties (bound : Nat) (column : Column) :
    Foresees (columnProperties bound column) := by
  induction bound generalizing column with
  | zero => exact .pure _
  | succ bound ih =>
    refine (foresees_acceptWord _).next fun _ => .ite ((foresees_expectWord _).next fun _ => ih _) ?_
    refine (foresees_acceptWord _).next fun _ => .ite (ih _) ?_
    refine (foresees_acceptWord _).next fun _ => .ite ?_ (.pure _)
    exact (foresees_name _).next fun _ => (foresees_expect _).next fun _ =>
      (foresees_name _).next fun _ => (foresees_expect _).next fun _ => ih _

theorem foresees_columnDefinition : Foresees columnDefinition :=
  (foresees_newName _).next fun _ => foresees_dataType.next fun _ => .get fun _ =>
    foresees_columnProperties _ _

theorem foresees_createStatement : Foresees createStatement := by
  refine (foresees_acceptWord _).next fun _ => .ite ((foresees_newName _).next fun _ => .pure _) ?_
  exact (foresees_expectWordAs _ _).next fun _ => (foresees_newName _).next fun _ =>
    (foresees_expect _).next fun _ => (foresees_commaList foresees_columnDefinition).next fun _ =>
      (foresees_expectAs _ _).next fun _ => .pure _

theorem foresees_dropStatement : Foresees dropStatement := by
  refine (foresees_acceptWord _).next fun _ => .ite ((foresees_name _).next fun _ => .pure _) ?_
  exact (foresees_expectWordAs _ _).next fun _ => (foresees_name _).next fun _ => .pure _

theorem foresees_showStatement : Foresees showStatement :=
  (foresees_acceptWord _).next fun _ =>
    .ite (.pure _) ((foresees_expectWordAs _ _).next fun _ => .pure _)

/-! ## Writes -/

theorem foresees_insertStatement : Foresees insertStatement := by
  refine (foresees_expectWord _).next fun _ => (foresees_name _).next fun table => ?_
  have hvalues (columns : Option (List String)) : Foresees (do
      expectWord "VALUES"
      let _ ← expect .lparen
      let values ← commaList literal
      let _ ← expectAs .rparen "',' or ')'"
      return Statement.insert table columns values) :=
    (foresees_expectWord _).next fun _ => (foresees_expect _).next fun _ =>
      (foresees_commaList foresees_literal).next fun _ => (foresees_expectAs _ _).next fun _ => .pure _
  refine (foresees_accept _).next fun _ => .ite ?_ (hvalues none)
  exact (foresees_commaList (foresees_name _)).next fun names =>
    (foresees_expectAs _ _).next fun _ => hvalues (some names)

theorem foresees_filter? : Foresees filter? :=
  (foresees_acceptWord _).next fun _ => .ite (foresees_expr.next fun _ => .pure _) (.pure _)

theorem foresees_assignment : Foresees assignment :=
  (foresees_name _).next fun _ => (foresees_expect _).next fun _ =>
    foresees_literal.next fun _ => .pure _

theorem foresees_updateStatement : Foresees updateStatement :=
  (foresees_name _).next fun _ => (foresees_expectWord _).next fun _ =>
    (foresees_commaList foresees_assignment).next fun _ => foresees_filter?.next fun _ => .pure _

theorem foresees_deleteStatement : Foresees deleteStatement :=
  (foresees_expectWord _).next fun _ => (foresees_name _).next fun _ =>
    foresees_filter?.next fun _ => .pure _

/-! ## Queries -/

theorem foresees_alias? : Foresees alias? :=
  (foresees_acceptWord _).next fun _ => .ite ((foresees_name _).next fun _ => .pure _) (.pure _)

theorem foresees_projection : Foresees projection := by
  refine (foresees_accept _).next fun _ => .ite (.pure _) ?_
  refine foresees_aggregateAhead?.next fun fn? => ?_
  cases fn? with
  | some fn =>
    exact (foresees_aggregateCall fn).next fun _ => foresees_alias?.next fun _ => .pure _
  | none =>
    exact (foresees_atKind _).next fun _ =>
      .ite (foresees_columnRef.next fun _ => foresees_alias?.next fun _ => .pure _) (.fails _)

theorem foresees_join? : Foresees join? := by
  refine (foresees_atWord _).next fun _ => (foresees_atWord _).next fun _ => .ite ?_ (.pure _)
  exact (foresees_acceptWord _).next fun _ => (foresees_expectWord _).next fun _ =>
    (foresees_name _).next fun _ => (foresees_expectWord _).next fun _ =>
      foresees_expr.next fun _ => .pure _

theorem foresees_groupBy : Foresees groupBy :=
  (foresees_acceptWord _).next fun _ =>
    .ite ((foresees_expectWord _).next fun _ => foresees_commaList foresees_columnRef) (.pure _)

theorem foresees_having? : Foresees having? :=
  (foresees_acceptWord _).next fun _ => .ite (foresees_expr.next fun _ => .pure _) (.pure _)

theorem foresees_orderItem : Foresees orderItem := by
  refine foresees_aggregateAhead?.next fun fn? => ?_
  extract_lets rest
  have hrest (key : OrderKey) : Foresees (rest key) :=
    (foresees_acceptWord _).next fun _ =>
      .ite (.pure _) ((foresees_acceptWord _).next fun _ => .pure _)
  cases fn? with
  | some fn => exact Foresees.next ((foresees_aggregateCall fn).map _) hrest
  | none => exact Foresees.next (foresees_columnRef.map _) hrest

theorem foresees_orderBy : Foresees orderBy :=
  (foresees_acceptWord _).next fun _ =>
    .ite ((foresees_expectWord _).next fun _ => foresees_commaList foresees_orderItem) (.pure _)

theorem foresees_paging? (clause : PagingClause) : Foresees (paging? clause) :=
  (foresees_acceptWord _).next fun _ =>
    .ite ((foresees_expectAs _ _).next fun _ =>
      (Foresees.lifted (failsForeseen_checkPaging clause _)).next fun _ => .pure _) (.pure _)

theorem foresees_limitAndOffset : Foresees limitAndOffset := by
  refine (foresees_paging? _).next fun limit? => ?_
  cases limit? with
  | some limit => exact (foresees_paging? _).next fun _ => .pure _
  | none =>
    refine (foresees_paging? _).next fun offset? => ?_
    cases offset? with
    | some offset => exact (foresees_paging? _).next fun _ => .pure _
    | none => exact .pure _

theorem foresees_selectStatement : Foresees selectStatement :=
  (foresees_acceptWord _).next fun _ => (foresees_commaList foresees_projection).next fun _ =>
    (foresees_expectWordAs _ _).next fun _ => (foresees_name _).next fun _ =>
      foresees_join?.next fun _ => foresees_filter?.next fun _ => foresees_groupBy.next fun _ =>
        foresees_having?.next fun _ => foresees_orderBy.next fun _ =>
          foresees_limitAndOffset.next fun _ => .pure _

/-! ## Statements -/

theorem foresees_statement : Foresees statement := by
  refine (foresees_acceptWord _).next fun _ => .ite foresees_createStatement ?_
  refine (foresees_acceptWord _).next fun _ => .ite foresees_dropStatement ?_
  refine (foresees_acceptWord _).next fun _ => .ite ((foresees_name _).next fun _ => .pure _) ?_
  refine (foresees_acceptWord _).next fun _ => .ite foresees_showStatement ?_
  refine (foresees_acceptWord _).next fun _ => .ite ((foresees_name _).next fun _ => .pure _) ?_
  refine (foresees_acceptWord _).next fun _ => .ite foresees_insertStatement ?_
  refine (foresees_acceptWord _).next fun _ => .ite foresees_selectStatement ?_
  refine (foresees_acceptWord _).next fun _ => .ite foresees_updateStatement ?_
  exact (foresees_acceptWord _).next fun _ => .ite foresees_deleteStatement (.fails _)

theorem foresees_oneStatement : Foresees oneStatement :=
  foresees_statement.next fun _ => (foresees_accept _).next fun _ => (foresees_atKind _).next fun _ =>
    .ite (.pure _) (.fails _)

theorem foresees_statements (bound : Nat) : Foresees (statements bound) := by
  induction bound with
  | zero => exact .pure _
  | succ bound ih =>
    refine (foresees_atKind _).next fun _ => .ite (.pure _) ?_
    refine (foresees_accept _).next fun _ => .ite ih ?_
    refine foresees_statement.next fun first => (foresees_atKind _).next fun _ => ?_
    extract_lets rest
    have hrest (start : Unit) : Foresees (rest start) := ih.next fun _ => .pure _
    exact .ite ((foresees_expectAs _ _).next fun _ => hrest ()) (hrest ())

end Parse

/-! ## Texts -/

theorem failsForeseen_parse (sql : String) : FailsForeseen (parse sql) :=
  (failsForeseen_tokensFrom .start sql.toList).bind fun tokens _ =>
    (Parse.foresees_oneStatement tokens trivial).1.fmap

theorem failsForeseen_parseScript (sql : String) : FailsForeseen (parseScript sql) :=
  (failsForeseen_tokensFrom .start sql.toList).bind fun tokens _ =>
    (Parse.foresees_statements _ tokens trivial).1.fmap

end RelStore.Sql
