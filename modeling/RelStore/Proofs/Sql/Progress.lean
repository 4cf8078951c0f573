/-
Reading a text ends within its tokens.

Each production walks as its reader reads (`Walk.Follows`), from the leaves of the grammar up. Where a
production calls itself, a token is gone each time: OR, AND and NOT before the next condition, the
parenthesis before the one within, the comma or the keyword before the next round of a loop. So the
bounds of the readers are never reached, the loops of the walks end, and no more than four calls for
each token wait for another (`ends_within_tokens`).
-/
import RelStore.Proofs.Sql.Following
import RelStore.Proofs.Sql.Scanning

namespace RelStore.Sql

namespace Walk

variable {β : Type} {ahead : Token → Prop} {clause : Clause} {room taken : Nat}

/-! ## Operands -/

/-- A literal is taken, or what comes next is none. -/
theorem Follows.ifLiteral {f : Option Value → Walk β} {g : Option Value → Parse β}
    (hsome : ∀ value,
      Follows (fun _ => True) clause (room - 1) (taken - 1) (f (some value)) (g (some value)))
    (hnone : Follows ahead clause room taken (f none) (g none)) :
    Follows ahead clause room taken (literal? >>= f) (Parse.literal? >>= g) := by
  rw [literal?, Parse.literal?, bind_assoc, bind_assoc]
  refine .peek fun token hahead => ?_
  have htaken (value : Value) (hkind : token.kind ≠ .eof) : Follows (· = token) clause room taken
      ((advance >>= fun _ => Pure.pure (some value)) >>= f)
      ((Parse.advance >>= fun _ => Pure.pure (some value)) >>= g) := by
    rw [bind_assoc, bind_assoc]
    exact (follows_advance_of_ne hkind).next fun _ => hsome value
  obtain ⟨kind, lexeme, place⟩ := token
  cases kind with
  | number =>
    rw [bind_assoc, bind_assoc]
    refine (follows_advance_of_ne (by nofun)).next fun _ => ?_
    dsimp only
    generalize (lexeme.toList.contains '.' || _) = inRange
    cases inRange with
    | true => exact hsome _
    | false => exact .refusesBefore _
  | string => exact htaken _ nofun
  | keyword =>
    by_cases htrue : lexeme = "TRUE"
    · subst htrue
      exact htaken _ nofun
    by_cases hfalse : lexeme = "FALSE"
    · subst hfalse
      exact htaken _ nofun
    by_cases hnull : lexeme = "NULL"
    · subst hnull
      exact htaken _ nofun
    simp only
    exact hnone.before hahead
  | _ => exact hnone.before hahead

theorem follows_literal : Follows ahead clause room 1 literal Parse.literal :=
  .ifLiteral (fun _ => .pure _) (.fails _)

theorem follows_columnRef : Follows ahead clause room 1 columnRef Parse.columnRef :=
  (follows_name _).next fun _ =>
    .ifKind (by nofun) ((follows_name _).next fun _ => .pure _) (.pure _)

theorem follows_aggregateAhead? : Follows ahead clause room 0 aggregateAhead? Parse.aggregateAhead? :=
  .peek fun _ _ => .peekSecond fun _ => .ite (fun _ => .pure _) fun _ => .pure _

theorem follows_aggregateCall (fn : AggregateFn) :
    Follows ahead clause room 1 (aggregateCall fn) (Parse.aggregateCall fn) := by
  refine follows_advance.next fun _ => (follows_expect (by nofun)).next fun _ => ?_
  refine (follows_atKind _).next fun _ => .ite (fun _ => .ite (fun _ => .failsBefore _) fun _ => ?_) fun _ => ?_
  · exact follows_advance.next fun _ => (follows_expect (by nofun)).next fun _ => .pure _
  refine (follows_atWord _).next fun _ => .ite (fun _ => .refusesBefore _) fun _ => ?_
  refine (follows_atKind _).next fun _ => follows_aggregateAhead?.next fun _ => .ite (fun _ => ?_) fun _ => ?_
  · exact (follows_atKind _).next fun _ => (follows_atKind _).next fun _ =>
      .ite (fun _ => .failsBefore _) fun _ => .refusesBefore _
  · exact follows_columnRef.next fun _ => .ifKind (by nofun) (.pure _) (.refuses _)

theorem follows_operand : Follows ahead clause room 1 operand (Parse.operand clause) := by
  refine .ifLiteral (fun _ => .pure _) (follows_aggregateAhead?.next fun fn? => ?_)
  cases fn? with
  | some fn =>
    refine .clauseInForce (.ite (fun _ => ?_) fun _ => .peek fun _ _ => .refuses _)
    exact (follows_aggregateCall fn).next fun _ => .pure _
  | none =>
    exact (follows_atKind _).next fun _ =>
      .ite (fun _ => follows_columnRef.next fun _ => .pure _) fun _ => .fails _

/-! ## Conditions -/

theorem follows_comparison? : Follows ahead clause room 0 comparison? Parse.comparison? :=
  .peek fun _ _ => .ite (fun _ => .pure _) fun _ => .pure _

theorem follows_negationAhead : Follows ahead clause room 0 negationAhead Parse.negationAhead :=
  .peekSecond fun _ => (follows_atWord _).next fun _ => .pure _

theorem follows_afterOperand (left : Expr) :
    Follows ahead clause room 0 (afterOperand left) (Parse.afterOperand clause left) := by
  refine follows_comparison?.next fun op? => ?_
  cases op? with
  | some op => exact follows_advance.next fun _ => follows_operand.next fun _ => .pure _
  | none =>
    refine .ifWord ?_ ?_
    · exact (follows_acceptWord _).next fun _ => (follows_expectWordAs _ _).next fun _ => .pure _
    refine follows_negationAhead.next fun negated => ?_
    extract_lets rest read
    have hrest (start : Unit) : Follows (fun _ => True) clause room 0 (rest start) (read start) := by
      refine .ifWord ?_ (.ifWord ?_ (.ifWord ?_ (.pure _)))
      · exact follows_operand.next fun _ => (follows_expectWordAs _ _).next fun _ =>
          follows_operand.next fun _ => .pure _
      · exact (follows_expect (by nofun)).next fun _ =>
          (follows_commaList fun _ => follows_operand).next fun _ =>
            (follows_expectAs (by nofun) _).next fun _ => .pure _
      · exact (follows_expectAs (by nofun) _).next fun _ => .pure _
    exact .ite (fun _ => follows_advance.next fun _ => hrest ()) fun _ => hrest ()

theorem follows_chain {word : String} {join : Expr → Expr → Expr} {item : Walk Expr} {read : Parse Expr}
    (h : ∀ {ahead less}, less ≤ room → Follows ahead clause less 1 item read) :
    Follows ahead clause room 1 (chain word join item) (Parse.chain word join read) := by
  have hrest {bound less : Nat} (hbound : less ≤ bound) (hless : less ≤ room) (left : Expr) :
      Follows (fun _ => True) clause less 0 (chainAfter word join item left)
        (Parse.chainAfter word join read bound left) := by
    induction bound generalizing less left with
    | zero =>
      obtain rfl := Nat.le_zero.1 hbound
      exact .exhausted
    | succ bound ih =>
      rw [chainAfter_eq, Parse.chainAfter]
      refine .ifWord ?_ (.pure _)
      exact (h (by omega)).next fun right => ih (by omega) (by omega) (join left right)
  exact (h (Nat.le_refl _)).next fun first => .measure fun tokens hlength =>
    hrest (Nat.le_refl _) (by omega) first

/-! A condition waits for four calls at most before a token is gone. -/

section

variable {depth calls : Nat} {inner : Parse Expr}
  (hinner : ∀ {ahead room calls}, room ≤ depth → 4 * room ≤ calls →
    Follows ahead clause room 1 (disjunction calls) inner)

include hinner

/-- The parenthesis is a token less, so that what it holds fits within the depth. -/
theorem follows_predicate (hroom : room ≤ depth + 1) (hcalls : 4 * room ≤ calls + 3) :
    Follows ahead clause room 1 (predicate calls) (Parse.predicate clause inner) := by
  refine .ofPos fun hpos => ?_
  cases calls with
  | zero => omega
  | succ calls =>
    rw [predicate, Parse.predicate]
    refine .ifKind (by nofun) ?_ (follows_operand.next fun left => follows_afterOperand left)
    exact (hinner (by omega) (by omega)).next fun _ => (follows_expect (by nofun)).next fun _ => .pure _

theorem follows_negation (hroom : room ≤ depth + 1) (hcalls : 4 * room ≤ calls + 2) :
    Follows ahead clause room 1 (negation calls)
      (do Parse.negation (Parse.predicate clause inner) (← get).length) := by
  refine .measure fun tokens hlength => ?_
  have hbounded {bound room calls : Nat} {ahead : Token → Prop} (hbound : room ≤ bound)
      (hroom : room ≤ depth + 1) (hcalls : 4 * room ≤ calls + 2) :
      Follows ahead clause room 1 (negation calls)
        (Parse.negation (Parse.predicate clause inner) bound) := by
    induction bound generalizing room calls ahead with
    | zero =>
      obtain rfl := Nat.le_zero.1 hbound
      exact .exhausted
    | succ bound ih =>
      refine .ofPos fun hpos => ?_
      cases calls with
      | zero => omega
      | succ calls =>
        rw [negation, Parse.negation]
        refine .ifWord ?_ (follows_predicate hinner hroom (by omega))
        exact (ih (by omega) (by omega) (by omega)).next fun _ => .pure _
  exact hbounded (Nat.le_refl _) (by omega) (by omega)

theorem follows_conjunction (hroom : room ≤ depth + 1) (hcalls : 4 * room ≤ calls + 1) :
    Follows ahead clause room 1 (conjunction calls)
      (Parse.chain "AND" .and do Parse.negation (Parse.predicate clause inner) (← get).length) := by
  refine .ofPos fun hpos => ?_
  cases calls with
  | zero => omega
  | succ calls =>
    rw [conjunction]
    exact follows_chain fun hless => follows_negation hinner (by omega) (by omega)

end

/-- The depth to which the reader may go is never reached, nor is the number of calls. -/
theorem follows_exprWithin {depth calls : Nat} (hroom : room ≤ depth) (hcalls : 4 * room ≤ calls) :
    Follows ahead clause room 1 (disjunction calls) (Parse.exprWithin clause depth) := by
  induction depth generalizing room calls ahead with
  | zero =>
    obtain rfl := Nat.le_zero.1 hroom
    exact .exhausted
  | succ depth ih =>
    refine .ofPos fun hpos => ?_
    cases calls with
    | zero => omega
    | succ calls =>
      rw [disjunction, Parse.exprWithin]
      exact follows_chain fun hless => follows_conjunction ih (by omega) (by omega)

theorem follows_expr {calls : Nat} (hcalls : 4 * room ≤ calls) (inner : Clause) :
    Follows ahead clause room 1 (expr calls inner) (Parse.expr inner) :=
  follows_forClause (.measure fun _ _ => follows_exprWithin (Nat.le_succ _) (by omega))

/-! ## Definitions -/

theorem follows_newName (kind : NameKind) :
    Follows ahead clause room 1 (newName kind) (Parse.newName kind) :=
  (follows_name _).next fun _ => (follows_check _).next fun _ => .pure _

theorem follows_dataType : Follows ahead clause room 0 dataType Parse.dataType := by
  refine .peek fun token _ => ?_
  generalize (if token.kind = .keyword then Parse.typeOfWord? token.lexeme else none) = type?
  cases type? with
  | some type => exact follows_advance.next fun _ => .pure _
  | none => exact .fails _

theorem follows_columnProperties {bound : Nat} (hbound : room ≤ bound) (column : Column) :
    Follows ahead clause room 0 (columnProperties column) (Parse.columnProperties bound column) := by
  induction bound generalizing room ahead column with
  | zero =>
    obtain rfl := Nat.le_zero.1 hbound
    exact .exhausted
  | succ bound ih =>
    rw [columnProperties_eq, Parse.columnProperties]
    refine .ifWord ?_ (.ifWord ?_ (.ifWord ?_ (.pure _)))
    · exact (follows_expectWord _).next fun _ => ih (by omega) _
    · exact ih (by omega) _
    · exact (follows_name _).next fun _ => (follows_expect (by nofun)).next fun _ =>
        (follows_name _).next fun _ => (follows_expect (by nofun)).next fun _ => ih (by omega) _

theorem follows_columnDefinition :
    Follows ahead clause room 1 columnDefinition Parse.columnDefinition :=
  (follows_newName _).next fun _ => follows_dataType.next fun _ => .measure fun _ _ =>
    follows_columnProperties (Nat.le_refl _) _

theorem follows_createStatement : Follows ahead clause room 1 createStatement
    (do Parse.expectWord "CREATE"; Parse.createStatement) := by
  refine (follows_expectWord _).next fun _ => .ifWord ((follows_newName _).next fun _ => .pure _) ?_
  exact (follows_expectWordAs _ _).next fun _ => (follows_newName _).next fun _ =>
    (follows_expect (by nofun)).next fun _ =>
      (follows_commaList fun _ => follows_columnDefinition).next fun _ =>
        (follows_expectAs (by nofun) _).next fun _ => .pure _

theorem follows_dropStatement : Follows ahead clause room 1 dropStatement
    (do Parse.expectWord "DROP"; Parse.dropStatement) := by
  refine (follows_expectWord _).next fun _ => .ifWord ((follows_name _).next fun _ => .pure _) ?_
  exact (follows_expectWordAs _ _).next fun _ => (follows_name _).next fun _ => .pure _

theorem follows_useStatement : Follows ahead clause room 1 useStatement
    (do Parse.expectWord "USE"; return .useDatabase (← Parse.name "database name")) :=
  (follows_expectWord _).next fun _ => (follows_name _).next fun _ => .pure _

theorem follows_showStatement : Follows ahead clause room 1 showStatement
    (do Parse.expectWord "SHOW"; Parse.showStatement) :=
  (follows_expectWord _).next fun _ =>
    .ifWord (.pure _) ((follows_expectWordAs _ _).next fun _ => .pure _)

theorem follows_describeStatement : Follows ahead clause room 1 describeStatement
    (do Parse.expectWord "DESCRIBE"; return .describe (← Parse.name "table name")) :=
  (follows_expectWord _).next fun _ => (follows_name _).next fun _ => .pure _

/-! ## Writes -/

theorem follows_insertStatement : Follows ahead clause room 1 insertStatement
    (do Parse.expectWord "INSERT"; Parse.insertStatement) := by
  refine (follows_expectWord _).next fun _ => (follows_expectWord _).next fun _ =>
    (follows_name _).next fun table => ?_
  have hvalues (room : Nat) (columns : Option (List String)) : Follows (fun _ => True) clause room 0
      (do
        expectWord "VALUES"
        let _ ← expect .lparen
        let values ← commaList literal
        let _ ← expectAs .rparen "',' or ')'"
        return Statement.insert table columns values)
      (do
        Parse.expectWord "VALUES"
        let _ ← Parse.expect .lparen
        let values ← Parse.commaList Parse.literal
        let _ ← Parse.expectAs .rparen "',' or ')'"
        return Statement.insert table columns values) :=
    (follows_expectWord _).next fun _ => (follows_expect (by nofun)).next fun _ =>
      (follows_commaList fun _ => follows_literal).next fun _ =>
        (follows_expectAs (by nofun) _).next fun _ => .pure _
  refine .ifKind (by nofun) ?_ (hvalues _ none)
  exact (follows_commaList fun _ => follows_name _).next fun names =>
    (follows_expectAs (by nofun) _).next fun _ => hvalues _ (some names)

theorem follows_filter? {calls : Nat} (hcalls : 4 * room ≤ calls) :
    Follows ahead clause room 0 (filter? calls) Parse.filter? :=
  .ifWord ((follows_expr (by omega) _).next fun _ => .pure _) (.pure _)

theorem follows_assignment : Follows ahead clause room 1 assignment Parse.assignment :=
  (follows_name _).next fun _ => (follows_expect (by nofun)).next fun _ =>
    follows_literal.next fun _ => .pure _

theorem follows_updateStatement {calls : Nat} (hcalls : 4 * room ≤ calls) :
    Follows ahead clause room 1 (updateStatement calls) (do Parse.expectWord "UPDATE"; Parse.updateStatement) :=
  (follows_expectWord _).next fun _ => (follows_name _).next fun _ =>
    (follows_expectWord _).next fun _ => (follows_commaList fun _ => follows_assignment).next fun _ =>
      (follows_filter? (by omega)).next fun _ => .pure _

theorem follows_deleteStatement {calls : Nat} (hcalls : 4 * room ≤ calls) :
    Follows ahead clause room 1 (deleteStatement calls) (do Parse.expectWord "DELETE"; Parse.deleteStatement) :=
  (follows_expectWord _).next fun _ => (follows_expectWord _).next fun _ =>
    (follows_name _).next fun _ => (follows_filter? (by omega)).next fun _ => .pure _

/-! ## Queries -/

theorem follows_alias? : Follows ahead clause room 0 alias? Parse.alias? :=
  .ifWord ((follows_name _).next fun _ => .pure _) (.pure _)

theorem follows_projection : Follows ahead clause room 1 projection Parse.projection := by
  refine .ifKind (by nofun) (.pure _) (follows_aggregateAhead?.next fun fn? => ?_)
  cases fn? with
  | some fn =>
    exact (follows_aggregateCall fn).next fun _ => follows_alias?.next fun _ => .pure _
  | none =>
    refine (follows_atKind _).next fun _ => .ite (fun _ => ?_) fun _ => .fails _
    exact follows_columnRef.next fun _ => follows_alias?.next fun _ => .pure _

theorem follows_join? {calls : Nat} (hcalls : 4 * room ≤ calls) :
    Follows ahead clause room 0 (join? calls) Parse.join? := by
  refine (follows_atWord _).next fun _ => (follows_atWord _).next fun _ => .ite (fun _ => ?_) fun _ => .pure _
  exact (follows_acceptWord _).next fun _ => (follows_expectWord _).next fun _ =>
    (follows_name _).next fun _ => (follows_expectWord _).next fun _ =>
      (follows_expr (by omega) _).next fun _ => .pure _

theorem follows_groupBy : Follows ahead clause room 0 groupBy Parse.groupBy := by
  refine .ifWord ((follows_expectWord _).next fun _ => ?_) (.pure _)
  exact (follows_commaList fun _ => follows_columnRef).atLeast (Nat.zero_le _)

theorem follows_having? {calls : Nat} (hcalls : 4 * room ≤ calls) :
    Follows ahead clause room 0 (having? calls) Parse.having? :=
  .ifWord ((follows_expr (by omega) _).next fun _ => .pure _) (.pure _)

theorem follows_orderItem : Follows ahead clause room 1 orderItem Parse.orderItem := by
  refine follows_aggregateAhead?.next fun fn? => ?_
  extract_lets rest read
  have hrest (room : Nat) (key : OrderKey) : Follows (fun _ => True) clause room 0 (rest key) (read key) :=
    .ifWord (.pure _) ((follows_acceptWord _).next fun _ => .pure _)
  cases fn? with
  | some fn => exact ((follows_aggregateCall fn).map _).next fun key => hrest _ key
  | none => exact (follows_columnRef.map _).next fun key => hrest _ key

theorem follows_orderBy : Follows ahead clause room 0 orderBy Parse.orderBy := by
  refine .ifWord ((follows_expectWord _).next fun _ => ?_) (.pure _)
  exact (follows_commaList fun _ => follows_orderItem).atLeast (Nat.zero_le _)

end Walk

namespace Parse

def pagingNumber (which : PagingClause) : Parse Binary64 := do
  let token ← expectAs .number s!"{which.name} count"
  let value := (Decimal.ofLexeme token.lexeme.toList).toBinary64
  checkPaging which value
  return value

theorem paging?_bind {β : Type} (which : PagingClause) (g : Option Binary64 → Parse β) :
    paging? which >>= g =
      (do if ← acceptWord which.name then g (some (← pagingNumber which)) else g none) := by
  rw [paging?, bind_assoc]
  congr 1
  funext found
  cases found <;> simp [pagingNumber]

end Parse

namespace Walk

variable {β : Type} {ahead : Token → Prop} {clause : Clause} {room : Nat}

theorem follows_pagingNumber (which : PagingClause) :
    Follows ahead clause room 1 (pagingNumber which) (Parse.pagingNumber which) :=
  (follows_expectAs (by nofun) _).next fun _ => (follows_check _).next fun _ => .pure _

/-- A paging clause is taken, or it does not come next. -/
theorem Follows.ifPaging (which : PagingClause) {f : Binary64 → Walk β} {other : Walk β}
    {g : Option Binary64 → Parse β}
    (hsome : ∀ room value, Follows (fun _ => True) clause room 0 (f value) (g (some value)))
    (hnone : Follows ahead clause room 0 other (g none)) :
    Follows ahead clause room 0
      (do if ← acceptWord which.name then f (← pagingNumber which) else other)
      (Parse.paging? which >>= g) := by
  rw [Parse.paging?_bind]
  exact .ifWord ((follows_pagingNumber which).next fun value => hsome _ value) hnone

theorem follows_paging : Follows ahead clause room 0 (paging (none, none)) Parse.limitAndOffset := by
  have hboth (room : Nat) (limit offset : Binary64) : Follows (fun _ => True) clause room 0
      (paging (some limit, some offset)) (Pure.pure (some limit, some offset)) := by
    rw [paging_eq]
    exact .pure _
  have hoffset (room : Nat) (limit : Binary64) : Follows (fun _ => True) clause room 0
      (paging (some limit, none)) (do return (some limit, ← Parse.paging? .offset)) := by
    rw [paging_eq]
    exact .ifPaging .offset (fun _ => hboth _ limit) (.pure _)
  have hlimit (room : Nat) (offset : Binary64) : Follows (fun _ => True) clause room 0
      (paging (none, some offset)) (do return (← Parse.paging? .limit, some offset)) := by
    rw [paging_eq]
    exact .ifPaging .limit (fun _ limit => hboth _ limit offset) (.pure _)
  rw [paging_eq, Parse.limitAndOffset]
  exact .ifPaging .limit hoffset (.ifPaging .offset hlimit (.pure _))

theorem follows_selectStatement {calls : Nat} (hcalls : 4 * room ≤ calls) :
    Follows ahead clause room 1 (selectStatement calls) (do Parse.expectWord "SELECT"; Parse.selectStatement) :=
  (follows_expectWord _).next fun _ => (follows_acceptWord _).next fun _ =>
    (follows_commaList fun _ => follows_projection).next fun _ =>
      (follows_expectWordAs _ _).next fun _ => (follows_name _).next fun _ =>
        (follows_join? (by omega)).next fun _ => (follows_filter? (by omega)).next fun _ => follows_groupBy.next fun _ =>
          (follows_having? (by omega)).next fun _ => follows_orderBy.next fun _ =>
            follows_paging.next fun _ => .pure _

/-! ## Statements -/

theorem follows_statement {calls : Nat} (hcalls : 4 * room ≤ calls) :
    Follows ahead clause room 1 (statement calls) Parse.statement :=
  .whenWord follows_createStatement <| .whenWord follows_dropStatement <|
    .whenWord follows_useStatement <| .whenWord follows_showStatement <|
    .whenWord follows_describeStatement <| .whenWord follows_insertStatement <|
    .whenWord (follows_selectStatement hcalls) <| .whenWord (follows_updateStatement hcalls) <|
    .whenWord (follows_deleteStatement hcalls) <| .fails _

theorem follows_oneStatement {calls : Nat} (hcalls : 4 * room ≤ calls) :
    Follows ahead clause room 1 (oneStatement calls) Parse.oneStatement :=
  (follows_statement hcalls).next fun _ => (follows_accept _).next fun _ => (follows_atKind _).next fun _ =>
    .ite (fun _ => .pure _) fun _ => .fails _

theorem follows_statements {bound calls : Nat} (hbound : room ≤ bound) (hcalls : 4 * room ≤ calls)
    (read : List Statement) :
    Follows ahead clause room 0 (statements calls read) (do return read ++ (← Parse.statements bound)) := by
  induction bound generalizing room ahead read with
  | zero =>
    obtain rfl := Nat.le_zero.1 hbound
    exact .exhausted
  | succ bound ih =>
    rw [statements_eq, Parse.statements]
    simp only [bind_assoc, ite_bind, pure_bind, List.append_nil]
    refine (follows_atKind _).next fun _ => .ite (fun _ => .pure _) fun _ => ?_
    refine .ifKind (by nofun) (ih (by omega) (by omega) read) ?_
    refine (follows_statement (by omega)).next fun first => (follows_atKind _).next fun _ => ?_
    have hrest {room : Nat} (hroom : room ≤ bound) (hcalls : 4 * room ≤ calls) :
        Follows (fun _ => True) clause room 0 (statements calls (read ++ [first]))
          (do return read ++ first :: (← Parse.statements bound)) := by
      have hread : Follows (fun _ => True) clause room 0 (statements calls (read ++ [first]))
          (do return read ++ [first] ++ (← Parse.statements bound)) := ih hroom hcalls _
      simp only [List.append_assoc, List.singleton_append] at hread
      exact hread
    refine .ite (fun _ => ?_) fun _ => hrest (by omega) (by omega)
    exact (follows_expectAs (by nofun) _).next fun _ => hrest (by omega) (by omega)

theorem follows_script {calls : Nat} (hcalls : 4 * room ≤ calls) :
    Follows ahead clause room 0 (script calls) (Parse.statements room) := by
  have hstatements : Follows ahead clause room 0 (statements calls [])
      (do return [] ++ (← Parse.statements room)) := follows_statements (Nat.le_refl _) hcalls []
  simp only [List.nil_append, bind_pure] at hstatements
  exact hstatements

/-! ## Productions -/

/-- The productions of statements and of expressions, each with the reader that reads the same in a
clause, where conditions are nested no deeper than `depth`. -/
inductive Production (clause : Clause) (calls depth : Nat) : {α : Type} → Walk α → Parse α → Prop where
  | statement : Production clause calls depth (statement calls) Parse.statement
  | createStatement : Production clause calls depth createStatement
      (do Parse.expectWord "CREATE"; Parse.createStatement)
  | dropStatement : Production clause calls depth dropStatement
      (do Parse.expectWord "DROP"; Parse.dropStatement)
  | useStatement : Production clause calls depth useStatement
      (do Parse.expectWord "USE"; return .useDatabase (← Parse.name "database name"))
  | showStatement : Production clause calls depth showStatement
      (do Parse.expectWord "SHOW"; Parse.showStatement)
  | describeStatement : Production clause calls depth describeStatement
      (do Parse.expectWord "DESCRIBE"; return .describe (← Parse.name "table name"))
  | insertStatement : Production clause calls depth insertStatement
      (do Parse.expectWord "INSERT"; Parse.insertStatement)
  | selectStatement : Production clause calls depth (selectStatement calls)
      (do Parse.expectWord "SELECT"; Parse.selectStatement)
  | updateStatement : Production clause calls depth (updateStatement calls)
      (do Parse.expectWord "UPDATE"; Parse.updateStatement)
  | deleteStatement : Production clause calls depth (deleteStatement calls)
      (do Parse.expectWord "DELETE"; Parse.deleteStatement)
  | expr (inner : Clause) : Production clause calls depth (expr calls inner) (Parse.expr inner)
  | disjunction : Production clause calls depth (disjunction calls) (Parse.exprWithin clause depth)
  | conjunction : Production clause calls depth (conjunction calls)
      (Parse.chain "AND" .and do
        Parse.negation (Parse.predicate clause (Parse.exprWithin clause depth)) (← get).length)
  | negation : Production clause calls depth (negation calls)
      (do Parse.negation (Parse.predicate clause (Parse.exprWithin clause depth)) (← get).length)
  | predicate : Production clause calls depth (predicate calls)
      (Parse.predicate clause (Parse.exprWithin clause depth))
  | operand : Production clause calls depth operand (Parse.operand clause)
  | aggregateCall (fn : AggregateFn) :
    Production clause calls depth (aggregateCall fn) (Parse.aggregateCall fn)
  | columnRef : Production clause calls depth columnRef Parse.columnRef
  | literal : Production clause calls depth literal Parse.literal

theorem Production.follows {α : Type} {walk : Walk α} {reader : Parse α} {calls depth : Nat}
    (h : Production clause calls depth walk reader) (hroom : room ≤ depth) (hcalls : 4 * room ≤ calls) :
    Follows ahead clause room 1 walk reader := by
  cases h with
  | statement => exact follows_statement hcalls
  | createStatement => exact follows_createStatement
  | dropStatement => exact follows_dropStatement
  | useStatement => exact follows_useStatement
  | showStatement => exact follows_showStatement
  | describeStatement => exact follows_describeStatement
  | insertStatement => exact follows_insertStatement
  | selectStatement => exact follows_selectStatement hcalls
  | updateStatement => exact follows_updateStatement hcalls
  | deleteStatement => exact follows_deleteStatement hcalls
  | expr inner => exact follows_expr hcalls inner
  | disjunction => exact follows_exprWithin hroom hcalls
  | conjunction => exact follows_conjunction follows_exprWithin (by omega) (by omega)
  | negation => exact follows_negation follows_exprWithin (by omega) (by omega)
  | predicate => exact follows_predicate follows_exprWithin (by omega) (by omega)
  | operand => exact follows_operand
  | aggregateCall fn => exact follows_aggregateCall fn
  | columnRef => exact follows_columnRef
  | literal => exact follows_literal

end Walk

/-! ## Texts -/

theorem areEnded_of_tokenize {sql : String} {tokens : List Token} (h : tokenize sql = .ok tokens) :
    AreEnded tokens := by
  obtain ⟨read, -, rfl, -⟩ := tokensFrom_append h
  exact ⟨_, List.getLast?_concat, rfl⟩

theorem Cursor.within_start {tokens : List Token} (h : AreEnded tokens) : start.Within tokens := by
  obtain ⟨token, htoken, -⟩ := h
  have hne : tokens ≠ [] := by
    rintro rfl
    cases htoken
  exact ⟨⟨List.length_pos_of_ne_nil hne, nofun⟩, nofun⟩

/-- What a walk over all the tokens comes to, told by what the reader gives. -/
theorem Walk.Follows.exists_last {α : Type} {walk : Walk α} {reader : Parse α} {tokens : List Token}
    {start : Cursor} {taken : Nat}
    (h : Follows (fun _ => True) start.clause tokens.length taken walk reader)
    (hended : AreEnded tokens) (hstart : start.Within tokens) : ∃ last,
      walk.runFrom tokens start =
          some ((reader.run' (tokens.drop start.index)).mapError .refused, last) ∧
        last.Within tokens ∧ last.clause = start.clause ∧
        ∀ a rest, reader.run (tokens.drop start.index) = .ok (a, rest) →
          rest = tokens.drop last.index ∧ start.index + taken ≤ last.index := by
  obtain ⟨⟨result, last⟩, hrun, hwithin, hclause, hends⟩ := h tokens start
    ⟨hended, hstart, rfl, Nat.le_add_left _ _, fun _ _ => trivial⟩
  refine ⟨last, ?_, hwithin, hclause, ?_⟩
  · rw [hrun, StateT.run'_eq]
    generalize reader.run (tokens.drop start.index) = outcome at hends
    cases hends <;> rfl
  · intro a rest hread
    rw [hread] at hends
    cases hends with
    | gives hleast => exact ⟨rfl, hleast⟩

/-- **Reading a text ends within its tokens.** With room for four calls for each token, the walks of
one statement and of a script come to an end, with what `parse` and `parseScript` give or why they
fail. They ask for no token outside of the list and stand at tokens that come after no end, all the time.
So does each production of statements and of expressions from any such token on. It leaves the clause in
force as it was, whether it gives something or fails, and if it gives something, it has gone past a
token at least. -/
theorem Walk.ends_within_tokens {sql : String} {tokens : List Token} {calls : Nat}
    (h : tokenize sql = .ok tokens) (hcalls : 4 * tokens.length ≤ calls) :
    (∃ last, (oneStatement calls).runFrom tokens .start = some ((parse sql).mapError .refused, last) ∧
      last.Within tokens) ∧
    (∃ last, (script calls).runFrom tokens .start = some ((parseScript sql).mapError .refused, last) ∧
      last.Within tokens) ∧
    ∀ start : Cursor, start.Within tokens →
      ∀ {α : Type} {walk : Walk α} {reader : Parse α},
        Production start.clause calls tokens.length walk reader → ∃ last,
          walk.runFrom tokens start =
              some ((reader.run' (tokens.drop start.index)).mapError .refused, last) ∧
            last.Within tokens ∧ last.clause = start.clause ∧
            ∀ a rest, reader.run (tokens.drop start.index) = .ok (a, rest) →
              rest = tokens.drop last.index ∧ start.index < last.index := by
  have hended := areEnded_of_tokenize h
  have hstart := Cursor.within_start hended
  refine ⟨?_, ?_, fun start hwithin _ _ _ hproduction => ?_⟩
  · obtain ⟨last, hrun, hwithin, -⟩ := (follows_oneStatement hcalls).exists_last hended hstart
    refine ⟨last, hrun.trans ?_, hwithin⟩
    rw [parse, h]
    rfl
  · obtain ⟨last, hrun, hwithin, -⟩ := (follows_script hcalls).exists_last hended hstart
    refine ⟨last, hrun.trans ?_, hwithin⟩
    rw [parseScript, h]
    rfl
  · exact (hproduction.follows (Nat.le_refl _) hcalls).exists_last hended hwithin

/-- The tokens of `DELETE FROM t WHERE SUM(a) > 1`. -/
def sumTokens : List Token :=
  [⟨.keyword, "DELETE", ⟨0, 1, 1⟩⟩, ⟨.keyword, "FROM", ⟨7, 1, 8⟩⟩, ⟨.identifier, "t", ⟨12, 1, 13⟩⟩,
    ⟨.keyword, "WHERE", ⟨14, 1, 15⟩⟩, ⟨.identifier, "SUM", ⟨20, 1, 21⟩⟩, ⟨.lparen, "(", ⟨23, 1, 24⟩⟩,
    ⟨.identifier, "a", ⟨24, 1, 25⟩⟩, ⟨.rparen, ")", ⟨25, 1, 26⟩⟩, ⟨.comparison, ">", ⟨27, 1, 28⟩⟩,
    ⟨.number, "1", ⟨29, 1, 30⟩⟩, ⟨.eof, "", ⟨30, 1, 31⟩⟩]

/-- The sum is refused in WHERE, also for a walk that has HAVING in force before and after. -/
theorem Walk.ends_within_tokens_sum :
    tokenize "DELETE FROM t WHERE SUM(a) > 1" = .ok sumTokens ∧
      (∃ last, (oneStatement 44).runFrom sumTokens .start =
          some (.error (.refused (.misplacedAggregate .sum .filter ⟨20, 1, 21⟩)), last) ∧
        last.Within sumTokens) ∧
      (∃ last, (expr 44 .filter).runFrom sumTokens ⟨4, .having, []⟩ =
          some (.error (.refused (.misplacedAggregate .sum .filter ⟨20, 1, 21⟩)), last) ∧
        last.Within sumTokens ∧ last.clause = .having) ∧
      ∃ last, operand.runFrom sumTokens ⟨4, .having, []⟩ =
          some (.ok (.aggregate ⟨.sum, some ⟨none, "a"⟩⟩), last) ∧
        last.Within sumTokens ∧ last.clause = .having ∧ 4 < last.index := by
  have htokens : tokenize "DELETE FROM t WHERE SUM(a) > 1" = .ok sumTokens := by cbv
  have hparse : parse "DELETE FROM t WHERE SUM(a) > 1" =
      .error (.misplacedAggregate .sum .filter ⟨20, 1, 21⟩) := by cbv
  have hexpr : (Parse.expr .filter).run' (sumTokens.drop 4) =
      .error (.misplacedAggregate .sum .filter ⟨20, 1, 21⟩) := by cbv
  have hoperand : (Parse.operand .having).run (sumTokens.drop 4) =
      .ok (.aggregate ⟨.sum, some ⟨none, "a"⟩⟩, sumTokens.drop 8) := by cbv
  have hstart : Cursor.Within sumTokens ⟨4, .having, []⟩ :=
    ⟨by unfold IsInside; decide, List.forall_mem_nil _⟩
  obtain ⟨⟨last, hrun, hwithin⟩, -, hproduction⟩ :=
    ends_within_tokens htokens (show 4 * sumTokens.length ≤ 44 by decide)
  refine ⟨htokens, ⟨last, ?_, hwithin⟩, ?_, ?_⟩
  · rw [hrun, hparse]
    rfl
  · obtain ⟨last, hrun, hwithin, hclause, -⟩ := hproduction _ hstart (.expr .filter)
    refine ⟨last, ?_, hwithin, hclause⟩
    rw [hrun, hexpr]
    rfl
  · obtain ⟨last, hrun, hwithin, hclause, hread⟩ := hproduction _ hstart .operand
    refine ⟨last, ?_, hwithin, hclause, (hread _ _ hoperand).2⟩
    rw [hrun, StateT.run'_eq, hoperand]
    rfl

end RelStore.Sql
