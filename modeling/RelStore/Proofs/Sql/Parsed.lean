/-
What statements are like that are read from texts.

A statement that is read from a text has words of the text that stand for it (`Stated`). So what is
known of it follows along the grammar: a new table and its columns are given names of word
characters, and aggregates stand in HAVING only (`regular_of_parse`).
-/
import RelStore.Proofs.Evaluation
import RelStore.Proofs.Sql.Spelling
import RelStore.Proofs.Sql.Statements

namespace RelStore

/-- The names of a table and its columns are accepted for new objects. -/
structure Schema.Named (schema : Schema) : Prop where
  table : Sql.checkName .table schema.name = .ok ()
  columns : ∀ column ∈ schema.columns, Sql.checkName .column column.name = .ok ()

namespace Sql

mutual

/-- A condition without aggregates. -/
def Expr.AggregateFree : Expr → Prop
  | .literal _ | .column _ | .unknown _ => True
  | .aggregate _ => False
  | .comparison _ left right | .and left right | .or left right =>
    left.AggregateFree ∧ right.AggregateFree
  | .not operand | .isNull operand _ | .like operand _ _ => operand.AggregateFree
  | .between operand low high _ => operand.AggregateFree ∧ low.AggregateFree ∧ high.AggregateFree
  | .inList operand values _ => operand.AggregateFree ∧ AllAggregateFree values

def AllAggregateFree : List Expr → Prop
  | [] => True
  | value :: rest => value.AggregateFree ∧ AllAggregateFree rest

end

/-- A statement that creates what has accepted names, and has no aggregates in ON and WHERE. -/
def Statement.Regular : Statement → Prop
  | .createTable schema => schema.Named
  | .update _ _ filter | .delete _ filter => ∀ condition ∈ filter, condition.AggregateFree
  | .select query => (∀ join ∈ query.join, join.on.AggregateFree) ∧
      ∀ condition ∈ query.filter, condition.AggregateFree
  | _ => True

/-- A statement that words of a text stand for. -/
def Statement.Stated (S : Statement) : Prop := ∃ words, AllSpoken words ∧ IsStatement words S

theorem WordsOf.spoken {sql : String} {tokens : List Token} {words : List Word}
    (h : WordsOf tokens words) (htokens : tokenize sql = .ok tokens) : AllSpoken words := by
  intro word hword
  obtain ⟨token, htoken, hkind, rfl⟩ := h word hword
  exact ⟨lexical_tokenize htokens token htoken, hkind⟩

theorem stated_of_parse {sql : String} {S : Statement} (h : parse sql = .ok S) : S.Stated := by
  obtain ⟨tokens, htokens, -⟩ := bind_eq_ok.1 h
  obtain ⟨words, hwords, hstatement⟩ := isStatement_of_parse htokens (lexical_tokenize htokens) h
  exact ⟨words, hwords.spoken htokens, hstatement⟩

theorem stated_of_parseScript {sql : String} {read : List Statement} (h : parseScript sql = .ok read) :
    ∀ S ∈ read, S.Stated := by
  obtain ⟨tokens, htokens, -⟩ := bind_eq_ok.1 h
  intro S hS
  obtain ⟨words, hwords, hstatement⟩ :=
    isStatement_of_parseScript htokens (lexical_tokenize htokens) h S hS
  exact ⟨words, hwords.spoken htokens, hstatement⟩

/-- A statement that is read from a text, alone or in a script, has words of the text. -/
theorem stated_of_read {sql : String} {S : Statement}
    (h : parse sql = .ok S ∨ ∃ read, parseScript sql = .ok read ∧ S ∈ read) : S.Stated := by
  rcases h with hparse | ⟨read, hparse, hmem⟩
  · exact stated_of_parse hparse
  · exact stated_of_parseScript hparse S hmem

/-! ## Conditions -/

section

variable {α : Type} {clause : Clause} {words : List Word} {e left : Expr}

/-- What holds of each item that words stand for holds of all. -/
theorem Listed.forall {item : List Word → α → Prop} {fact : α → Prop} {items : List α}
    (h : Listed item words items) (hitem : ∀ words a, item words a → fact a) : ∀ a ∈ items, fact a := by
  induction h with
  | one h => exact List.forall_mem_singleton.2 (hitem _ _ h)
  | more h _ ih => exact List.forall_mem_cons.2 ⟨hitem _ _ h, ih⟩

theorem Optionally.forall {item : List Word → α → Prop} {fact : α → Prop} {a? : Option α}
    (h : Optionally item words a?) (hitem : ∀ words a, item words a → fact a) : ∀ a ∈ a?, fact a := by
  cases h with
  | absent => exact nofun
  | present h =>
    rintro _ ⟨⟩
    exact hitem _ _ h

variable {spoken : Word → Prop} {column : ColumnRef → Prop} {aggregate : AggregateCall → Prop}
  (hcolumn : ∀ ref, column ref)
  (haggregate : clause = .having → ∀ words call, IsAggregate words call →
    (∀ word ∈ words, spoken word) → aggregate call)

include hcolumn haggregate

theorem IsOperand.leavesHold (h : IsOperand clause words e) (hwords : ∀ word ∈ words, spoken word) :
    e.LeavesHold column aggregate := by
  cases h with
  | literal _ => trivial
  | column _ => exact hcolumn _
  | aggregate hclause h => exact haggregate hclause _ _ h hwords

theorem Listed.leavesHold {values : List Expr} (h : Listed (IsOperand clause) words values)
    (hwords : ∀ word ∈ words, spoken word) : AllLeavesHold column aggregate values := by
  induction h with
  | one h => exact ⟨h.leavesHold hcolumn haggregate hwords, trivial⟩
  | more h _ ih =>
    obtain ⟨hfirst, hrest⟩ := List.forall_mem_append.1 hwords
    exact ⟨h.leavesHold hcolumn haggregate hfirst, ih (List.forall_mem_cons.1 hrest).2⟩

theorem IsTest.leavesHold (h : IsTest clause left words e) (hwords : ∀ word ∈ words, spoken word)
    (hleft : left.LeavesHold column aggregate) : e.LeavesHold column aggregate := by
  cases h with
  | none => exact hleft
  | comparison _ h =>
    exact ⟨hleft, h.leavesHold hcolumn haggregate (List.forall_mem_cons.1 hwords).2⟩
  | isNull _ => exact hleft
  | between _ hlow hhigh =>
    have hbounds := (List.forall_mem_cons.1 (List.forall_mem_append.1 hwords).2).2
    obtain ⟨hlowWords, hhighWords⟩ := List.forall_mem_append.1 hbounds
    exact ⟨hleft, hlow.leavesHold hcolumn haggregate hlowWords,
      hhigh.leavesHold hcolumn haggregate (List.forall_mem_cons.1 hhighWords).2⟩
  | inList _ h =>
    have hlist := (List.forall_mem_cons.1 (List.forall_mem_append.1 hwords).2).2
    have hvalues := (List.forall_mem_append.1 (List.forall_mem_cons.1 hlist).2).1
    exact ⟨hleft, h.leavesHold hcolumn haggregate hvalues⟩
  | like _ _ => exact hleft

/-- A condition that words stand for has no unknown nodes, and reads aggregates in HAVING only. -/
theorem Derives.leavesHold {symbol : Nonterminal} (h : Derives clause symbol words e)
    (hwords : ∀ word ∈ words, spoken word) : e.LeavesHold column aggregate := by
  induction h with
  | or _ _ ihLeft ihRight =>
    obtain ⟨hleft, hright⟩ := List.forall_mem_append.1 hwords
    exact ⟨ihLeft hleft, ihRight (List.forall_mem_cons.1 hright).2⟩
  | conjunct _ ih => exact ih hwords
  | and _ _ ihLeft ihRight =>
    obtain ⟨hleft, hright⟩ := List.forall_mem_append.1 hwords
    exact ⟨ihLeft hleft, ihRight (List.forall_mem_cons.1 hright).2⟩
  | negation _ ih => exact ih hwords
  | not _ ih => exact ih (List.forall_mem_cons.1 hwords).2
  | predicate _ ih => exact ih hwords
  | parentheses _ ih =>
    exact ih (List.forall_mem_append.1 (List.forall_mem_cons.1 hwords).2).1
  | test hleft h =>
    obtain ⟨hleftWords, hwords⟩ := List.forall_mem_append.1 hwords
    exact h.leavesHold hcolumn haggregate hwords
      (hleft.leavesHold hcolumn haggregate hleftWords)

omit hcolumn haggregate

mutual

theorem aggregateFree_of_leavesHold : (e : Expr) → e.LeavesHold column (fun _ => False) →
    e.AggregateFree
  | .literal _, _ | .column _, _ => trivial
  | .aggregate _, h | .unknown _, h => h.elim
  | .comparison _ left right, h | .and left right, h | .or left right, h =>
    ⟨aggregateFree_of_leavesHold left h.1, aggregateFree_of_leavesHold right h.2⟩
  | .not operand, h | .isNull operand _, h | .like operand _ _, h =>
    aggregateFree_of_leavesHold operand h
  | .between operand low high _, h => ⟨aggregateFree_of_leavesHold operand h.1,
      aggregateFree_of_leavesHold low h.2.1, aggregateFree_of_leavesHold high h.2.2⟩
  | .inList operand values _, h =>
    ⟨aggregateFree_of_leavesHold operand h.1, allAggregateFree_of_leavesHold values h.2⟩

theorem allAggregateFree_of_leavesHold : (values : List Expr) →
    AllLeavesHold column (fun _ => False) values → AllAggregateFree values
  | [], _ => trivial
  | value :: rest, h =>
    ⟨aggregateFree_of_leavesHold value h.1, allAggregateFree_of_leavesHold rest h.2⟩

end

theorem Derives.aggregateFree {symbol : Nonterminal} (h : Derives clause symbol words e)
    (hclause : clause ≠ .having) : e.AggregateFree :=
  aggregateFree_of_leavesHold e
    (h.leavesHold (fun _ => trivial) (fun hhaving => absurd hhaving hclause) fun _ _ => trivial)

theorem IsFilter.aggregateFree (h : IsFilter words e) : e.AggregateFree := by
  obtain ⟨h⟩ := h
  exact h.aggregateFree nofun

theorem IsJoin.aggregateFree {join : Join} (h : IsJoin words join) : join.on.AggregateFree := by
  obtain ⟨_, _, h⟩ := h
  exact h.aggregateFree nofun

end

/-! ## Statements -/

section

variable {words : List Word}

theorem AreProperties.name_eq {column made : Column} (h : AreProperties column words made) :
    made.name = column.name := by
  induction h with
  | none _ => rfl
  | primaryKey _ ih => exact ih
  | unique _ ih => exact ih
  | references _ _ _ ih => exact ih

theorem IsDefinition.named {column : Column} (h : IsDefinition words column) :
    checkName .column column.name = .ok () := by
  obtain ⟨hname, -, h⟩ := h
  exact h.name_eq ▸ hname

theorem IsStatement.regular {S : Statement} (h : IsStatement words S) : S.Regular := by
  cases h with
  | createTable hname hcolumns =>
    obtain ⟨hcolumns⟩ := hcolumns
    exact ⟨hname, hcolumns.forall fun _ _ h => h.named⟩
  | update _ _ hfilter => exact hfilter.forall fun _ _ h => h.aggregateFree
  | delete _ hfilter => exact hfilter.forall fun _ _ h => h.aggregateFree
  | select h =>
    obtain ⟨-, hjoin, hfilter, -, -, -, -⟩ := h
    exact ⟨hjoin.forall fun _ _ h => h.aggregateFree, hfilter.forall fun _ _ h => h.aggregateFree⟩
  | _ => trivial

end

theorem Statement.Stated.regular {S : Statement} (h : S.Stated) : S.Regular :=
  let ⟨_, _, h⟩ := h
  IsStatement.regular h

/-- **A statement that is read from a text is regular.** -/
theorem regular_of_parse {sql : String} {statement : Statement} (h : parse sql = .ok statement) :
    statement.Regular :=
  (stated_of_parse h).regular

theorem regular_of_parseScript {sql : String} {statements : List Statement}
    (h : parseScript sql = .ok statements) : ∀ statement ∈ statements, statement.Regular :=
  fun S hS => (stated_of_parseScript h S hS).regular

end Sql

end RelStore
