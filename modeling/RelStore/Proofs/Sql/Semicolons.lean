/-
No word of a statement is a semicolon.

This is so of each part of the grammar (`IsStatement.noSemicolon`), so that the semicolons of a text
stand between its statements.
-/
import RelStore.Proofs.Sql.Grammar

namespace RelStore.Sql

/-- None of the words is a semicolon. -/
def NoSemicolon (words : List Word) : Prop := ∀ word ∈ words, word.kind ≠ .semicolon

section

variable {α : Type} {item : List Word → α → Prop} {word : Word} {words others : List Word}
  {clause : Clause} {e left : Expr}

@[simp] theorem noSemicolon_nil : NoSemicolon [] := nofun

@[simp] theorem noSemicolon_cons :
    NoSemicolon (word :: words) ↔ word.kind ≠ .semicolon ∧ NoSemicolon words :=
  List.forall_mem_cons

@[simp] theorem noSemicolon_append :
    NoSemicolon (words ++ others) ↔ NoSemicolon words ∧ NoSemicolon others :=
  List.forall_mem_append

@[simp] theorem noSemicolon_wordIf (present : Bool) (word : String) : NoSemicolon (wordIf present word) := by
  cases present
  · exact noSemicolon_nil
  · exact noSemicolon_cons.2 ⟨nofun, noSemicolon_nil⟩

@[simp] theorem kind_keyword (word : String) : (Word.keyword word).kind = .keyword := rfl

@[simp] theorem kind_name (lexeme : String) : (Word.name lexeme).kind = .identifier := rfl

@[simp] theorem kind_sign (kind : TokenKind) : (Word.sign kind).kind = kind := rfl

@[simp] theorem kind_quoted (content : String) : (Word.quoted content).kind = .string := rfl

theorem Listed.noSemicolon {items : List α} (h : Listed item words items)
    (hitem : ∀ words a, item words a → NoSemicolon words) : NoSemicolon words := by
  induction h with
  | one h => exact hitem _ _ h
  | more h _ ih => simp [hitem _ _ h, ih]

theorem Optionally.noSemicolon {a? : Option α} (h : Optionally item words a?)
    (hitem : ∀ words a, item words a → NoSemicolon words) : NoSemicolon words := by
  cases h with
  | absent => exact noSemicolon_nil
  | present h => exact hitem _ _ h

theorem InParentheses.noSemicolon {a : α} (h : InParentheses item words a)
    (hitem : ∀ words a, item words a → NoSemicolon words) : NoSemicolon words := by
  cases h with
  | mk h => simp [hitem _ _ h]

theorem IsColumn.noSemicolon {ref : ColumnRef} (h : IsColumn words ref) : NoSemicolon words := by
  cases h <;> simp

theorem IsAggregate.noSemicolon {call : AggregateCall} (h : IsAggregate words call) :
    NoSemicolon words := by
  cases h with
  | rows _ => simp
  | column _ hwords => simp [hwords.noSemicolon]

theorem IsLiteral.noSemicolon {value : Value} (h : IsLiteral word value) : word.kind ≠ .semicolon := by
  cases h <;> nofun

theorem IsOperand.noSemicolon (h : IsOperand clause words e) : NoSemicolon words := by
  cases h with
  | literal h => simp [h.noSemicolon]
  | column h => exact h.noSemicolon
  | aggregate _ h => exact h.noSemicolon

theorem IsTest.noSemicolon (h : IsTest clause left words e) : NoSemicolon words := by
  cases h with
  | none => exact noSemicolon_nil
  | comparison op h =>
    have hop : op.word.kind ≠ .semicolon := by cases op <;> nofun
    simp [hop, h.noSemicolon]
  | isNull negated => simp
  | between negated hlow hhigh => simp [hlow.noSemicolon, hhigh.noSemicolon]
  | inList negated h => simp [h.noSemicolon fun _ _ => IsOperand.noSemicolon]
  | like negated pattern => simp

theorem Derives.noSemicolon {symbol : Nonterminal} (h : Derives clause symbol words e) :
    NoSemicolon words := by
  induction h with
  | or _ _ ihleft ihright => simp [ihleft, ihright]
  | conjunct _ ih => exact ih
  | and _ _ ihleft ihright => simp [ihleft, ihright]
  | negation _ ih => exact ih
  | not _ ih => simp [ih]
  | predicate _ ih => exact ih
  | parentheses _ ih => simp [ih]
  | test hleft h => simp [hleft.noSemicolon, h.noSemicolon]

theorem IsFilter.noSemicolon (h : IsFilter words e) : NoSemicolon words := by
  cases h with
  | mk h => simp [h.noSemicolon]

theorem IsHaving.noSemicolon (h : IsHaving words e) : NoSemicolon words := by
  cases h with
  | mk h => simp [h.noSemicolon]

theorem IsJoin.noSemicolon {join : Join} (h : IsJoin words join) : NoSemicolon words := by
  cases h with
  | mk _ _ h => simp [h.noSemicolon]

theorem IsAlias.noSemicolon {name : String} (h : IsAlias words name) : NoSemicolon words := by
  cases h
  simp

theorem IsProjection.noSemicolon {p : Projection} (h : IsProjection words p) : NoSemicolon words := by
  cases h with
  | star => simp
  | column h hname => simp [h.noSemicolon, hname.noSemicolon fun _ _ => IsAlias.noSemicolon]
  | aggregate h hname => simp [h.noSemicolon, hname.noSemicolon fun _ _ => IsAlias.noSemicolon]

theorem IsGroupBy.noSemicolon {refs : List ColumnRef} (h : IsGroupBy words refs) : NoSemicolon words := by
  cases h with
  | absent => exact noSemicolon_nil
  | present h => simp [h.noSemicolon fun _ _ => IsColumn.noSemicolon]

theorem IsOrderItem.noSemicolon {item : OrderItem} (h : IsOrderItem words item) :
    NoSemicolon words := by
  have hkey {words : List Word} {key : OrderKey} (h : IsOrderKey words key) : NoSemicolon words := by
    cases h with
    | column h => exact h.noSemicolon
    | aggregate h => exact h.noSemicolon
  cases h with
  | asc h _ => simp [hkey h]
  | desc h => simp [hkey h]

theorem IsOrderBy.noSemicolon {items : List OrderItem} (h : IsOrderBy words items) :
    NoSemicolon words := by
  cases h with
  | absent => exact noSemicolon_nil
  | present h => simp [h.noSemicolon fun _ _ => IsOrderItem.noSemicolon]

theorem IsPaging.noSemicolon {clause : PagingClause} {number : Binary64}
    (h : IsPaging clause words number) : NoSemicolon words := by
  cases h
  simp

theorem ArePaging.noSemicolon {paging : Option Binary64 × Option Binary64} (h : ArePaging words paging) :
    NoSemicolon words := by
  cases h with
  | absent => exact noSemicolon_nil
  | limit hlimit hoffset => simp [hlimit.noSemicolon, hoffset.noSemicolon fun _ _ => IsPaging.noSemicolon]
  | offset hoffset hlimit => simp [hoffset.noSemicolon, hlimit.noSemicolon fun _ _ => IsPaging.noSemicolon]

theorem AreProperties.noSemicolon {column made : Column} (h : AreProperties column words made) :
    NoSemicolon words := by
  induction h with
  | none => exact noSemicolon_nil
  | primaryKey _ ih => simp [ih]
  | unique _ ih => simp [ih]
  | references _ _ _ ih => simp [ih]

theorem IsDefinition.noSemicolon {column : Column} (h : IsDefinition words column) :
    NoSemicolon words := by
  cases h with
  | mk _ _ h => simp [h.noSemicolon]

theorem IsAssignment.noSemicolon {item : Assignment} (h : IsAssignment words item) :
    NoSemicolon words := by
  cases h with
  | mk _ h => simp [h.noSemicolon]

theorem IsValue.noSemicolon {value : Value} (h : IsValue words value) : NoSemicolon words := by
  cases h with
  | mk h => simp [h.noSemicolon]

theorem IsColumnName.noSemicolon {name : String} (h : IsColumnName words name) : NoSemicolon words := by
  cases h
  simp

theorem IsSelect.noSemicolon {query : Select} (h : IsSelect words query) : NoSemicolon words := by
  cases h with
  | mk hprojections hjoin hfilter hgroupBy hhaving horderBy hpaging =>
    simp [hprojections.noSemicolon fun _ _ => IsProjection.noSemicolon,
      hjoin.noSemicolon fun _ _ => IsJoin.noSemicolon, hfilter.noSemicolon fun _ _ => IsFilter.noSemicolon,
      hgroupBy.noSemicolon, hhaving.noSemicolon fun _ _ => IsHaving.noSemicolon, horderBy.noSemicolon,
      hpaging.noSemicolon]

/-- **No word of a statement is a semicolon.** -/
theorem IsStatement.noSemicolon {S : Statement} (h : IsStatement words S) : NoSemicolon words := by
  cases h with
  | createTable _ hcolumns =>
    simp [hcolumns.noSemicolon fun _ _ h => h.noSemicolon fun _ _ => IsDefinition.noSemicolon]
  | insert _ hcolumns hvalues =>
    simp [hcolumns.noSemicolon fun _ _ h => h.noSemicolon fun _ _ h =>
        h.noSemicolon fun _ _ => IsColumnName.noSemicolon,
      hvalues.noSemicolon fun _ _ h => h.noSemicolon fun _ _ => IsValue.noSemicolon]
  | update _ hassignments hfilter =>
    simp [hassignments.noSemicolon fun _ _ => IsAssignment.noSemicolon,
      hfilter.noSemicolon fun _ _ => IsFilter.noSemicolon]
  | delete _ hfilter => simp [hfilter.noSemicolon fun _ _ => IsFilter.noSemicolon]
  | select h => simp [h.noSemicolon]
  | _ => simp

end

end RelStore.Sql
