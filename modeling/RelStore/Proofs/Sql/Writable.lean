/-
What statements store that are read from texts can be written.

The names and the texts that a statement stores are words of its text, and what these say can be
written (`writable_of_parse`).
-/
import RelStore.Proofs.Sql.Parsed
import RelStore.Proofs.Sql.Tokens

namespace RelStore.Sql

/-- What the words say can be written: names are names, and strings are texts. -/
structure WordsWritable (words : List Word) : Prop where
  names : ∀ name, .name name ∈ words → IsName name
  texts : ∀ content, .quoted content ∈ words → Json.joined content = content

theorem WordsOf.writable {tokens : List Token} {words : List Word} (h : WordsOf tokens words)
    (htokens : ∀ token ∈ tokens, token.Writable) : WordsWritable words := by
  constructor
  all_goals
    intro lexeme hmem
    obtain ⟨⟨kind, said, place⟩, htoken, -, hword⟩ := h _ hmem
    obtain ⟨rfl, rfl⟩ := Word.mk.inj hword
    exact htokens _ htoken

section

variable {α : Type} {words others : List Word}

theorem WordsWritable.of_subset (h : WordsWritable words) (hsub : others ⊆ words) :
    WordsWritable others :=
  ⟨fun name hname => h.names name (hsub hname), fun content htext => h.texts content (hsub htext)⟩

/-- What holds of each item in writable words holds of all. -/
theorem Listed.forall_writable {item : List Word → α → Prop} {fact : α → Prop} {items : List α}
    (h : Listed item words items) (hwords : WordsWritable words)
    (hitem : ∀ words a, WordsWritable words → item words a → fact a) : ∀ a ∈ items, fact a := by
  induction h with
  | one h => exact List.forall_mem_singleton.2 (hitem _ _ hwords h)
  | more h _ ih =>
    refine List.forall_mem_cons.2 ⟨hitem _ _ (hwords.of_subset (by simp)) h, ih ?_⟩
    exact hwords.of_subset (by simp)

theorem IsLiteral.joined {word : Word} {value : Value} (h : IsLiteral word value)
    (hwords : WordsWritable words) (hword : word ∈ words) : value.Joined := by
  cases h with
  | text content =>
    rintro s ⟨⟩
    exact hwords.texts content hword
  | number _ _ => rintro s ⟨⟩
  | _ => rintro s ⟨⟩

theorem AreProperties.writable {column made : Column} (h : AreProperties column words made)
    (hwords : WordsWritable words) (hcolumn : column.Writable) : made.Writable := by
  induction h with
  | none _ => exact hcolumn
  | primaryKey _ ih =>
    exact ih (hwords.of_subset (by simp)) ⟨hcolumn.name, hcolumn.references⟩
  | unique _ ih => exact ih (hwords.of_subset (by simp)) ⟨hcolumn.name, hcolumn.references⟩
  | references table target _ ih =>
    refine ih (hwords.of_subset fun word hword => by simp [hword]) ⟨hcolumn.name, ?_⟩
    rintro _ ⟨⟩
    exact ⟨hwords.names table (by simp), hwords.names target (by simp)⟩

theorem IsDefinition.writable {column : Column} (h : IsDefinition words column)
    (hwords : WordsWritable words) : column.Writable := by
  obtain ⟨hname, -, h⟩ := h
  exact h.writable (hwords.of_subset fun word hword => by simp [hword])
    ⟨hwords.names _ List.mem_cons_self, nofun⟩

theorem IsStatement.writable {S : Statement} (h : IsStatement words S) (hwords : WordsWritable words) :
    S.Writable := by
  cases h with
  | createTable _ hcolumns =>
    obtain ⟨hcolumns⟩ := hcolumns
    refine ⟨hwords.names _ (by simp), ?_⟩
    exact hcolumns.forall_writable (hwords.of_subset fun word hword => by simp [hword])
      fun _ _ hwords h => h.writable hwords
  | insert _ _ hvalues =>
    obtain ⟨hvalues⟩ := hvalues
    refine hvalues.forall_writable (hwords.of_subset fun word hword => by simp [hword]) ?_
    rintro _ _ hwords ⟨h⟩
    exact h.joined hwords List.mem_cons_self
  | update _ hassignments _ =>
    refine hassignments.forall_writable (hwords.of_subset fun word hword => by simp [hword]) ?_
    rintro _ _ hwords ⟨column, h⟩
    exact h.joined hwords (by simp)
  | _ => trivial

end

/-- **What a statement stores that is read from a text can be written.** -/
theorem writable_of_parse {sql : String} {statement : Statement} (hsql : Json.joined sql = sql)
    (h : parse sql = .ok statement) : statement.Writable := by
  obtain ⟨tokens, htokens, -⟩ := bind_eq_ok.1 h
  obtain ⟨words, hwords, hstatement⟩ := isStatement_of_parse htokens (lexical_tokenize htokens) h
  exact hstatement.writable (hwords.writable (writable_tokenize hsql htokens))

end RelStore.Sql
