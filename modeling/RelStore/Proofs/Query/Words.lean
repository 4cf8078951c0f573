/-
The names that queries of texts have.

References, aliases and the names of tables and columns are runs of word characters, and the text of
an aggregate has parentheses. So an output column goes by the text of an aggregate only if it is an
aggregate without an alias (`not_sameName_text`).
-/
import RelStore.Proofs.Query.Answers

namespace RelStore

open Sql
open Text (sameName lower)

/-- A query whose parts and names stand in a text. -/
structure Sql.Select.Worded (query : Select) : Prop where
  spoken : query.Spoken
  aliases : ∀ projection ∈ query.projections, ∀ name ∈ projection.alias?, OfWordChars name
  orderBy : ∀ item ∈ query.orderBy, ∀ ref, item.key = .column ref → ref.Plain

namespace Sql

section

variable {words : List Word}

theorem IsProjection.ofWordChars_alias {projection : Projection} (h : IsProjection words projection)
    (hwords : AllSpoken words) : ∀ name ∈ projection.alias?, OfWordChars name := by
  have halias {words : List Word} {name? : Option String} (h : Optionally IsAlias words name?)
      (hwords : AllSpoken words) : ∀ name ∈ name?, OfWordChars name := by
    refine (h.spoken hwords).forall ?_
    rintro _ name ⟨hwords, ⟨_⟩⟩
    exact IsIdentifier.ofWordChars (hwords (.name name) (by simp)).1
  cases h with
  | star => exact nofun
  | column _ hname => exact halias hname (List.forall_mem_append.1 hwords).2
  | aggregate _ hname => exact halias hname (List.forall_mem_append.1 hwords).2

theorem IsOrderBy.plain_columns {items : List OrderItem} (h : IsOrderBy words items)
    (hwords : AllSpoken words) : ∀ item ∈ items, ∀ ref, item.key = .column ref → ref.Plain := by
  intro item hitem ref href
  obtain ⟨words, hkey, hwords⟩ := h.exists_key hwords item hitem
  rw [href] at hkey
  cases hkey with
  | column h => exact h.plain hwords

theorem IsSelect.worded {query : Select} (h : IsSelect words query) (hwords : AllSpoken words) :
    query.Worded := by
  have hspoken := h.spoken hwords
  obtain ⟨hprojections, -, -, -, -, horderBy, -⟩ := h
  refine ⟨hspoken, (hprojections.spoken fun word hword => hwords word (by simp [hword])).forall
    fun _ _ h => h.2.ofWordChars_alias h.1, ?_⟩
  exact horderBy.plain_columns fun word hword => hwords word (by simp [hword])

end

theorem Statement.Stated.worded {query : Select} (h : Statement.Stated (.select query)) :
    query.Worded := by
  obtain ⟨words, hwords, hstatement⟩ := h
  cases hstatement with
  | select h => exact h.worded (List.forall_mem_cons.1 hwords).2

/-! ## Texts of aggregates -/

/-- A name of word characters, or two with a dot between them. -/
def IsColumnText (name : String) : Prop := ∀ c ∈ name.toList, isWordChar c = true ∨ c = '.'

theorem OfWordChars.isColumnText {name : String} (h : OfWordChars name) : IsColumnText name :=
  fun c hc => .inl (h c hc)

theorem AggregateCall.paren_mem_text (call : AggregateCall) : '(' ∈ call.text.toList := by
  rw [toList_text]
  simp

theorem IsColumnText.ne_text {name : String} (h : IsColumnText name) (call : AggregateCall) :
    name ≠ call.text := by
  rintro rfl
  rcases h '(' call.paren_mem_text with hc | hc
  · exact absurd hc (by decide)
  · exact absurd hc (by decide)

/-- No column goes by the text of an aggregate. -/
theorem not_sameName_text {name : String} (hname : IsColumnText name) {call : AggregateCall}
    (hcall : call.Plain) : sameName name call.text = false := by
  refine Bool.eq_false_iff.2 fun hsame => ?_
  have hascii : ∀ c ∈ name.toList, c.toNat < 128 := by
    intro c hc
    rcases hname c hc with hword | rfl
    · exact toNat_lt_of_isWordChar hword
    · decide
  have hparen : '(' ∈ (lower name).toList := by
    rw [sameName_iff.1 hsame, hcall.toList_lower_text]
    simp
  rw [Text.toList_lower hascii] at hparen
  obtain ⟨c, hc, hlower⟩ := List.mem_map.1 hparen
  rcases hname c hc with hword | rfl
  · have hchar := isWordChar_toLower hword
    rw [hlower] at hchar
    exact absurd hchar (by decide)
  · exact absurd hlower (by decide)

end Sql

/-! ## Names of output columns -/

/-- The tables of a query and their columns have names that are accepted. -/
def Scope.Named (scope : Scope) : Prop := ∀ table ∈ scope.tables, table.Named

section

variable {scope : Scope}

theorem Scope.Named.isColumnText_outputName (h : scope.Named) {ref : ColumnRef} {name : String}
    (hname : scope.outputName ref = .ok name) : IsColumnText name := by
  obtain ⟨bound, hbound, rfl⟩ := map_eq_ok.1 hname
  obtain ⟨table, htable, column, hcolumn, rfl, -⟩ := Scope.exists_of_resolve hbound
  have htableName := ofWordChars_of_checkName (h table htable).table nofun
  have hcolumnName := ofWordChars_of_checkName ((h table htable).columns column hcolumn) nofun
  dsimp only [Scope.bind]
  split
  · intro c hc
    have hmem : c ∈ table.name.toList ++ '.' :: column.name.toList := by
      simpa [toString] using hc
    rcases List.mem_append.1 hmem with hmem | hmem
    · exact .inl (htableName c hmem)
    · exact (List.mem_cons.1 hmem).symm.imp_left (hcolumnName c)
  · exact hcolumnName.isColumnText

/-- An output column of groups that is no aggregate without an alias goes by a column text. -/
theorem Grouping.isColumnText_outputName {g : Grouping} (hscope : g.scope.Named) {projection : Projection}
    (halias : ∀ name ∈ projection.alias?, OfWordChars name)
    (hcall : ∀ call, projection ≠ .aggregate call none) {name : String}
    (h : g.outputName projection = .ok name) : IsColumnText name := by
  cases projection with
  | star => cases h
  | column ref name? =>
    cases name? with
    | none => exact hscope.isColumnText_outputName h
    | some other =>
      obtain rfl := Except.ok.inj h
      exact (halias other rfl).isColumnText
  | aggregate call name? =>
    cases name? with
    | none => exact absurd rfl (hcall call)
    | some other =>
      obtain rfl := Except.ok.inj h
      exact (halias other rfl).isColumnText

end

end RelStore
