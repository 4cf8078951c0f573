/-
Statements are written as texts, and read back from them.

`Statement.words` are the words of a statement, and `render` is the text of these words. The words
of a statement that was read stand for it in the grammar, part by part. So the text is read as the
same statement (`parse_render`).
-/
import Mathlib
import RelStore.Proofs.Sql.Parsed
import RelStore.Proofs.Sql.Rendering

namespace RelStore.Sql

/-! ## The words of statements -/

/-- The words of WHERE or HAVING. -/
def conditionWords (word : String) (e : Expr) : List Word := .keyword word :: e.words

def Join.words (join : Join) : List Word :=
  .keyword "JOIN" :: .name join.table :: conditionWords "ON" join.on

def aliasWords (name : String) : List Word := [.keyword "AS", .name name]

def Projection.words : Projection → List Word
  | .star => [.sign .star]
  | .column ref name? => ref.words ++ wordsOf? aliasWords name?
  | .aggregate call name? => call.words ++ wordsOf? aliasWords name?

def OrderKey.words : OrderKey → List Word
  | .column ref => ref.words
  | .aggregate call => call.words

def OrderItem.words (item : OrderItem) : List Word :=
  item.key.words ++ [.keyword item.direction.name]

/-- The words of GROUP BY or ORDER BY. -/
def byWords (word : String) (items : List (List Word)) : List Word :=
  if items.isEmpty then [] else .keyword word :: .keyword "BY" :: separated items

def pagingWords (clause : PagingClause) (number : Binary64) : List Word :=
  [.keyword clause.name, ⟨.number, number.wholeText⟩]

def Select.words (query : Select) : List Word :=
  wordIf query.distinct "DISTINCT" ++ (separated (query.projections.map Projection.words) ++
    .keyword "FROM" :: .name query.table :: (wordsOf? Join.words query.join ++
      (wordsOf? (conditionWords "WHERE") query.filter ++
        (byWords "GROUP" (query.groupBy.map ColumnRef.words) ++
          (wordsOf? (conditionWords "HAVING") query.having ++
            (byWords "ORDER" (query.orderBy.map OrderItem.words) ++
              (wordsOf? (pagingWords .limit) query.limit ++
                wordsOf? (pagingWords .offset) query.offset)))))))

def primaryKeyWords (present : Bool) : List Word :=
  if present then [.keyword "PRIMARY", .keyword "KEY"] else []

def referenceWords (reference : Reference) : List Word :=
  [.keyword "REFERENCES", .name reference.table, .sign .lparen, .name reference.column,
    .sign .rparen]

def columnWords (column : Column) : List Word :=
  .name column.name :: .keyword column.type.name :: (primaryKeyWords column.primaryKey ++
    (wordIf column.unique "UNIQUE" ++ wordsOf? referenceWords column.references))

def Assignment.words (item : Assignment) : List Word :=
  [.name item.column, .sign .equals, item.value.word]

/-- Items in parentheses, with commas between them. -/
def enclosed (items : List (List Word)) : List Word :=
  .sign .lparen :: (separated items ++ [.sign .rparen])

def namesWords (names : List String) : List Word := enclosed (names.map fun name => [.name name])

/-- The words of a statement. Each statement that can be read has some. -/
def Statement.words : Statement → List Word
  | .createDatabase name => [.keyword "CREATE", .keyword "DATABASE", .name name]
  | .createTable schema => .keyword "CREATE" :: .keyword "TABLE" :: .name schema.name ::
      enclosed (schema.columns.map columnWords)
  | .dropDatabase name => [.keyword "DROP", .keyword "DATABASE", .name name]
  | .dropTable name => [.keyword "DROP", .keyword "TABLE", .name name]
  | .useDatabase name => [.keyword "USE", .name name]
  | .showDatabases => [.keyword "SHOW", .keyword "DATABASES"]
  | .showTables => [.keyword "SHOW", .keyword "TABLES"]
  | .describe table => [.keyword "DESCRIBE", .name table]
  | .insert table columns values => .keyword "INSERT" :: .keyword "INTO" :: .name table ::
      (wordsOf? namesWords columns ++ .keyword "VALUES" ::
        enclosed (values.map fun value => [value.word]))
  | .update table assignments filter => .keyword "UPDATE" :: .name table :: .keyword "SET" ::
      (separated (assignments.map Assignment.words) ++ wordsOf? (conditionWords "WHERE") filter)
  | .delete table filter => .keyword "DELETE" :: .keyword "FROM" :: .name table ::
      wordsOf? (conditionWords "WHERE") filter
  | .select query => .keyword "SELECT" :: query.words
  | .unknown _ => []

/-- The text of a statement. -/
def render (S : Statement) : String := spell S.words

/-- The conditions of a query. -/
def Select.conditions (query : Select) : List Expr :=
  (query.join.map Join.on).toList ++ (query.filter.toList ++ query.having.toList)

/-- The literals in a statement. -/
def Statement.literals : Statement → List Value
  | .insert _ _ values => values
  | .update _ assignments filter =>
    assignments.map Assignment.value ++ filter.toList.flatMap Expr.literals
  | .delete _ filter => filter.toList.flatMap Expr.literals
  | .select query => query.conditions.flatMap Expr.literals
  | _ => []

/-! ## Clauses are rendered -/

section

variable {words : List Word} {α : Type}

theorem IsFilter.renders {e : Expr} (h : IsFilter words e) (hwords : AllSpoken words)
    (hsafe : ∀ value ∈ e.literals, value.IsSafe) : Renders IsFilter e (conditionWords "WHERE" e) := by
  obtain ⟨h⟩ := h
  obtain ⟨hwhere, hwords⟩ := allSpoken_cons.1 hwords
  obtain ⟨hstands, hspoken⟩ := h.renders hwords hsafe
  exact ⟨.mk hstands, allSpoken_cons.2 ⟨hwhere, hspoken⟩⟩

theorem IsHaving.renders {e : Expr} (h : IsHaving words e) (hwords : AllSpoken words)
    (hsafe : ∀ value ∈ e.literals, value.IsSafe) : Renders IsHaving e (conditionWords "HAVING" e) := by
  obtain ⟨h⟩ := h
  obtain ⟨hhaving, hwords⟩ := allSpoken_cons.1 hwords
  obtain ⟨hstands, hspoken⟩ := h.renders hwords hsafe
  exact ⟨.mk hstands, allSpoken_cons.2 ⟨hhaving, hspoken⟩⟩

theorem IsJoin.renders {join : Join} (h : IsJoin words join) (hwords : AllSpoken words)
    (hsafe : ∀ value ∈ join.on.literals, value.IsSafe) : Renders IsJoin join join.words := by
  obtain ⟨inner, table, h⟩ := h
  obtain ⟨-, hwords⟩ := allSpoken_append.1 hwords
  obtain ⟨hjoin, hwords⟩ := allSpoken_cons.1 hwords
  obtain ⟨htable, hwords⟩ := allSpoken_cons.1 hwords
  obtain ⟨hon, hwords⟩ := allSpoken_cons.1 hwords
  obtain ⟨hstands, hspoken⟩ := h.renders hwords hsafe
  exact ⟨.mk false table hstands, allSpoken_cons.2 ⟨hjoin, allSpoken_cons.2 ⟨htable,
    allSpoken_cons.2 ⟨hon, hspoken⟩⟩⟩⟩

theorem IsAlias.renders {name : String} (h : IsAlias words name) (hwords : AllSpoken words) :
    Renders IsAlias name (aliasWords name) := by
  obtain ⟨name⟩ := h
  exact ⟨.mk name, hwords⟩

theorem IsProjection.renders {p : Projection} (h : IsProjection words p) (hwords : AllSpoken words) :
    Renders IsProjection p p.words := by
  cases h with
  | star => exact ⟨.star, hwords⟩
  | column h hname =>
    obtain ⟨hcolumn, hwords⟩ := allSpoken_append.1 hwords
    obtain ⟨hstands, hspoken⟩ := h.renders hcolumn
    obtain ⟨hstandsName, hspokenName⟩ := hname.renders hwords fun _ _ _ h => h.renders
    exact ⟨.column hstands hstandsName, allSpoken_append.2 ⟨hspoken, hspokenName⟩⟩
  | aggregate h hname =>
    obtain ⟨hcall, hwords⟩ := allSpoken_append.1 hwords
    obtain ⟨hstands, hspoken⟩ := h.renders hcall
    obtain ⟨hstandsName, hspokenName⟩ := hname.renders hwords fun _ _ _ h => h.renders
    exact ⟨.aggregate hstands hstandsName, allSpoken_append.2 ⟨hspoken, hspokenName⟩⟩

theorem byWords_eq {items : List (List Word)} (word : String) (h : items ≠ []) :
    byWords word items = .keyword word :: .keyword "BY" :: separated items := by
  rw [byWords, if_neg (by rwa [List.isEmpty_iff])]

/-- A clause of GROUP BY or ORDER BY that has items. -/
theorem Listed.renders_by {item : List Word → α → Prop} {render : α → List Word} {items : List α}
    (word : String) (h : Listed item words items)
    (hwords : AllSpoken (.keyword word :: .keyword "BY" :: words))
    (hitem : ∀ words a, a ∈ items → item words a → AllSpoken words → Renders item a (render a)) :
    ∃ rendered, byWords word (items.map render) = .keyword word :: .keyword "BY" :: rendered ∧
      Listed item rendered items ∧ AllSpoken (byWords word (items.map render)) := by
  obtain ⟨hword, hwords⟩ := allSpoken_cons.1 hwords
  obtain ⟨hby, hwords⟩ := allSpoken_cons.1 hwords
  obtain ⟨hstands, hspoken⟩ := h.renders hwords hitem
  have hne : items.map render ≠ [] := by cases h <;> nofun
  rw [byWords_eq _ hne]
  exact ⟨_, rfl, hstands, allSpoken_cons.2 ⟨hword, allSpoken_cons.2 ⟨hby, hspoken⟩⟩⟩

theorem IsGroupBy.renders {refs : List ColumnRef} (h : IsGroupBy words refs) (hwords : AllSpoken words) :
    Renders IsGroupBy refs (byWords "GROUP" (refs.map ColumnRef.words)) := by
  cases h with
  | absent => exact ⟨.absent, allSpoken_nil⟩
  | present h =>
    obtain ⟨rendered, hrendered, hstands, hspoken⟩ :=
      h.renders_by "GROUP" hwords fun _ _ _ h => h.renders
    exact ⟨hrendered ▸ .present hstands, hspoken⟩

theorem IsOrderKey.renders {key : OrderKey} (h : IsOrderKey words key) (hwords : AllSpoken words) :
    Renders IsOrderKey key key.words := by
  cases h with
  | column h =>
    obtain ⟨hstands, hspoken⟩ := h.renders hwords
    exact ⟨.column hstands, hspoken⟩
  | aggregate h =>
    obtain ⟨hstands, hspoken⟩ := h.renders hwords
    exact ⟨.aggregate hstands, hspoken⟩

theorem IsOrderItem.renders {item : OrderItem} (h : IsOrderItem words item) (hwords : AllSpoken words) :
    Renders IsOrderItem item item.words := by
  cases h with
  | asc h named =>
    obtain ⟨hstands, hspoken⟩ := h.renders (allSpoken_append.1 hwords).1
    exact ⟨.asc hstands true, allSpoken_append.2 ⟨hspoken,
      allSpoken_cons.2 ⟨spoken_keyword (show "ASC" ∈ keywords by decide), allSpoken_nil⟩⟩⟩
  | desc h =>
    obtain ⟨hstands, hspoken⟩ := h.renders (allSpoken_append.1 hwords).1
    exact ⟨.desc hstands, allSpoken_append.2 ⟨hspoken, (allSpoken_append.1 hwords).2⟩⟩

theorem IsOrderBy.renders {items : List OrderItem} (h : IsOrderBy words items)
    (hwords : AllSpoken words) :
    Renders IsOrderBy items (byWords "ORDER" (items.map OrderItem.words)) := by
  cases h with
  | absent => exact ⟨.absent, allSpoken_nil⟩
  | present h =>
    obtain ⟨rendered, hrendered, hstands, hspoken⟩ :=
      h.renders_by "ORDER" hwords fun _ _ _ h => h.renders
    exact ⟨hrendered ▸ .present hstands, hspoken⟩

theorem IsPaging.renders {clause : PagingClause} {number : Binary64} (h : IsPaging clause words number)
    (hwords : AllSpoken words) : Renders (IsPaging clause) number (pagingWords clause number) := by
  obtain ⟨numeral, h⟩ := h
  have hnumber := number_wholeText (Binary64.isSafeInteger_of_checkPaging h)
  have hstands := @IsPaging.mk clause _ (hnumber.symm ▸ h)
  rw [hnumber] at hstands
  exact ⟨hstands, allSpoken_cons.2 ⟨(allSpoken_cons.1 hwords).1,
    allSpoken_cons.2 ⟨⟨isNumeral_wholeText _, nofun⟩, allSpoken_nil⟩⟩⟩

/-- LIMIT comes first, if there are both. -/
theorem ArePaging.renders {limit offset : Option Binary64} (h : ArePaging words (limit, offset))
    (hwords : AllSpoken words) : Renders ArePaging (limit, offset)
      (wordsOf? (pagingWords .limit) limit ++ wordsOf? (pagingWords .offset) offset) := by
  cases h with
  | absent => exact ⟨.absent, allSpoken_nil⟩
  | limit hlimit hoffset =>
    obtain ⟨hlimitWords, hoffsetWords⟩ := allSpoken_append.1 hwords
    obtain ⟨hstandsLimit, hspokenLimit⟩ := hlimit.renders hlimitWords
    obtain ⟨hstandsOffset, hspokenOffset⟩ := hoffset.renders hoffsetWords fun _ _ _ h => h.renders
    exact ⟨.limit hstandsLimit hstandsOffset, allSpoken_append.2 ⟨hspokenLimit, hspokenOffset⟩⟩
  | offset hoffset hlimit =>
    obtain ⟨hoffsetWords, hlimitWords⟩ := allSpoken_append.1 hwords
    obtain ⟨hstandsOffset, hspokenOffset⟩ := hoffset.renders hoffsetWords
    cases hlimit with
    | absent =>
      have hstands := ArePaging.offset hstandsOffset .absent
      rw [List.append_nil] at hstands
      exact ⟨hstands, hspokenOffset⟩
    | present hlimit =>
      obtain ⟨hstandsLimit, hspokenLimit⟩ := hlimit.renders hlimitWords
      exact ⟨.limit hstandsLimit (.present hstandsOffset),
        allSpoken_append.2 ⟨hspokenLimit, hspokenOffset⟩⟩

end

/-! ## Definitions of columns are rendered -/

section

variable {words : List Word}

theorem isType_name (type : DataType) : IsType type.name type := by
  cases type <;> constructor

theorem spoken_type (type : DataType) : Word.Spoken (.keyword type.name) := by
  refine spoken_keyword ?_
  cases type <;> decide

/-- Properties leave the name and the type alone, and refer to what the words name. -/
theorem AreProperties.keeps {column made : Column} (h : AreProperties column words made)
    (hwords : AllSpoken words) (hcolumn : AllSpoken (wordsOf? referenceWords column.references)) :
    made.name = column.name ∧ made.type = column.type ∧
      AllSpoken (wordsOf? referenceWords made.references) := by
  induction h with
  | none column => exact ⟨rfl, rfl, hcolumn⟩
  | primaryKey _ ih => exact ih (allSpoken_cons.1 (allSpoken_cons.1 hwords).2).2 hcolumn
  | unique _ ih => exact ih (allSpoken_cons.1 hwords).2 hcolumn
  | references table target _ ih =>
    have hsplit := allSpoken_append.1 (show AllSpoken (referenceWords ⟨table, target⟩ ++ _) from hwords)
    exact ih hsplit.2 hsplit.1

theorem areProperties_columnWords (column : Column) :
    AreProperties ⟨column.name, column.type, false, false, none⟩
      (primaryKeyWords column.primaryKey ++
        (wordIf column.unique "UNIQUE" ++ wordsOf? referenceWords column.references)) column := by
  obtain ⟨name, type, primaryKey, unique, references⟩ := column
  have hreferences (primaryKey unique : Bool) : AreProperties ⟨name, type, primaryKey, unique, none⟩
      (wordsOf? referenceWords references) ⟨name, type, primaryKey, unique, references⟩ := by
    cases references with
    | none => exact .none _
    | some reference => exact .references _ _ (.none _)
  have hunique (primaryKey : Bool) : AreProperties ⟨name, type, primaryKey, false, none⟩
      (wordIf unique "UNIQUE" ++ wordsOf? referenceWords references)
      ⟨name, type, primaryKey, unique, references⟩ := by
    cases unique
    · exact hreferences primaryKey false
    · exact .unique (hreferences primaryKey true)
  cases primaryKey
  · exact hunique false
  · exact .primaryKey (hunique true)

theorem IsDefinition.renders {column : Column} (h : IsDefinition words column)
    (hwords : AllSpoken words) : Renders IsDefinition column (columnWords column) := by
  obtain ⟨hname, -, h⟩ := h
  obtain ⟨hnameWord, hwords⟩ := allSpoken_cons.1 hwords
  obtain ⟨-, hwords⟩ := allSpoken_cons.1 hwords
  obtain ⟨rfl, rfl, hreferences⟩ := h.keeps hwords allSpoken_nil
  refine ⟨.mk hname (isType_name _) (areProperties_columnWords column), ?_⟩
  refine allSpoken_cons.2 ⟨hnameWord, allSpoken_cons.2 ⟨spoken_type _, ?_⟩⟩
  refine allSpoken_append.2 ⟨?_, allSpoken_append.2 ⟨allSpoken_wordIf (by decide), hreferences⟩⟩
  rw [primaryKeyWords]
  split
  · exact allSpoken_cons.2 ⟨spoken_keyword (by decide),
      allSpoken_cons.2 ⟨spoken_keyword (by decide), allSpoken_nil⟩⟩
  · exact allSpoken_nil

end

/-! ## Statements are rendered -/

section

variable {words : List Word} {α : Type}

theorem IsColumnName.renders {name : String} (h : IsColumnName words name) (hwords : AllSpoken words) :
    Renders IsColumnName name [.name name] := by
  obtain ⟨name⟩ := h
  exact ⟨.mk name, hwords⟩

theorem IsValue.renders {value : Value} (h : IsValue words value) (hwords : AllSpoken words)
    (hsafe : value.IsSafe) : Renders IsValue value [value.word] := by
  obtain ⟨h⟩ := h
  obtain ⟨hliteral, hspoken⟩ := renders_literal h (allSpoken_cons.1 hwords).1 hsafe
  exact ⟨.mk hliteral, allSpoken_cons.2 ⟨hspoken, allSpoken_nil⟩⟩

theorem IsAssignment.renders {item : Assignment} (h : IsAssignment words item) (hwords : AllSpoken words)
    (hsafe : item.value.IsSafe) : Renders IsAssignment item item.words := by
  obtain ⟨column, h⟩ := h
  obtain ⟨hname, hwords⟩ := allSpoken_cons.1 hwords
  obtain ⟨hequals, hword⟩ := allSpoken_cons.1 hwords
  obtain ⟨hliteral, hspoken⟩ := renders_literal h (allSpoken_cons.1 hword).1 hsafe
  exact ⟨.mk column hliteral, allSpoken_cons.2 ⟨hname, allSpoken_cons.2 ⟨hequals,
    allSpoken_cons.2 ⟨hspoken, allSpoken_nil⟩⟩⟩⟩

theorem renders_enclosed {item : List Word → α → Prop} {items : List α} {render : α → List Word}
    (h : InParentheses (Listed item) words items) (hwords : AllSpoken words)
    (hitem : ∀ words a, a ∈ items → item words a → AllSpoken words → Renders item a (render a)) :
    Renders (InParentheses (Listed item)) items (enclosed (items.map render)) := by
  obtain ⟨h⟩ := h
  obtain ⟨hopening, hwords⟩ := allSpoken_cons.1 hwords
  obtain ⟨hwords, hclosing⟩ := allSpoken_append.1 hwords
  obtain ⟨hstands, hspoken⟩ := h.renders hwords hitem
  exact ⟨.mk hstands, allSpoken_cons.2 ⟨hopening, allSpoken_append.2 ⟨hspoken, hclosing⟩⟩⟩

theorem renders_filter? {filter : Option Expr} (h : Optionally IsFilter words filter)
    (hwords : AllSpoken words) (hsafe : ∀ e ∈ filter.toList, ∀ value ∈ e.literals, value.IsSafe) :
    Renders (Optionally IsFilter) filter (wordsOf? (conditionWords "WHERE") filter) :=
  h.renders hwords fun _ e he h hwords => h.renders hwords (hsafe e (Option.mem_toList.2 he))

theorem IsSelect.renders {query : Select} (h : IsSelect words query) (hwords : AllSpoken words)
    (hsafe : ∀ e ∈ query.conditions, ∀ value ∈ e.literals, value.IsSafe) :
    Renders IsSelect query query.words := by
  obtain ⟨hprojections, hjoin, hfilter, hgroupBy, hhaving, horderBy, hpaging⟩ := h
  obtain ⟨hsafeJoin, hsafe⟩ := List.forall_mem_append.1 hsafe
  obtain ⟨hsafeFilter, hsafeHaving⟩ := List.forall_mem_append.1 hsafe
  obtain ⟨hdistinct, hwords⟩ := allSpoken_append.1 hwords
  obtain ⟨hprojectionWords, hwords⟩ := allSpoken_append.1 hwords
  obtain ⟨hfrom, hwords⟩ := allSpoken_cons.1 hwords
  obtain ⟨htable, hwords⟩ := allSpoken_cons.1 hwords
  obtain ⟨hjoinWords, hwords⟩ := allSpoken_append.1 hwords
  obtain ⟨hfilterWords, hwords⟩ := allSpoken_append.1 hwords
  obtain ⟨hgroupWords, hwords⟩ := allSpoken_append.1 hwords
  obtain ⟨hhavingWords, hwords⟩ := allSpoken_append.1 hwords
  obtain ⟨horderWords, hpagingWords⟩ := allSpoken_append.1 hwords
  have hprojections := hprojections.renders hprojectionWords fun _ _ _ h => h.renders
  have hjoin : Renders (Optionally IsJoin) query.join (wordsOf? Join.words query.join) :=
    hjoin.renders hjoinWords fun _ join heq h hwords => h.renders hwords
      (hsafeJoin join.on (Option.mem_toList.2 (Option.mem_map_of_mem Join.on heq)))
  have hfilter := renders_filter? hfilter hfilterWords hsafeFilter
  have hgroupBy := hgroupBy.renders hgroupWords
  have hhaving : Renders (Optionally IsHaving) query.having
      (wordsOf? (conditionWords "HAVING") query.having) :=
    hhaving.renders hhavingWords fun _ e heq h hwords =>
      h.renders hwords (hsafeHaving e (Option.mem_toList.2 heq))
  have horderBy := horderBy.renders horderWords
  have hpaging := hpaging.renders hpagingWords
  refine ⟨.mk hprojections.stands hjoin.stands hfilter.stands hgroupBy.stands hhaving.stands
    horderBy.stands hpaging.stands, ?_⟩
  refine allSpoken_append.2 ⟨hdistinct, allSpoken_append.2 ⟨hprojections.spoken, ?_⟩⟩
  refine allSpoken_cons.2 ⟨hfrom, allSpoken_cons.2 ⟨htable, allSpoken_append.2 ⟨hjoin.spoken, ?_⟩⟩⟩
  refine allSpoken_append.2 ⟨hfilter.spoken, allSpoken_append.2 ⟨hgroupBy.spoken, ?_⟩⟩
  exact allSpoken_append.2 ⟨hhaving.spoken, allSpoken_append.2 ⟨horderBy.spoken, hpaging.spoken⟩⟩

/-- The words of a statement that stands somewhere stand for it. -/
theorem IsStatement.renders {S : Statement} (h : IsStatement words S) (hwords : AllSpoken words)
    (hsafe : ∀ value ∈ S.literals, value.IsSafe) : Renders IsStatement S S.words := by
  cases h with
  | createDatabase h => exact ⟨.createDatabase h, hwords⟩
  | createTable hname hcolumns =>
    obtain ⟨hcreate, hwords⟩ := allSpoken_cons.1 hwords
    obtain ⟨htable, hwords⟩ := allSpoken_cons.1 hwords
    obtain ⟨hnameWord, hwords⟩ := allSpoken_cons.1 hwords
    obtain ⟨hstands, hspoken⟩ := renders_enclosed hcolumns hwords fun _ _ _ h => h.renders
    exact ⟨.createTable hname hstands, allSpoken_cons.2 ⟨hcreate, allSpoken_cons.2 ⟨htable,
      allSpoken_cons.2 ⟨hnameWord, hspoken⟩⟩⟩⟩
  | dropDatabase name => exact ⟨.dropDatabase name, hwords⟩
  | dropTable name => exact ⟨.dropTable name, hwords⟩
  | useDatabase name => exact ⟨.useDatabase name, hwords⟩
  | showDatabases => exact ⟨.showDatabases, hwords⟩
  | showTables => exact ⟨.showTables, hwords⟩
  | describe table => exact ⟨.describe table, hwords⟩
  | insert table hcolumns hvalues =>
    obtain ⟨hinsert, hwords⟩ := allSpoken_cons.1 hwords
    obtain ⟨hinto, hwords⟩ := allSpoken_cons.1 hwords
    obtain ⟨hname, hwords⟩ := allSpoken_cons.1 hwords
    obtain ⟨hcolumnWords, hwords⟩ := allSpoken_append.1 hwords
    obtain ⟨hword, hvalueWords⟩ := allSpoken_cons.1 hwords
    obtain ⟨hstandsColumns, hspokenColumns⟩ := hcolumns.renders hcolumnWords fun _ _ _ h hwords =>
      renders_enclosed h hwords fun _ _ _ h => h.renders
    obtain ⟨hstandsValues, hspokenValues⟩ := renders_enclosed hvalues hvalueWords
      fun _ value hvalue h hwords => h.renders hwords (hsafe value hvalue)
    exact ⟨.insert table hstandsColumns hstandsValues, allSpoken_cons.2 ⟨hinsert,
      allSpoken_cons.2 ⟨hinto, allSpoken_cons.2 ⟨hname, allSpoken_append.2 ⟨hspokenColumns,
        allSpoken_cons.2 ⟨hword, hspokenValues⟩⟩⟩⟩⟩⟩
  | update table hassignments hfilter =>
    obtain ⟨hsafeItems, hsafeFilter⟩ := List.forall_mem_append.1 hsafe
    obtain ⟨hupdate, hwords⟩ := allSpoken_cons.1 hwords
    obtain ⟨hname, hwords⟩ := allSpoken_cons.1 hwords
    obtain ⟨hset, hwords⟩ := allSpoken_cons.1 hwords
    obtain ⟨hitemWords, hfilterWords⟩ := allSpoken_append.1 hwords
    obtain ⟨hstandsItems, hspokenItems⟩ := hassignments.renders hitemWords
      fun _ item hitem h hwords => h.renders hwords (hsafeItems _ (List.mem_map_of_mem hitem))
    obtain ⟨hstandsFilter, hspokenFilter⟩ :=
      renders_filter? hfilter hfilterWords (List.forall_mem_flatMap.1 hsafeFilter)
    exact ⟨.update table hstandsItems hstandsFilter, allSpoken_cons.2 ⟨hupdate,
      allSpoken_cons.2 ⟨hname, allSpoken_cons.2 ⟨hset,
        allSpoken_append.2 ⟨hspokenItems, hspokenFilter⟩⟩⟩⟩⟩
  | delete table hfilter =>
    obtain ⟨hdelete, hwords⟩ := allSpoken_cons.1 hwords
    obtain ⟨hfrom, hwords⟩ := allSpoken_cons.1 hwords
    obtain ⟨hname, hwords⟩ := allSpoken_cons.1 hwords
    obtain ⟨hstands, hspoken⟩ := renders_filter? hfilter hwords (List.forall_mem_flatMap.1 hsafe)
    exact ⟨.delete table hstands, allSpoken_cons.2 ⟨hdelete, allSpoken_cons.2 ⟨hfrom,
      allSpoken_cons.2 ⟨hname, hspoken⟩⟩⟩⟩
  | select h =>
    obtain ⟨hselect, hwords⟩ := allSpoken_cons.1 hwords
    obtain ⟨hstands, hspoken⟩ := h.renders hwords (List.forall_mem_flatMap.1 hsafe)
    exact ⟨.select hstands, allSpoken_cons.2 ⟨hselect, hspoken⟩⟩

end

/-- What words of texts can stand for is read from its own text. -/
theorem Statement.Stated.reads {S : Statement} (h : S.Stated) (hsafe : ∀ value ∈ S.literals, value.IsSafe) :
    parse (render S) = .ok S := by
  obtain ⟨words, hwords, hstatement⟩ := h
  obtain ⟨hstands, hspoken⟩ := hstatement.renders hwords hsafe
  obtain ⟨tokens, hrender, hmap⟩ := tokenize_spell hspoken
  exact parse_of_isStatement hrender hmap hstands

/-- **A statement that was read from a text is read from its own text**, as long as its numbers
are safe integers. -/
theorem parse_render {sql : String} {S : Statement} (h : parse sql = .ok S)
    (hsafe : ∀ value ∈ S.literals, value.IsSafe) : parse (render S) = .ok S :=
  (stated_of_parse h).reads hsafe

/-- A deletion with a quote in a text, a number and a compound condition inside another. -/
def deletionText : String := "DELETE FROM people WHERE NOT (nick = 'O''Neil' OR age < 18)"

def deletion : Statement :=
  .delete "people" (some (.not (.or
    (.comparison .eq (.column ⟨none, "nick"⟩) (.literal (Value.ofText "O'Neil")))
    (.comparison .lt (.column ⟨none, "age"⟩)
      (.literal (some (.number (Word.number ⟨.number, "18"⟩))))))))

theorem parse_render_deletion : parse deletionText = .ok deletion ∧
    (∀ value ∈ deletion.literals, value.IsSafe) ∧ parse (render deletion) = .ok deletion := by
  have hsafe : (Word.number ⟨.number, "18"⟩).isSafeInteger = true := by decide +kernel
  have htest (name : String) (op : CompareOp) {word : Word} {value : Value} (h : IsLiteral word value) :
      Derives .filter .negation [.name name, op.word, word]
        (.comparison op (.column ⟨none, name⟩) (.literal value)) :=
    .predicate (.test (.column (.alone name)) (.comparison op (.literal h)))
  have hfilter := IsFilter.mk (.conjunct (.negation (.not (.predicate (.parentheses (.or
    (.conjunct (.negation (htest "nick" .eq (.text "O'Neil"))))
    (.negation (htest "age" .lt (.number "18" fun _ => .inr hsafe)))))))))
  obtain ⟨tokens, htokens, hwords⟩ : ∃ tokens, tokenize deletionText = .ok tokens ∧
      tokens.map Token.word = [.keyword "DELETE", .keyword "FROM", .name "people",
        .keyword "WHERE", .keyword "NOT", .sign .lparen, .name "nick", .sign .equals,
        .quoted "O'Neil", .keyword "OR", .name "age", ⟨.comparison, "<"⟩, ⟨.number, "18"⟩,
        .sign .rparen] ++ [.last] := ⟨_, by cbv, rfl⟩
  have hparse : parse deletionText = .ok deletion :=
    parse_of_isStatement htokens hwords (.delete "people" (.present hfilter))
  have hliterals : ∀ value ∈ deletion.literals, value.IsSafe :=
    List.forall_mem_cons.2 ⟨trivial, List.forall_mem_singleton.2 hsafe⟩
  exact ⟨hparse, hliterals, parse_render hparse hliterals⟩

end RelStore.Sql
