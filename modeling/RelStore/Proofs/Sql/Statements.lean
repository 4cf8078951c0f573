/-
The reader of statements is a reader of the grammar.

What it takes of a text stands for the statement that it gives (`takes_statement`), and words that
stand for a statement are read as it (`reads_statement`): so a text is a statement exactly if the
grammar says so (`isStatement_of_parse`, `parse_of_isStatement`). Each clause ends where the next
one may start, so that a clause that is missing is told by the first word after it (`StartIn`).
-/
import RelStore.Proofs.Sql.Conditions

namespace RelStore.Sql

/-! ## Where clauses start and end -/

/-- The words that may follow a statement. -/
def statementEnds : List Word := [.last, .sign .semicolon]

/-- The words that may come after each clause of a SELECT statement. -/
def orderEnds : List Word := .keyword "LIMIT" :: .keyword "OFFSET" :: statementEnds

def havingEnds : List Word := .keyword "ORDER" :: orderEnds

def groupEnds : List Word := .keyword "HAVING" :: havingEnds

def filterEnds : List Word := .keyword "GROUP" :: groupEnds

def joinEnds : List Word := .keyword "WHERE" :: filterEnds

/-- The words that may come after each item of a SELECT list. -/
def projectionEnds : List Word := [.sign .comma, .keyword "FROM"]

section

variable {words : List Word}

/-- The words of a part that may be missing: the first of them is one of these. -/
def StartIn (starts words : List Word) : Prop := ∀ word ∈ words.head?, word ∈ starts

theorem StartIn.followed {starts more : List Word} {P : Word → Prop} (h : StartIn starts words)
    (hstarts : ∀ word ∈ starts, P word) (hmore : Followed P more) : Followed P (words ++ more) := by
  cases words with
  | nil => exact hmore
  | cons word _ => exact hstarts word (h word rfl)

theorem Optionally.startIn {α : Type} {item : List Word → α → Prop} {a? : Option α}
    {starts : List Word} (h : Optionally item words a?)
    (hitem : ∀ words a, item words a → StartIn starts words) : StartIn starts words := by
  cases h with
  | absent => exact nofun
  | present h => exact hitem _ _ h

theorem IsPaging.startIn {clause : PagingClause} {number : Binary64} (h : IsPaging clause words number) :
    StartIn [.keyword clause.name] words := by
  obtain ⟨numeral, _⟩ := h
  rintro _ ⟨⟩
  exact List.mem_singleton_self _

theorem IsFilter.startIn {e : Expr} (h : IsFilter words e) : StartIn joinEnds words := by
  obtain ⟨_⟩ := h
  rintro _ ⟨⟩
  decide

theorem IsHaving.startIn {e : Expr} (h : IsHaving words e) : StartIn groupEnds words := by
  obtain ⟨_⟩ := h
  rintro _ ⟨⟩
  decide

theorem IsGroupBy.startIn {refs : List ColumnRef} (h : IsGroupBy words refs) :
    StartIn filterEnds words := by
  cases h with
  | absent => exact nofun
  | present _ =>
    rintro _ ⟨⟩
    decide

theorem IsOrderBy.startIn {items : List OrderItem} (h : IsOrderBy words items) :
    StartIn havingEnds words := by
  cases h with
  | absent => exact nofun
  | present _ =>
    rintro _ ⟨⟩
    decide

theorem ArePaging.startIn {paging : Option Binary64 × Option Binary64} (h : ArePaging words paging) :
    StartIn orderEnds words := by
  cases h with
  | absent => exact nofun
  | limit hlimit _ =>
    obtain ⟨numeral, _⟩ := hlimit
    rintro _ ⟨⟩
    decide
  | offset hoffset _ =>
    obtain ⟨numeral, _⟩ := hoffset
    rintro _ ⟨⟩
    decide

theorem IsJoin.startIn {join : Join} (h : IsJoin words join) :
    StartIn (.keyword "INNER" :: .keyword "JOIN" :: joinEnds) words := by
  obtain ⟨inner, _, _⟩ := h
  cases inner <;> rintro _ ⟨⟩ <;> decide

/-- Neither an alias nor what comes after an item goes on with its column. -/
theorem Optionally.follows_alias {name? : Option String} {more : List Word}
    (h : Optionally IsAlias words name?) (hmore : Followed (· ∈ projectionEnds) more) :
    Followed AfterOperand (words ++ more) := by
  cases h with
  | absent => exact Followed.mono (fun word hword =>
      (show ∀ word ∈ projectionEnds, word.kind ≠ .dot ∧ word.kind ≠ .lparen by decide) word hword) _ hmore
  | present h =>
    obtain ⟨name⟩ := h
    exact ⟨by nofun, by nofun⟩

/-- A SELECT list starts with no keyword. -/
theorem IsProjection.starts {projection : Projection} (h : IsProjection words projection) :
    ∃ first others, words = first :: others ∧ first.kind ≠ .keyword := by
  cases h with
  | star => exact ⟨_, _, rfl, by nofun⟩
  | column hcolumn _ =>
    obtain ⟨name, others, rfl⟩ := hcolumn.starts
    exact ⟨_, _, rfl, by nofun⟩
  | aggregate hcall _ =>
    obtain ⟨name, others, rfl, _⟩ := hcall.starts
    exact ⟨_, _, rfl, by nofun⟩

theorem Listed.starts {projections : List Projection} (h : Listed IsProjection words projections) :
    ∃ first others, words = first :: others ∧ first.kind ≠ .keyword := by
  cases h with
  | one h => exact h.starts
  | more h _ =>
    obtain ⟨first, others, rfl, hfirst⟩ := h.starts
    exact ⟨first, _, rfl, hfirst⟩

end

namespace Parse

variable {before : List Word}

/-! ## What is taken for definitions -/

theorem Takes.lifted (check : Except Cause Unit) : Takes before (liftM check : Parse Unit)
    fun words _ mid => words = [] ∧ mid = before ∧ check = .ok () := by
  intro tokens _ rest _ hbefore hrun
  obtain ⟨_, hcheck, hrun⟩ := bind_eq_ok.1 hrun
  obtain ⟨-, rfl⟩ := Prod.mk.inj (pure_eq_ok.1 hrun)
  exact ⟨[], rfl, nofun, rfl, hbefore, hcheck⟩

theorem takes_newName (kind : NameKind) : Takes before (newName kind) fun words name _ =>
    words = [.name name] ∧ checkName kind name = .ok () := by
  refine (takes_name _).bind fun words name mid hname => ?_
  refine (Takes.lifted _).bind fun words _ mid hcheck => .pure ?_
  exact ⟨by rw [hname, hcheck.1]; rfl, hcheck.2.2⟩

theorem isType_of_typeOfWord? {name : String} {type : DataType} (h : typeOfWord? name = some type) :
    IsType name type := by
  rw [typeOfWord?.eq_def] at h
  split at h <;> cases h <;> constructor

theorem takes_dataType : Takes before dataType fun words type _ =>
    ∃ name, words = [.keyword name] ∧ IsType name type := by
  refine takes_peek.bind fun words token mid h => ?_
  obtain ⟨rfl, hfirst, rfl⟩ := h
  split
  next type htype =>
    split at htype
    next hkind =>
      have hword : token.word = .keyword token.lexeme := congrArg (Word.mk · _) hkind
      refine (takes_advance (by rw [← hfirst, hword]; nofun)).bind fun words _ _ hwords => .pure ?_
      exact ⟨token.lexeme, by simp [hwords.1, ← hfirst, hword], isType_of_typeOfWord? htype⟩
    next => cases htype
  next => exact .fails _

theorem takes_columnProperties (bound : Nat) (column : Column) :
    Takes before (columnProperties bound column) fun words made _ =>
      AreProperties column words made := by
  induction bound generalizing before column with
  | zero => exact .pure (.none column)
  | succ bound ih =>
    refine takes_ifWord (fun mid => ?_) fun _ => takes_ifWord (fun mid => ?_) fun _ =>
      takes_ifWord (fun mid => ?_) fun _ => .pure (.none column)
    · refine (takes_expectWordAs "KEY" _).bind fun words _ mid hkey => ?_
      subst hkey
      exact (ih _).mono fun _ _ _ => .primaryKey
    · exact (ih _).mono fun _ _ _ => .unique
    · refine (takes_name _).bind fun words table mid htable => ?_
      refine (takes_sign (isSign (by decide)) _).bind fun words _ mid hopening => ?_
      refine (takes_name _).bind fun words target mid htarget => ?_
      refine (takes_sign (isSign (by decide)) _).bind fun words _ mid hclosing => ?_
      subst htable hopening htarget hclosing
      exact (ih _).mono fun _ _ _ => .references table target

theorem takes_columnDefinition :
    Takes before columnDefinition fun words column _ => IsDefinition words column := by
  refine (takes_newName .column).bind fun words name mid hname => ?_
  refine takes_dataType.bind fun words type mid htype => .get fun tokens => ?_
  obtain ⟨rfl, hcheck⟩ := hname
  obtain ⟨typeName, rfl, htype⟩ := htype
  exact (takes_columnProperties _ _).mono fun _ _ _ => .mk hcheck htype

/-- Items in parentheses, and what is read after them. -/
theorem takes_inParentheses {α β : Type} {item : Parse α} {fact : List Word → α → Prop}
    {f : List α → Parse β} {final : List Word → β → List Word → Prop} (opening closing : String)
    (hitem : ∀ before, Takes before item fun words a _ => fact words a)
    (hf : ∀ words items mid, InParentheses (Listed fact) words items →
      Takes mid (f items) fun others => final (words ++ others)) :
    Takes before (do
      let _ ← expectAs .lparen opening
      let items ← commaList item
      let _ ← expectAs .rparen closing
      f items) final := by
  refine (takes_sign (isSign (by decide)) _).bind fun words _ mid hopening => ?_
  refine (takes_commaList hitem).bind fun words items mid hitems => ?_
  refine (takes_sign (isSign (by decide)) _).bind fun words _ mid hclosing => ?_
  subst hopening hclosing
  refine (hf _ items mid (.mk hitems)).mono fun _ _ _ h => ?_
  simpa using h

/-! ## What is taken for clauses -/

theorem takes_filter? :
    Takes before filter? fun words filter _ => Optionally IsFilter words filter := by
  refine takes_ifWord (fun mid => ?_) fun _ => .pure .absent
  exact takes_expr.gives fun _ _ _ he => .present (.mk he)

theorem takes_having? :
    Takes before having? fun words having _ => Optionally IsHaving words having := by
  refine takes_ifWord (fun mid => ?_) fun _ => .pure .absent
  exact takes_expr.gives fun _ _ _ he => .present (.mk he)

theorem takes_join? : Takes before join? fun words join _ => Optionally IsJoin words join := by
  refine (takes_atWord "INNER").bind fun words _ mid hinner => ?_
  refine (takes_atWord "JOIN").bind fun words _ mid hjoin => ?_
  obtain ⟨rfl, rfl, -⟩ := hinner
  obtain ⟨rfl, rfl, -⟩ := hjoin
  refine .ite (fun _ => ?_) fun _ => .pure .absent
  refine (takes_acceptWord "INNER").bind fun words inner mid hinner => ?_
  refine (takes_expectWordAs "JOIN" _).bind fun words _ mid hjoin => ?_
  refine (takes_name _).bind fun words table mid htable => ?_
  refine (takes_expectWordAs "ON" _).bind fun words _ mid hon => ?_
  obtain ⟨rfl, -⟩ := hinner
  subst hjoin htable hon
  exact takes_expr.gives fun _ _ _ he => .present (.mk inner table he)

theorem takes_alias? : Takes before alias? fun words name? _ => Optionally IsAlias words name? := by
  refine takes_ifWord (fun mid => ?_) fun _ => .pure .absent
  refine (takes_name _).gives fun words name mid hname => ?_
  subst hname
  exact .present (.mk name)

theorem takes_projection :
    Takes before projection fun words projection _ => IsProjection words projection := by
  refine takes_ifSign (isSign (by decide)) (fun mid => .pure .star) fun mid => ?_
  refine takes_aggregateAhead?.bind fun words fn? mid hfn => ?_
  obtain ⟨rfl, rfl, hname⟩ := hfn
  cases fn? with
  | some fn =>
    obtain ⟨name, hfirst, hfunction⟩ := hname fn rfl
    refine (takes_aggregateCall hfunction hfirst).bind fun words call mid hcall => ?_
    exact takes_alias?.gives fun others name? mid => .aggregate hcall
  | none =>
    refine (takes_atKind .identifier).bind fun words _ mid hidentifier => ?_
    obtain ⟨rfl, rfl, -⟩ := hidentifier
    refine .ite (fun _ => ?_) fun _ => .fails _
    refine takes_columnRef.bind fun words ref mid href => ?_
    exact takes_alias?.gives fun others name? mid => .column href

theorem takes_groupBy : Takes before groupBy fun words refs _ => IsGroupBy words refs := by
  refine takes_ifWord (fun mid => ?_) fun _ => .pure .absent
  refine (takes_expectWordAs "BY" _).bind fun words _ mid hby => ?_
  subst hby
  exact (takes_commaList fun _ => takes_columnRef).mono fun _ _ _ => .present

theorem takes_orderItem : Takes before orderItem fun words item _ => IsOrderItem words item := by
  have hdirection {key : OrderKey} {words mid : List Word} (h : IsOrderKey words key) :
      Takes mid (do
        if ← acceptWord "DESC" then return ⟨key, .desc⟩
        let _ ← acceptWord "ASC"
        return ⟨key, .asc⟩) fun others item _ => IsOrderItem (words ++ others) item := by
    refine takes_ifWord (fun mid => .pure (.desc h)) fun _ => ?_
    refine (takes_acceptWord "ASC").gives fun words named mid hnamed => ?_
    obtain ⟨rfl, -⟩ := hnamed
    exact .asc h named
  refine takes_aggregateAhead?.bind fun words fn? mid hfn => ?_
  obtain ⟨rfl, rfl, hname⟩ := hfn
  cases fn? with
  | some fn =>
    obtain ⟨name, hfirst, hfunction⟩ := hname fn rfl
    have hkey : Takes mid (OrderKey.aggregate <$> aggregateCall fn) fun words key _ =>
        IsOrderKey words key :=
      (takes_aggregateCall hfunction hfirst).gives fun _ _ _ => .aggregate
    exact hkey.bind fun words key mid h => hdirection h
  | none =>
    have hkey : Takes mid (OrderKey.column <$> columnRef) fun words key _ => IsOrderKey words key :=
      takes_columnRef.gives fun _ _ _ => .column
    exact hkey.bind fun words key mid h => hdirection h

theorem takes_orderBy : Takes before orderBy fun words items _ => IsOrderBy words items := by
  refine takes_ifWord (fun mid => ?_) fun _ => .pure .absent
  refine (takes_expectWordAs "BY" _).bind fun words _ mid hby => ?_
  subst hby
  exact (takes_commaList fun _ => takes_orderItem).mono fun _ _ _ => .present

theorem takes_paging? (clause : PagingClause) : Takes before (paging? clause) fun words number? _ =>
    Optionally (IsPaging clause) words number? := by
  refine takes_ifWord (fun mid => ?_) fun _ => .pure .absent
  refine (takes_expectAs (by nofun) _).bind fun words token mid htoken => ?_
  refine (Takes.lifted _).bind fun words _ mid hcheck => .pure ?_
  obtain ⟨rfl, hkind⟩ := htoken
  obtain ⟨rfl, rfl, hcheck⟩ := hcheck
  rw [show token.word = ⟨.number, token.lexeme⟩ from congrArg (Word.mk · _) hkind]
  exact .present (.mk token.lexeme hcheck)

theorem takes_limitAndOffset :
    Takes before limitAndOffset fun words paging _ => ArePaging words paging := by
  refine (takes_paging? .limit).bind fun words limit mid hlimit => ?_
  cases hlimit with
  | present hlimit =>
    exact (takes_paging? .offset).gives fun _ _ _ => .limit hlimit
  | absent =>
    refine (takes_paging? .offset).bind fun words offset mid hoffset => ?_
    cases hoffset with
    | present hoffset =>
      exact (takes_paging? .limit).gives fun _ _ _ => .offset hoffset
    | absent => exact .pure .absent

/-! ## What is taken for statements -/

theorem takes_selectStatement : Takes before selectStatement fun words statement _ =>
    ∃ query, statement = .select query ∧ IsSelect words query := by
  refine (takes_acceptWord "DISTINCT").bind fun words distinct mid hdistinct => ?_
  refine (takes_commaList fun _ => takes_projection).bind fun words projections mid hprojections => ?_
  refine (takes_expectWordAs "FROM" _).bind fun words _ mid hfrom => ?_
  refine (takes_name _).bind fun words table mid htable => ?_
  refine takes_join?.bind fun words join mid hjoin => ?_
  refine takes_filter?.bind fun words filter mid hfilter => ?_
  refine takes_groupBy.bind fun words groupBy mid hgroupBy => ?_
  refine takes_having?.bind fun words having mid hhaving => ?_
  refine takes_orderBy.bind fun words orderBy mid horderBy => ?_
  refine takes_limitAndOffset.gives fun words paging mid hpaging => ⟨_, rfl, ?_⟩
  obtain ⟨rfl, -⟩ := hdistinct
  subst hfrom htable
  simp only [List.cons_append, List.nil_append]
  exact @IsSelect.mk _ _ _ _ _ _ _ ⟨distinct, projections, table, join, filter, groupBy, having,
    orderBy, paging.1, paging.2⟩ hprojections hjoin hfilter hgroupBy hhaving horderBy hpaging

theorem takes_createStatement :
    Takes before createStatement fun words statement _ => IsStatement (.keyword "CREATE" :: words) statement := by
  refine takes_ifWord (fun mid => ?_) fun _ => ?_
  · refine (takes_newName .database).gives fun words name mid hname => ?_
    obtain ⟨rfl, hcheck⟩ := hname
    exact .createDatabase hcheck
  · refine (takes_expectWordAs "TABLE" _).bind fun words _ mid htable => ?_
    refine (takes_newName .table).bind fun words name mid hname => ?_
    obtain ⟨rfl, hcheck⟩ := hname
    subst htable
    exact takes_inParentheses _ _ (fun _ => takes_columnDefinition) fun words columns mid hcolumns =>
      .pure (by simpa using IsStatement.createTable hcheck hcolumns)

theorem takes_dropStatement :
    Takes before dropStatement fun words statement _ => IsStatement (.keyword "DROP" :: words) statement := by
  refine takes_ifWord (fun mid => ?_) fun _ => ?_
  · refine (takes_name _).gives fun words name mid hname => ?_
    subst hname
    exact .dropDatabase name
  · refine (takes_expectWordAs "TABLE" _).bind fun words _ mid htable => ?_
    refine (takes_name _).gives fun words name mid hname => ?_
    subst htable hname
    exact .dropTable name

theorem takes_showStatement :
    Takes before showStatement fun words statement _ => IsStatement (.keyword "SHOW" :: words) statement := by
  refine takes_ifWord (fun mid => .pure .showDatabases) fun _ => ?_
  refine (takes_expectWordAs "TABLES" _).gives fun words _ mid htables => ?_
  subst htables
  exact .showTables

theorem takes_literal : Takes before literal fun words value _ => IsValue words value := by
  refine takes_literal?.bind fun words value? mid hvalue => ?_
  cases value? with
  | some value =>
    obtain ⟨word, rfl, hliteral⟩ := hvalue.1 value rfl
    exact .pure (.mk hliteral)
  | none => exact .fails _

theorem takes_insertStatement :
    Takes before insertStatement fun words statement _ => IsStatement (.keyword "INSERT" :: words) statement := by
  refine (takes_expectWordAs "INTO" _).bind fun words _ mid hinto => ?_
  refine (takes_name _).bind fun words table mid htable => ?_
  subst hinto htable
  have hvalues {mid words : List Word} {columns : Option (List String)}
      (hcolumns : Optionally (InParentheses (Listed IsColumnName)) words columns) : Takes mid (do
        expectWord "VALUES"
        let _ ← expect .lparen
        let values ← commaList literal
        let _ ← expectAs .rparen "',' or ')'"
        return Statement.insert table columns values) fun others statement _ =>
      IsStatement (.keyword "INSERT" :: .keyword "INTO" :: .name table :: (words ++ others)) statement := by
    refine (takes_expectWordAs "VALUES" _).bind fun words _ mid hword => ?_
    subst hword
    exact takes_inParentheses _ _ (fun _ => takes_literal) fun others values mid hvalues =>
      .pure (by simpa using IsStatement.insert table hcolumns hvalues)
  refine takes_ifSign (isSign (by decide)) (fun mid => ?_) fun mid => hvalues .absent
  have hname (mid : List Word) : Takes mid (name "column name") fun words s _ => IsColumnName words s :=
    (takes_name _).mono fun words s _ h => h ▸ .mk s
  refine (takes_commaList hname).bind fun words names mid hnames => ?_
  refine (takes_sign (isSign (by decide)) _).bind fun words _ mid hclosing => ?_
  subst hclosing
  exact (hvalues (.present (.mk hnames))).mono fun _ _ _ h => by simpa using h

theorem takes_assignment : Takes before assignment fun words item _ => IsAssignment words item := by
  refine (takes_name _).bind fun words column mid hcolumn => ?_
  refine (takes_sign (isSign (by decide)) _).bind fun words _ mid hequals => ?_
  refine takes_literal.gives fun words value mid hvalue => ?_
  subst hcolumn hequals
  obtain ⟨hliteral⟩ := hvalue
  exact .mk column hliteral

theorem takes_updateStatement :
    Takes before updateStatement fun words statement _ => IsStatement (.keyword "UPDATE" :: words) statement := by
  refine (takes_name _).bind fun words table mid htable => ?_
  refine (takes_expectWordAs "SET" _).bind fun words _ mid hset => ?_
  refine (takes_commaList fun _ => takes_assignment).bind fun words assignments mid hassignments => ?_
  subst htable hset
  exact takes_filter?.gives fun _ _ _ => .update table hassignments

theorem takes_deleteStatement :
    Takes before deleteStatement fun words statement _ => IsStatement (.keyword "DELETE" :: words) statement := by
  refine (takes_expectWordAs "FROM" _).bind fun words _ mid hfrom => ?_
  refine (takes_name _).bind fun words table mid htable => ?_
  subst hfrom htable
  exact takes_filter?.gives fun _ _ _ => .delete table

theorem takes_statement :
    Takes before statement fun words statement _ => IsStatement words statement := by
  refine takes_ifWord (fun mid => takes_createStatement) fun _ => ?_
  refine takes_ifWord (fun mid => takes_dropStatement) fun _ => ?_
  refine takes_ifWord (fun mid => ?_) fun _ => ?_
  · refine (takes_name _).gives fun words name mid hname => ?_
    subst hname
    exact .useDatabase name
  refine takes_ifWord (fun mid => takes_showStatement) fun _ => ?_
  refine takes_ifWord (fun mid => ?_) fun _ => ?_
  · refine (takes_name _).gives fun words name mid hname => ?_
    subst hname
    exact .describe name
  refine takes_ifWord (fun mid => takes_insertStatement) fun _ => ?_
  refine takes_ifWord (fun mid => ?_) fun _ => ?_
  · refine takes_selectStatement.mono fun words statement mid h => ?_
    obtain ⟨query, rfl, hquery⟩ := h
    exact .select hquery
  refine takes_ifWord (fun mid => takes_updateStatement) fun _ => ?_
  exact takes_ifWord (fun mid => takes_deleteStatement) fun _ => .fails _

theorem takes_oneStatement : Takes before oneStatement fun words statement _ =>
    ∃ stated ending, words = stated ++ ending ∧ IsStatement stated statement := by
  refine takes_statement.bind fun words read mid hread => ?_
  refine (takes_accept (isSign (by decide))).bind fun ending ended mid _ => ?_
  refine (takes_atKind .eof).bind fun none _ mid _ => .ite (fun _ => .pure ?_) fun _ => .fails _
  exact ⟨words, _, rfl, hread⟩

/-- Each of the statements is stated by some of the words. -/
def AreStated (words : List Word) (read : List Statement) : Prop :=
  ∀ statement ∈ read, ∃ stated ⊆ words, IsStatement stated statement

theorem AreStated.mono {words others : List Word} {read : List Statement} (h : AreStated words read)
    (hsub : words ⊆ others) : AreStated others read := by
  intro statement hmem
  obtain ⟨stated, hstated, hstatement⟩ := h statement hmem
  exact ⟨stated, List.Subset.trans hstated hsub, hstatement⟩

theorem takes_statements (bound : Nat) :
    Takes before (statements bound) fun words read _ => AreStated words read := by
  induction bound generalizing before with
  | zero => exact .pure (List.forall_mem_nil _)
  | succ bound ih =>
    refine (takes_atKind .eof).bind fun none _ mid _ => .ite (fun _ => .pure (List.forall_mem_nil _)) fun _ => ?_
    refine (takes_accept (isSign (by decide))).bind fun skipped _ mid _ => .ite (fun _ => ?_) fun _ => ?_
    · exact ih.mono fun words read _ hread => hread.mono (by simp)
    refine takes_statement.bind fun words first mid hfirst => ?_
    refine (takes_atKind .eof).bind fun _ _ mid _ => ?_
    extract_lets rest
    have hrest (before : List Word) : Takes before (rest ()) fun others read _ =>
        AreStated (words ++ others) read := by
      refine ih.bind fun others read mid hread => .pure (List.forall_mem_cons.2 ⟨?_, ?_⟩)
      · exact ⟨words, List.subset_append_left _ _, hfirst⟩
      · exact hread.mono (by simp)
    refine .ite (fun _ => (takes_sign (isSign (by decide)) _).bind fun ending _ mid _ => ?_) fun _ => ?_
    · refine (hrest mid).mono fun others read _ hread => hread.mono fun word hword => ?_
      simp only [List.mem_append] at hword ⊢
      tauto
    · refine (hrest mid).mono fun others read _ hread => hread.mono fun word hword => ?_
      simp only [List.mem_append] at hword ⊢
      tauto

/-! ## What is read as a definition -/

section

variable {words others : List Word} {follow : List Word → Prop}

theorem Reads.lifted {β : Type} {check : Except Cause Unit} {q : Parse β} {b : β}
    (hcheck : check = .ok ()) (h : Reads q words b follow) :
    Reads (liftM check >>= fun _ => q) words b follow := by
  intro tokens rest hwords hfollow
  subst hcheck
  exact h tokens rest hwords hfollow

theorem reads_newName {kind : NameKind} {s : String} (h : checkName kind s = .ok ()) :
    Reads (newName kind) [.name s] s follow :=
  (reads_name _ _).andThen (.lifted h .pure)

theorem typeOfWord?_of_isType {name : String} {type : DataType} (h : IsType name type) :
    typeOfWord? name = some type := by
  cases h <;> rfl

theorem reads_dataType {name : String} {type : DataType} (h : IsType name type) :
    Reads dataType [.keyword name] type follow := by
  refine .peek (P := (· = .keyword name)) (fun token htoken => ?_) fun _ _ => rfl
  obtain ⟨kind, lexeme, place⟩ := token
  obtain ⟨rfl, rfl⟩ := Word.mk.inj htoken
  simp only [if_true, typeOfWord?_of_isType h]
  exact .advance (by nofun) .pure

/-- The words that may follow the properties of a column. -/
def AfterProperties (word : Word) : Prop :=
  word ∉ [.keyword "PRIMARY", .keyword "UNIQUE", .keyword "REFERENCES"]

theorem reads_columnProperties {column made : Column} (h : AreProperties column words made)
    (bound : Nat) (hbound : words.length ≤ bound) :
    Reads (columnProperties bound column) words made (Followed AfterProperties) := by
  induction h generalizing bound with
  | none column =>
    have hother (word : String) (h : Word.keyword word ∈ [Word.keyword "PRIMARY", .keyword "UNIQUE",
        .keyword "REFERENCES"]) (more : List Word) (hmore : Followed AfterProperties more) :
        Followed (· ≠ .keyword word) more :=
      Followed.mono (fun next hnext heq => hnext (by rwa [heq])) more hmore
    cases bound with
    | zero => exact .pure
    | succ bound =>
      refine .unlessWord (hother _ (by decide)) ?_
      refine .unlessWord (hother _ (by decide)) ?_
      exact .unlessWord (hother _ (by decide)) .pure
  | primaryKey h ih =>
    obtain ⟨bound, rfl, hless⟩ := exists_of_length_cons_le hbound
    refine .ifWord ?_
    exact (reads_expectWordAs "KEY" _).andThen (ih bound (Nat.le_of_succ_le hless))
  | unique h ih =>
    obtain ⟨bound, rfl, hless⟩ := exists_of_length_cons_le hbound
    refine .unlessWord (fun _ _ => by nofun) ?_
    exact .ifWord (ih bound hless)
  | references table target h ih =>
    obtain ⟨bound, rfl, hless⟩ := exists_of_length_cons_le hbound
    simp only [List.length_cons] at hless
    refine .unlessWord (fun _ _ => by nofun) ?_
    refine .unlessWord (fun _ _ => by nofun) ?_
    refine .ifWord ?_
    refine (reads_name _ _).andThen (.sign (by nofun) ?_)
    exact (reads_name _ _).andThen (.sign (by nofun) (ih bound (by omega)))

theorem reads_columnDefinition {column : Column} (h : IsDefinition words column) :
    Reads columnDefinition words column (Followed AfterProperties) := by
  obtain ⟨hname, htype, hproperties⟩ := h
  refine (reads_newName hname).andThen ((reads_dataType htype).andThen (.get fun tokens htokens => ?_))
  exact reads_columnProperties hproperties _ htokens

/-- Items in parentheses, and what is read after them. -/
theorem reads_inParentheses {α β : Type} {item : Parse α} {fact : List Word → α → Prop}
    {after : Word → Prop} {f : List α → Parse β} {items : List α} {b : β} {opening closing : String}
    (h : ∀ words a, fact words a → Reads item words a (Followed after))
    (hcomma : after (.sign .comma)) (hclosing : after (.sign .rparen))
    (hitems : InParentheses (Listed fact) words items) (hf : Reads (f items) others b follow) :
    Reads (do
      let _ ← expectAs .lparen opening
      let items ← commaList item
      let _ ← expectAs .rparen closing
      f items) (words ++ others) b follow := by
  obtain ⟨hlisted⟩ := hitems
  rw [List.cons_append, List.append_assoc]
  exact .sign (by nofun) ((reads_commaList h hcomma hlisted).bind (.sign (by nofun) hf)
    fun _ _ => ⟨by nofun, hclosing⟩)

/-! ## What is read as a clause -/

/-- A condition is read up to words that end it. -/
theorem reads_condition {clause : Clause} {e : Expr} {ends : List Word}
    (h : Derives clause .expr words e) (hends : ∀ word ∈ ends, word ∈ conditionEnds) :
    Reads (expr clause) words e (Followed (· ∈ ends)) :=
  (reads_expr h).mono (Followed.mono fun word hword => afterExpr_of_mem (hends word hword))

theorem reads_filter? {filter : Option Expr} (h : Optionally IsFilter words filter) :
    Reads filter? words filter (Followed (· ∈ filterEnds)) := by
  cases h with
  | absent =>
    exact .unlessWord (Followed.mono (by decide)) .pure
  | present h =>
    obtain ⟨he⟩ := h
    exact .ifWord ((reads_condition he (by decide)).finish .pure fun _ h => h)

theorem reads_having? {having : Option Expr} (h : Optionally IsHaving words having) :
    Reads having? words having (Followed (· ∈ havingEnds)) := by
  cases h with
  | absent =>
    exact .unlessWord (Followed.mono (by decide)) .pure
  | present h =>
    obtain ⟨he⟩ := h
    exact .ifWord ((reads_condition he (by decide)).finish .pure fun _ h => h)

theorem reads_join? {join : Option Join} (h : Optionally IsJoin words join) :
    Reads join? words join (Followed (· ∈ joinEnds)) := by
  cases h with
  | absent =>
    have hends (word : String) (hother : ∀ next ∈ joinEnds, decide (next = .keyword word) = false)
        (more : List Word) (hmore : Followed (· ∈ joinEnds) more) :
        decide (Word.first more = .keyword word) = false := by
      cases more with
      | nil => exact absurd hmore id
      | cons next _ => exact hother next hmore
    refine (reads_atWord "INNER" false).after ?_ (hends "INNER" (by decide))
    exact (reads_atWord "JOIN" false).after (.ofNeg nofun .pure) (hends "JOIN" (by decide))
  | present h =>
    obtain ⟨inner, table, he⟩ := h
    refine (reads_atWord "INNER" inner).after ?_ fun _ _ => by cases inner <;> rfl
    refine (reads_atWord "JOIN" (!inner)).after (.ofPos (by cases inner <;> rfl) ?_)
      fun _ _ => by cases inner <;> rfl
    refine (reads_acceptWordIf "INNER" inner).bind ?_ fun _ _ => by nofun
    refine (reads_expectWordAs "JOIN" _).andThen ((reads_name _ _).andThen ?_)
    refine (reads_expectWordAs "ON" _).andThen ?_
    exact (reads_condition he (by decide)).finish .pure fun _ h => h

theorem reads_alias? {name? : Option String} (h : Optionally IsAlias words name?) :
    Reads alias? words name? (Followed (· ∈ projectionEnds)) := by
  cases h with
  | absent =>
    exact .unlessWord (Followed.mono (by decide)) .pure
  | present h =>
    obtain ⟨name⟩ := h
    exact .ifWord ((reads_name _ _).andThen .pure)

theorem reads_projection {projection : Projection} (h : IsProjection words projection) :
    Reads Parse.projection words projection (Followed (· ∈ projectionEnds)) := by
  cases h with
  | star => exact (reads_accept (by nofun) _).andThen (.ofPos rfl .pure)
  | column hcolumn hname =>
    obtain ⟨name, others, hstart⟩ := hcolumn.starts
    refine (reads_accept_other .star).after (.ofNeg nofun ?_) fun _ _ => by rw [hstart]; nofun
    refine reads_aggregateAhead?_none.after ?_ fun more hmore => ?_
    · refine (reads_atKind .identifier true).after (.ofPos rfl ?_) fun _ _ => by rw [hstart]; rfl
      refine (reads_columnRef hcolumn).bind ((reads_alias? hname).finish .pure fun _ h => h) ?_
      exact fun more hmore => Followed.mono (fun _ h => h.1) _ (hname.follows_alias hmore)
    · rw [List.append_assoc]
      exact hcolumn.second_ne (Followed.mono (fun _ h => h.2) _ (hname.follows_alias hmore))
  | aggregate hcall hname =>
    obtain ⟨name, others, hstart, hfunction⟩ := hcall.starts
    refine (reads_accept_other .star).after (.ofNeg nofun ?_) fun _ _ => by rw [hstart]; nofun
    refine (reads_aggregateAhead? _).after ?_ fun more _ => ⟨name, _, by rw [hstart]; rfl, hfunction⟩
    exact (reads_aggregateCall hcall).andThen ((reads_alias? hname).finish .pure fun _ h => h)

theorem reads_groupBy {refs : List ColumnRef} (h : IsGroupBy words refs) :
    Reads groupBy words refs (Followed (· ∈ groupEnds)) := by
  cases h with
  | absent =>
    exact .unlessWord (Followed.mono (by decide)) .pure
  | present h =>
    refine .ifWord ((reads_expectWordAs "BY" _).andThen ?_)
    refine (reads_commaList (fun _ _ => reads_columnRef) (by nofun) h).mono (Followed.mono fun word hword => ?_)
    exact (show ∀ word ∈ groupEnds, word.kind ≠ .comma ∧ word.kind ≠ .dot by decide) word hword

/-- The words that may follow an item of ORDER BY. -/
def AfterOrderItem (word : Word) : Prop :=
  AfterOperand word ∧ word ≠ .keyword "DESC" ∧ word ≠ .keyword "ASC"

theorem reads_orderItem {item : OrderItem} (h : IsOrderItem words item) :
    Reads orderItem words item (Followed AfterOrderItem) := by
  obtain ⟨keyWords, directionWords, rfl, hkey, hdirection, hafter⟩ : ∃ keyWords directionWords,
      words = keyWords ++ directionWords ∧ IsOrderKey keyWords item.key ∧
      Reads (do
        if ← acceptWord "DESC" then return ⟨item.key, .desc⟩
        let _ ← acceptWord "ASC"
        return ⟨item.key, .asc⟩) directionWords item (Followed AfterOrderItem) ∧
      ∀ more, Followed AfterOrderItem more → Followed AfterOperand (directionWords ++ more) := by
    cases h with
    | asc hkey named =>
      refine ⟨_, _, rfl, hkey, ?_, fun more hmore => ?_⟩
      · refine .unlessWord (fun more hmore => ?_)
          ((reads_acceptWordIf "ASC" named).finish .pure (Followed.mono fun _ h => h.2.2))
        cases named
        · exact Followed.mono (fun _ h => h.2.1) more hmore
        · exact by nofun
      · cases named
        · exact Followed.mono (fun _ h => h.1) more hmore
        · exact ⟨by nofun, by nofun⟩
    | desc hkey =>
      exact ⟨_, _, rfl, hkey, .ifWord .pure,
        fun _ _ => ⟨by nofun, by nofun⟩⟩
  generalize item.key = key at hkey hdirection
  cases hkey with
  | column hcolumn =>
    refine reads_aggregateAhead?_none.after ?_ fun more hmore => ?_
    · exact (reads_columnRef hcolumn).map.bind hdirection
        fun more hmore => Followed.mono (fun _ h => h.1) _ (hafter more hmore)
    · rw [List.append_assoc]
      exact hcolumn.second_ne (Followed.mono (fun _ h => h.2) _ (hafter more hmore))
  | aggregate hcall =>
    obtain ⟨name, others, hstart, hfunction⟩ := hcall.starts
    refine (reads_aggregateAhead? _).after ?_ fun more _ => ⟨name, _, by rw [hstart]; rfl, hfunction⟩
    exact (reads_aggregateCall hcall).map.andThen hdirection

theorem reads_orderBy {items : List OrderItem} (h : IsOrderBy words items) :
    Reads orderBy words items (Followed (· ∈ orderEnds)) := by
  cases h with
  | absent =>
    exact .unlessWord (Followed.mono (by decide)) .pure
  | present h =>
    refine .ifWord ((reads_expectWordAs "BY" _).andThen ?_)
    refine (reads_commaList (fun _ _ => reads_orderItem) ⟨⟨by nofun, by nofun⟩, by nofun, by nofun⟩ h).mono
      (Followed.mono fun word hword => ?_)
    have hends : ∀ word ∈ orderEnds, word.kind ≠ .comma ∧ (word.kind ≠ .dot ∧ word.kind ≠ .lparen) ∧
        word ≠ .keyword "DESC" ∧ word ≠ .keyword "ASC" := by decide
    exact hends word hword

theorem reads_paging? {clause : PagingClause} {number? : Option Binary64}
    (h : Optionally (IsPaging clause) words number?) :
    Reads (paging? clause) words number? (Followed (· ≠ .keyword clause.name)) := by
  cases h with
  | absent => exact .unlessWord (fun _ h => h) .pure
  | present h =>
    obtain ⟨numeral, hcheck⟩ := h
    refine .ifWord ?_
    refine Reads.expectAs ⟨.number, numeral⟩ (by nofun) fun token htoken => ?_
    obtain rfl : token.lexeme = numeral := congrArg Word.lexeme htoken
    exact .lifted hcheck .pure

theorem reads_limitAndOffset {paging : Option Binary64 × Option Binary64} (h : ArePaging words paging) :
    Reads limitAndOffset words paging (Followed (· ∈ statementEnds)) := by
  cases h with
  | absent =>
    refine (reads_paging? .absent).after ?_ (Followed.mono (by decide))
    exact (reads_paging? .absent).after .pure (Followed.mono (by decide))
  | limit hlimit hoffset =>
    refine (reads_paging? (.present hlimit)).bind
      ((reads_paging? hoffset).finish .pure (Followed.mono (by decide))) fun more hmore => ?_
    exact (hoffset.startIn fun _ _ => IsPaging.startIn).followed (by decide) (Followed.mono (by decide) _ hmore)
  | offset hoffset hlimit =>
    refine (reads_paging? .absent).after ?_ fun more _ => ?_
    · refine (reads_paging? (.present hoffset)).bind
        ((reads_paging? hlimit).finish .pure (Followed.mono (by decide))) fun more hmore => ?_
      exact (hlimit.startIn fun _ _ => IsPaging.startIn).followed (by decide) (Followed.mono (by decide) _ hmore)
    · obtain ⟨numeral, hcheck⟩ := hoffset
      exact by nofun

/-! ## What is read as a statement -/

/-- A reader of the last clauses of a statement: it reads the words up to the end of the statement,
and the first of them and of what follows is one of `starts`. -/
structure ReadsTail {α : Type} (p : Parse α) (words : List Word) (a : α) (starts : List Word) : Prop where
  reads : Reads p words a (Followed (· ∈ statementEnds))
  starts : ∀ more, Followed (· ∈ statementEnds) more → Followed (· ∈ starts) (words ++ more)

/-- One more clause comes before the last ones. -/
theorem ReadsTail.clause {α β : Type} {p : Parse α} {f : α → Parse β} {a : α} {b : β}
    {starts ends : List Word} (hp : Reads p words a (Followed (· ∈ ends)))
    (hf : ReadsTail (f a) others b ends) (hwords : StartIn starts words)
    (hends : ∀ word ∈ ends, word ∈ starts) : ReadsTail (p >>= f) (words ++ others) b starts := by
  refine ⟨hp.bind hf.reads hf.starts, fun more hmore => ?_⟩
  rw [List.append_assoc]
  exact hwords.followed (fun _ h => h) (Followed.mono hends _ (hf.starts more hmore))

theorem reads_selectStatement {query : Select} (h : IsSelect words query) :
    Reads selectStatement words (.select query) (Followed (· ∈ statementEnds)) := by
  obtain ⟨hprojections, hjoin, hfilter, hgroupBy, hhaving, horderBy, hpaging⟩ := h
  have hstarts := hprojections.starts
  refine (reads_acceptWordIf "DISTINCT" query.distinct).bind ?_ fun _ _ => ?_
  · refine (reads_commaList (fun _ _ => reads_projection) (by decide) hprojections).bind ?_
      fun _ _ => ⟨by nofun, by decide⟩
    refine (reads_expectWordAs "FROM" _).andThen ((reads_name _ _).andThen ?_)
    -- from here on each clause says where the one before it ends
    refine (ReadsTail.clause (reads_join? hjoin) ?_ (hjoin.startIn fun _ _ => IsJoin.startIn)
      (by decide)).reads
    refine .clause (reads_filter? hfilter) ?_ (hfilter.startIn fun _ _ => IsFilter.startIn) (by decide)
    refine .clause (reads_groupBy hgroupBy) ?_ hgroupBy.startIn (by decide)
    refine .clause (reads_having? hhaving) ?_ (hhaving.startIn fun _ _ => IsHaving.startIn) (by decide)
    refine .clause (reads_orderBy horderBy) ?_ horderBy.startIn (by decide)
    refine ⟨(reads_limitAndOffset hpaging).finish .pure fun _ h => h, fun more hmore => ?_⟩
    exact hpaging.startIn.followed (fun _ h => h) (Followed.mono (by decide) _ hmore)
  · obtain ⟨first, others, rfl, hfirst⟩ := hstarts
    exact fun heq => hfirst (congrArg Word.kind heq)

theorem reads_literal {value : Value} (h : IsValue words value) :
    Reads literal words value follow := by
  obtain ⟨hliteral⟩ := h
  exact (reads_literal? hliteral).andThen .pure

theorem reads_assignment {item : Assignment} (h : IsAssignment words item) :
    Reads assignment words item follow := by
  obtain ⟨column, hliteral⟩ := h
  refine (reads_name _ _).andThen (.sign (by nofun) ?_)
  exact (reads_literal (.mk hliteral)).andThen .pure

theorem reads_values {table : String} {columns : Option (List String)} {values : List Value}
    (hvalues : InParentheses (Listed IsValue) words values) : Reads (do
      expectWord "VALUES"
      let _ ← expect .lparen
      let values ← commaList literal
      let _ ← expectAs .rparen "',' or ')'"
      return Statement.insert table columns values) (.keyword "VALUES" :: words)
    (.insert table columns values) follow := by
  have hliteral (words : List Word) (value : Value) (h : IsValue words value) :
      Reads literal words value (Followed fun _ => True) := reads_literal h
  refine (reads_expectWordAs "VALUES" _).andThen ?_
  rw [← List.append_nil words]
  exact reads_inParentheses hliteral trivial trivial hvalues .pure

theorem reads_insertStatement {table : String} {columns : Option (List String)} {values : List Value}
    (hcolumns : Optionally (InParentheses (Listed IsColumnName)) words columns)
    (hvalues : InParentheses (Listed IsValue) others values) :
    Reads insertStatement (.keyword "INTO" :: .name table :: (words ++ .keyword "VALUES" :: others))
      (.insert table columns values) follow := by
  refine (reads_expectWordAs "INTO" _).andThen ((reads_name _ _).andThen ?_)
  cases hcolumns with
  | absent =>
    exact (reads_accept_other .lparen).after (.ofNeg nofun (reads_values hvalues)) fun _ _ => by nofun
  | present hcolumns =>
    obtain ⟨hnames⟩ := hcolumns
    have hname (words : List Word) (s : String) (h : IsColumnName words s) :
        Reads (name "column name") words s (Followed fun _ => True) := by
      obtain ⟨s⟩ := h
      exact reads_name _ s
    refine (reads_accept (by nofun) _).andThen (.ofPos rfl ?_)
    rw [List.append_eq, List.append_assoc]
    refine (reads_commaList hname trivial hnames).bind ?_ fun _ _ => ⟨by nofun, trivial⟩
    exact .sign (by nofun) (Reads.pure.andThen (reads_values hvalues))

theorem reads_statement {S : Statement} (h : IsStatement words S) :
    Reads statement words S (Followed (· ∈ statementEnds)) := by
  have hother {word other : String} (hne : Word.keyword word ≠ .keyword other) {words : List Word}
      (more : List Word) (_ : Followed (· ∈ statementEnds) more) :
      Followed (· ≠ .keyword other) (.keyword word :: words ++ more) := hne
  cases h with
  | createDatabase h => exact .ifWord (.ifWord ((reads_newName h).andThen .pure))
  | createTable hname hcolumns =>
    refine .ifWord (.unlessWord (hother (by decide)) ?_)
    refine (reads_expectWordAs "TABLE" _).andThen ((reads_newName hname).andThen ?_)
    rename_i words columns
    rw [← List.append_nil words]
    exact reads_inParentheses (fun _ _ => reads_columnDefinition) (by nofun) (by nofun) hcolumns .pure
  | dropDatabase name =>
    exact .unlessWord (hother (by decide)) (.ifWord (.ifWord ((reads_name _ _).andThen .pure)))
  | dropTable name =>
    refine .unlessWord (hother (by decide)) (.ifWord (.unlessWord (hother (by decide)) ?_))
    exact (reads_expectWordAs "TABLE" _).andThen ((reads_name _ _).andThen .pure)
  | useDatabase name =>
    refine .unlessWord (hother (by decide)) (.unlessWord (hother (by decide)) (.ifWord ?_))
    exact (reads_name _ _).andThen .pure
  | showDatabases =>
    refine .unlessWord (hother (by decide)) (.unlessWord (hother (by decide)) ?_)
    exact .unlessWord (hother (by decide)) (.ifWord (.ifWord .pure))
  | showTables =>
    refine .unlessWord (hother (by decide)) (.unlessWord (hother (by decide)) ?_)
    refine .unlessWord (hother (by decide)) (.ifWord (.unlessWord (hother (by decide)) ?_))
    exact (reads_expectWordAs "TABLES" _).andThen .pure
  | describe table =>
    refine .unlessWord (hother (by decide)) (.unlessWord (hother (by decide)) ?_)
    refine .unlessWord (hother (by decide)) (.unlessWord (hother (by decide)) (.ifWord ?_))
    exact (reads_name _ _).andThen .pure
  | insert table hcolumns hvalues =>
    refine .unlessWord (hother (by decide)) (.unlessWord (hother (by decide)) ?_)
    refine .unlessWord (hother (by decide)) (.unlessWord (hother (by decide)) ?_)
    exact .unlessWord (hother (by decide)) (.ifWord (reads_insertStatement hcolumns hvalues))
  | select h =>
    refine .unlessWord (hother (by decide)) (.unlessWord (hother (by decide)) ?_)
    refine .unlessWord (hother (by decide)) (.unlessWord (hother (by decide)) ?_)
    refine .unlessWord (hother (by decide)) (.unlessWord (hother (by decide)) ?_)
    exact .ifWord (reads_selectStatement h)
  | update table hassignments hfilter =>
    refine .unlessWord (hother (by decide)) (.unlessWord (hother (by decide)) ?_)
    refine .unlessWord (hother (by decide)) (.unlessWord (hother (by decide)) ?_)
    refine .unlessWord (hother (by decide)) (.unlessWord (hother (by decide)) ?_)
    refine .unlessWord (hother (by decide)) (.ifWord ?_)
    refine (reads_name _ _).andThen ((reads_expectWordAs "SET" _).andThen ?_)
    have hitem (words : List Word) (item : Assignment) (h : IsAssignment words item) :
        Reads assignment words item (Followed fun _ => True) := reads_assignment h
    have hends (word : Word) (h : word ∈ joinEnds) : AfterList (fun _ => True) word :=
      ⟨(show ∀ word ∈ joinEnds, word.kind ≠ .comma by decide) word h, trivial⟩
    refine (reads_commaList hitem trivial hassignments).bind
      ((reads_filter? hfilter).finish .pure (Followed.mono (by decide))) fun more hmore => ?_
    exact (hfilter.startIn fun _ _ => IsFilter.startIn).followed hends
      (Followed.mono (fun word h => hends word ((by decide : ∀ w ∈ statementEnds, w ∈ joinEnds) word h)) _ hmore)
  | delete table hfilter =>
    refine .unlessWord (hother (by decide)) (.unlessWord (hother (by decide)) ?_)
    refine .unlessWord (hother (by decide)) (.unlessWord (hother (by decide)) ?_)
    refine .unlessWord (hother (by decide)) (.unlessWord (hother (by decide)) ?_)
    refine .unlessWord (hother (by decide)) (.unlessWord (hother (by decide)) (.ifWord ?_))
    refine (reads_expectWordAs "FROM" _).andThen ((reads_name _ _).andThen ?_)
    exact (reads_filter? hfilter).finish .pure (Followed.mono (by decide))

theorem reads_oneStatement {S : Statement} (h : IsStatement words S) :
    Reads oneStatement words S (Followed (· = .last)) := by
  refine (reads_statement h).finish ?_ (Followed.mono (by rintro _ rfl; decide))
  refine (reads_accept_other .semicolon).after ?_ (Followed.mono (by rintro _ rfl; decide))
  refine (reads_atKind .eof true).after (.ofPos rfl .pure) fun more hmore => ?_
  cases more with
  | nil => exact absurd hmore id
  | cons word _ => exact hmore ▸ rfl

end

end Parse

/-! ## Texts -/

/-- Words of a text, but for its end. -/
def WordsOf (tokens : List Token) (words : List Word) : Prop :=
  ∀ word ∈ words, ∃ token ∈ tokens, token.kind ≠ .eof ∧ token.word = word

/-- A text that is read as a statement has words that stand for it. -/
theorem isStatement_of_parse {sql : String} {S : Statement} {tokens : List Token}
    (htokens : tokenize sql = .ok tokens) (hlexical : AreLexical tokens) (h : parse sql = .ok S) :
    ∃ words, WordsOf tokens words ∧ IsStatement words S := by
  rw [parse, htokens] at h
  obtain ⟨⟨read, left⟩, hrun, rfl⟩ := map_eq_ok.1 h
  obtain ⟨taken, rfl, htaken, words, others, hwords, hstatement⟩ :=
    Parse.takes_oneStatement tokens read left hlexical rfl hrun
  refine ⟨words, fun word hword => ?_, hstatement⟩
  obtain ⟨token, htoken, rfl⟩ := List.mem_map.1 (hwords ▸ List.mem_append_left others hword)
  exact ⟨token, List.mem_append_left _ htoken, htaken token htoken, rfl⟩

theorem isStatement_of_parseScript {sql : String} {read : List Statement} {tokens : List Token}
    (htokens : tokenize sql = .ok tokens) (hlexical : AreLexical tokens)
    (h : parseScript sql = .ok read) :
    ∀ S ∈ read, ∃ words, WordsOf tokens words ∧ IsStatement words S := by
  rw [parseScript, htokens] at h
  obtain ⟨⟨read, left⟩, hrun, rfl⟩ := map_eq_ok.1 h
  obtain ⟨taken, heq, htaken, hread⟩ := Parse.takes_statements _ tokens read left hlexical rfl hrun
  intro S hS
  obtain ⟨words, hsub, hstatement⟩ := hread S hS
  refine ⟨words, fun word hword => ?_, hstatement⟩
  obtain ⟨token, htoken, rfl⟩ := List.mem_map.1 (hsub hword)
  exact ⟨token, heq ▸ List.mem_append_left _ htoken, htaken token htoken, rfl⟩

theorem parse_of_isStatement {sql : String} {S : Statement} {tokens : List Token} {words : List Word}
    (htokens : tokenize sql = .ok tokens) (hwords : tokens.map Token.word = words ++ [.last])
    (h : IsStatement words S) : parse sql = .ok S := by
  obtain ⟨tokens, ends, rfl, rfl, hends⟩ := List.map_eq_append_iff.1 hwords
  have hrun := Parse.reads_oneStatement h tokens ends rfl (hends ▸ rfl)
  rw [parse, htokens]
  exact map_eq_ok.2 ⟨_, hrun, rfl⟩

end RelStore.Sql
