/-
Which accepted names can stand in texts.

Names of new objects are checked by their characters and against reserved words, while texts are cut
into words by where runs of characters end, and words are told apart by keywords. For tables and columns
the two come to the same: an accepted name is an identifier (`isIdentifier_of_checkName`), so that it is
one token and the statements with it are about what it names. Databases may have names with hyphens and
with digits first, which no text can have as a word; of the others the same holds (`accepted_names`).
-/
import RelStore.Proofs.Sql.Calls
import RelStore.Proofs.Sql.RoundTrip

namespace RelStore.Sql

/-! ## Identifiers -/

/-- A name that starts with no digit and has no hyphen. -/
def WordLike (name : String) : Prop := name.toList.head?.any isDigit = false ∧ '-' ∉ name.toList

instance : DecidablePred WordLike := fun _ => inferInstanceAs (Decidable (_ ∧ _))

section

variable {name : String}

theorem OfWordChars.upper_eq (h : OfWordChars name) :
    Text.upper name = String.ofList (name.toList.map Char.toUpper) := by
  have hupper : ∀ c ∈ name.toList, Text.upperChar c = [c.toUpper] :=
    fun c hc => if_pos (toNat_lt_of_isWordChar (h c hc))
  rw [Text.upper, List.flatMap_congr hupper, List.map_eq_flatMap]

/-- An accepted name is no keyword. -/
theorem isIdentifier_of_start {kind : NameKind} (h : checkName kind name = .ok ()) (hstart : ∃ first rest,
      name.toList = first :: rest ∧ isWordStart first = true ∧ ∀ c ∈ rest, isWordChar c = true) :
    IsIdentifier name := by
  refine ⟨hstart, fun hkeyword => ?_⟩
  obtain ⟨-, -, -, hreserved⟩ := checkName_eq_ok.1 h
  rw [isReserved, (ofWordChars_of_start hstart).upper_eq, Bool.or_eq_false_iff,
    List.contains_iff_mem.2 hkeyword] at hreserved
  cases hreserved.1

/-- **Names that are accepted for tables and columns are identifiers.** -/
theorem isIdentifier_of_checkName {kind : NameKind} (h : checkName kind name = .ok ())
    (hkind : kind ≠ .database) : IsIdentifier name :=
  isIdentifier_of_start h ((wellFormedName_iff hkind).1 (checkName_eq_ok.1 h).2.2.1)

theorem isWordStart_iff {c : Char} : isWordStart c = true ↔ isWordChar c = true ∧ isDigit c = false := by
  refine ⟨fun h => ⟨isWordChar_of_isWordStart h, isDigit_of_isWordStart h⟩, fun ⟨hchar, hdigit⟩ => ?_⟩
  rwa [isWordChar, hdigit, Bool.or_false] at hchar

/-- Of the names that databases may have, those are identifiers that look like words. -/
theorem isIdentifier_iff_wordLike (h : checkName .database name = .ok ()) :
    IsIdentifier name ↔ WordLike name := by
  constructor
  · intro hidentifier
    obtain ⟨first, rest, hname, hfirst, -⟩ := hidentifier.start
    refine ⟨?_, hidentifier.ofWordChars.not_mem (by decide)⟩
    rw [hname]
    exact isDigit_of_isWordStart hfirst
  · rintro ⟨hdigit, hhyphen⟩
    obtain ⟨-, -, hformed, -⟩ := checkName_eq_ok.1 h
    rw [wellFormedName, Bool.and_eq_true, List.all_eq_true] at hformed
    have hchars : ∀ c ∈ name.toList, isWordChar c = true := fun c hc =>
      (Bool.or_eq_true_iff.1 (hformed.2 c hc)).resolve_right fun hc' => hhyphen (beq_iff_eq.1 hc' ▸ hc)
    refine isIdentifier_of_start h ?_
    cases hname : name.toList with
    | nil => simp [hname] at hformed
    | cons first rest =>
      rw [hname] at hdigit hchars
      obtain ⟨hfirst, hrest⟩ := List.forall_mem_cons.1 hchars
      exact ⟨first, rest, rfl, isWordStart_iff.2 ⟨hfirst, hdigit⟩, hrest⟩

/-! ## Tokens -/

/-- A name is one token, and nothing else is in its text. -/
def IsOneToken (name : String) : Prop :=
  tokenize name = .ok [⟨.identifier, name, .start⟩, ⟨.eof, "", Position.start.after name.toList⟩]

instance : DecidablePred IsOneToken := fun name => inferInstanceAs (Decidable (tokenize name = _))

theorem isOneToken_iff : IsOneToken name ↔ IsIdentifier name := by
  refine ⟨fun h => lexical_tokenize h _ List.mem_cons_self, fun h => ?_⟩
  have hlexical : (Word.name name).Lexical := h
  have hspaced : Spaced [] := by rintro _ ⟨⟩
  obtain ⟨c, tail, hname, hpiece⟩ := pieceAt_spelled hlexical nofun hspaced
  have hchars : name.toList = c :: tail := hname
  rw [List.append_nil] at hpiece
  rw [IsOneToken, tokenize, hchars]
  refine tokensFrom_of_piece (hpiece .start) ?_
  rw [List.take_length, List.drop_length]
  exact tokensFrom.eq_1 _

/-! ## Statements -/

theorem spell_name (name : String) : spell [.name name] = name := by
  simp [spell, spelling, Word.spelled, Word.name, List.intercalate]

theorem spell_name_cons (name : String) (next : Word) (words : List Word) :
    spell (.name name :: next :: words) = name ++ " " ++ spell (next :: words) := by
  simp [spell, spelling_cons_cons, Word.spelled, Word.name, String.append_assoc]

theorem spell_keyword_cons (word : String) (next : Word) (words : List Word) :
    spell (.keyword word :: next :: words) = word ++ " " ++ spell (next :: words) := by
  simp [spell, spelling_cons_cons, Word.spelled, Word.keyword, String.append_assoc]

/-- The text of keywords and a name, with blanks between them. -/
def namedText (words : List String) (name : String) : String :=
  words.foldr (fun word text => word ++ " " ++ text) name

theorem spell_named (words : List String) (name : String) :
    spell (words.map Word.keyword ++ [.name name]) = namedText words name := by
  induction words with
  | nil => exact spell_name name
  | cons word rest ih =>
    cases rest with
    | nil => exact (spell_keyword_cons ..).trans (congrArg _ ih)
    | cons next rest => exact (spell_keyword_cons ..).trans (congrArg _ ih)

theorem spoken_name (h : IsIdentifier name) : (Word.name name).Spoken := ⟨h, nofun⟩

/-- A statement that keywords and a name stand for, and no other words, is read from them exactly if the
name is an identifier. -/
theorem parse_named_iff {S : Statement} (words : List String) (hwords : ∀ word ∈ words, word ∈ keywords)
    (h : IsStatement (words.map Word.keyword ++ [.name name]) S)
    (hother : ∀ others, IsStatement others S → others = words.map Word.keyword ++ [.name name]) :
    parse (namedText words name) = .ok S ↔ IsIdentifier name := by
  constructor
  · intro hparse
    obtain ⟨others, hspoken, hstatement⟩ := stated_of_parse hparse
    obtain rfl := hother others hstatement
    exact (hspoken (.name name) (List.mem_append_right _ List.mem_cons_self)).1
  · intro hname
    have hspoken : AllSpoken (words.map Word.keyword ++ [.name name]) := by
      refine allSpoken_append.2 ⟨List.forall_mem_map.2 fun word hword => ?_, ?_⟩
      · exact spoken_keyword (hwords word hword)
      · exact allSpoken_cons.2 ⟨spoken_name hname, allSpoken_nil⟩
    obtain ⟨tokens, htokens, hmap⟩ := tokenize_spell hspoken
    rw [← spell_named]
    exact parse_of_isStatement htokens hmap h

theorem parse_describe_iff : parse ("DESCRIBE " ++ name) = .ok (.describe name) ↔ IsIdentifier name :=
  parse_named_iff ["DESCRIBE"] (by decide) (.describe name) fun _ h => by cases h; rfl

theorem parse_useDatabase_iff : parse ("USE " ++ name) = .ok (.useDatabase name) ↔ IsIdentifier name :=
  parse_named_iff ["USE"] (by decide) (.useDatabase name) fun _ h => by cases h; rfl

theorem parse_dropDatabase_iff :
    parse ("DROP DATABASE " ++ name) = .ok (.dropDatabase name) ↔ IsIdentifier name := by
  have htext : "DROP DATABASE " ++ name = namedText ["DROP", "DATABASE"] name := by
    simp only [namedText, List.foldr_cons, List.foldr_nil, ← String.append_assoc]
    rfl
  rw [htext]
  exact parse_named_iff ["DROP", "DATABASE"] (by decide) (.dropDatabase name) fun _ h => by cases h; rfl

/-- All values of one column. -/
def Select.ofColumn (column table : String) : Select where
  distinct := false
  projections := [.column ⟨none, column⟩ none]
  table := table
  join := none
  filter := none
  groupBy := []
  having := none
  orderBy := []
  limit := none
  offset := none

theorem parse_ofColumn {column table : String} (hcolumn : IsIdentifier column) (htable : IsIdentifier table) :
    parse ("SELECT " ++ column ++ " FROM " ++ table) = .ok (.select (.ofColumn column table)) := by
  have hprojection : IsProjection ([.name column] ++ []) (.column ⟨none, column⟩ none) :=
    .column (.alone column) .absent
  have hstatement : IsStatement [.keyword "SELECT", .name column, .keyword "FROM", .name table]
      (.select (.ofColumn column table)) :=
    .select (@IsSelect.mk [.name column] [] [] [] [] [] [] (.ofColumn column table) (.one hprojection)
      .absent .absent .absent .absent .absent .absent)
  have hspoken : AllSpoken [.keyword "SELECT", .name column, .keyword "FROM", .name table] := by
    simp only [allSpoken_cons, spoken_name hcolumn, spoken_name htable, true_and]
    exact ⟨spoken_keyword (by decide), spoken_keyword (by decide), allSpoken_nil⟩
  have htext : "SELECT " ++ column ++ " FROM " ++ table =
      spell [.keyword "SELECT", .name column, .keyword "FROM", .name table] := by
    have hfrom (text : String) : text ++ " " ++ "FROM" ++ " " = text ++ " FROM " := by
      rw [String.append_assoc, String.append_assoc]
      rfl
    simp only [spell_keyword_cons, spell_name_cons, spell_name, ← String.append_assoc, hfrom]
    rfl
  obtain ⟨tokens, htokens, hmap⟩ := tokenize_spell hspoken
  rw [htext]
  exact parse_of_isStatement htokens hmap hstatement

/-! ## Accepted names -/

/-- **Accepted names can be written in texts**, those of databases only where they look like words. A name
that is accepted for a table or a column is one token, and DESCRIBE and SELECT with it are read as being
about what it names. So is a name that is accepted for a database, with USE and DROP DATABASE, if and
only if it starts with no digit and has no hyphen. -/
theorem accepted_names :
    (checkName .table name = .ok () →
      IsOneToken name ∧ parse ("DESCRIBE " ++ name) = .ok (.describe name)) ∧
    (checkName .column name = .ok () → IsOneToken name ∧ ∀ table, checkName .table table = .ok () →
      parse ("SELECT " ++ name ++ " FROM " ++ table) = .ok (.select (.ofColumn name table))) ∧
    (checkName .database name = .ok () → (IsOneToken name ↔ WordLike name) ∧
      (parse ("USE " ++ name) = .ok (.useDatabase name) ↔ WordLike name) ∧
      (parse ("DROP DATABASE " ++ name) = .ok (.dropDatabase name) ↔ WordLike name)) := by
  refine ⟨fun h => ?_, fun h => ?_, fun h => ?_⟩
  · have hname := isIdentifier_of_checkName h (by decide)
    exact ⟨isOneToken_iff.2 hname, parse_describe_iff.2 hname⟩
  · have hname := isIdentifier_of_checkName h (by decide)
    refine ⟨isOneToken_iff.2 hname, fun table htable => ?_⟩
    exact parse_ofColumn hname (isIdentifier_of_checkName htable (by decide))
  · have hname := isIdentifier_iff_wordLike h
    exact ⟨isOneToken_iff.trans hname, parse_useDatabase_iff.trans hname, parse_dropDatabase_iff.trans hname⟩

/-- A table, a column and a database that can be named in texts. -/
theorem accepted_names_books :
    (checkName .table "books" = .ok () ∧ parse ("DESCRIBE " ++ "books") = .ok (.describe "books")) ∧
      (checkName .column "title" = .ok () ∧
        parse ("SELECT " ++ "title" ++ " FROM " ++ "books") = .ok (.select (.ofColumn "title" "books"))) ∧
      checkName .database "my_db" = .ok () ∧ WordLike "my_db" ∧
      parse ("USE " ++ "my_db") = .ok (.useDatabase "my_db") := by
  have htable : checkName .table "books" = .ok () := by decide +kernel
  have hcolumn : checkName .column "title" = .ok () := by decide +kernel
  have hdatabase : checkName .database "my_db" = .ok () := by decide +kernel
  have hword : WordLike "my_db" := by decide +kernel
  refine ⟨⟨htable, (accepted_names.1 htable).2⟩, ⟨hcolumn, ?_⟩, hdatabase, hword, ?_⟩
  · exact (accepted_names.2.1 hcolumn).2 "books" htable
  · exact (accepted_names.2.2 hdatabase).2.1.2 hword

end

/-- **Not every name that is accepted for a database can be written in texts**: one with a hyphen is no
token, and with two hyphens another database is named. -/
theorem not_accepted_names_hyphen :
    checkName .database "my-db" = .ok () ∧ ¬ IsOneToken "my-db" ∧
      parse "USE my-db" = .error (.unexpectedCharacter "-" ⟨6, 1, 7⟩) ∧
      parse "DROP DATABASE my-db" = .error (.unexpectedCharacter "-" ⟨16, 1, 17⟩) ∧
      checkName .database "a--b" = .ok () ∧ parse "USE a--b" = .ok (.useDatabase "a") := by
  refine ⟨by decide +kernel, by decide +kernel, by cbv, by cbv, by decide +kernel, by cbv⟩

end RelStore.Sql
