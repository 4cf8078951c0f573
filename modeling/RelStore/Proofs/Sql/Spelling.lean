/-
Words are spelled as texts, and tokens are the words of the text.

`Word.spelled` writes a word, a quoted string with each of its quotes doubled, and `spell` puts one
blank between the words of a list. Whatever the words are that a text can have, the tokens of their
spelling are just these words (`tokenize_spell`): no content of a string gets out of its quotes. The
other way round, tokens have no other words than these (`lexical_tokenize`).
-/
import RelStore.Proofs.Sql.Readers
import RelStore.Proofs.Sql.Tokens

namespace RelStore.Sql

variable {c d : Char} {chars rest : List Char} {place : Position}

/-! ## Runs of characters -/

/-- A character of a class is none that the class does not have. -/
theorem ne_of_class {p : Char → Bool} (hc : p c = true) (hd : p d = false) : c ≠ d := by
  rintro rfl
  rw [hc] at hd
  cases hd

theorem isGap_eq_false {p : Char → Bool} (hc : p c = true)
    (hgap : [' ', '\t', '\n', '\r'].any p = false) : isGap c = false := by
  have hne (d : Char) (hd : d ∈ [' ', '\t', '\n', '\r']) : (c == d) = false :=
    beq_false_of_ne (ne_of_class hc (Bool.eq_false_iff.2 (List.any_eq_false.1 hgap d hd)))
  rw [isGap, hne ' ' (by decide), hne '\t' (by decide), hne '\n' (by decide), hne '\r' (by decide)]
  rfl

/-- A word ends here: the text does, or there is a blank. -/
def Spaced (rest : List Char) : Prop := ∀ c ∈ rest.head?, c = ' '

section

variable {p : Char → Bool}

theorem takeWhile_spaced (hrest : Spaced rest) (hp : p ' ' = false) (h : ∀ c ∈ chars, p c = true) :
    (chars ++ rest).takeWhile p = chars := by
  rw [List.takeWhile_append_of_pos h]
  cases rest with
  | nil => exact List.append_nil _
  | cons c _ =>
    obtain rfl := hrest c rfl
    rw [List.takeWhile_cons_of_neg (by simp [hp]), List.append_nil]

theorem dropWhile_spaced (hrest : Spaced rest) (hp : p ' ' = false) (h : ∀ c ∈ chars, p c = true) :
    (chars ++ rest).dropWhile p = rest := by
  rw [List.dropWhile_append_of_pos h]
  cases rest with
  | nil => rfl
  | cons c _ =>
    obtain rfl := hrest c rfl
    exact List.dropWhile_cons_of_neg (by simp [hp])

end

/-! ## Pieces -/

theorem pieceAt_blank (place : Position) (rest : List Char) :
    pieceAt place ' ' rest = .ok ⟨none, 0⟩ := rfl

theorem pieceAt_quoted {content : List Char} {size : Nat} (h : readQuoted rest = some (content, size)) :
    pieceAt place '\'' rest = .ok ⟨some (.string, String.ofList content), size⟩ := by
  have hgap : isGap '\'' = false := rfl
  have hhyphen : ('\'' == '-') = false := rfl
  simp only [pieceAt, hgap, hhyphen, h, Bool.false_and, beq_self_eq_true, Bool.false_eq_true,
    if_false, if_true]

theorem pieceAt_digit (hc : isDigit c = true) : pieceAt place c rest =
    .ok ⟨some (.number, String.ofList (c :: numberTail rest)), (numberTail rest).length⟩ := by
  have hquote : (c == '\'') = false := beq_false_of_ne (ne_of_class hc (by decide))
  have hhyphen : (c == '-') = false := beq_false_of_ne (ne_of_class hc (by decide))
  simp only [pieceAt, isGap_eq_false hc (by decide), hquote, hhyphen, hc, Bool.false_and,
    Bool.or_false, Bool.false_eq_true, if_false, if_true]

theorem pieceAt_hyphen (hrest : rest.head?.any isDigit = true) : pieceAt place '-' rest =
    .ok ⟨some (.number, String.ofList ('-' :: numberTail rest)), (numberTail rest).length⟩ := by
  have hhyphen : (rest.head? == some '-') = false := by
    cases rest with
    | nil => rfl
    | cons c _ =>
      have hc : isDigit c = true := hrest
      exact beq_false_of_ne fun heq => ne_of_class hc (by decide) (Option.some.inj heq)
  have hgap : isGap '-' = false := rfl
  have hquote : ('-' == '\'') = false := rfl
  simp only [pieceAt, hgap, hquote, hhyphen, hrest, Bool.and_false, Bool.and_true, beq_self_eq_true,
    Bool.or_true, Bool.false_eq_true, if_false, if_true]

theorem isDigit_of_isWordStart (hc : isWordStart c = true) : isDigit c = false := by
  simp only [isWordStart, isLetter, isDigit, Bool.or_eq_true, Bool.and_eq_true, decide_eq_true_iff,
    beq_iff_eq, Bool.and_eq_false_iff, decide_eq_false_iff_not, Char.le_def, UInt32.le_iff_toNat_le] at hc ⊢
  rcases hc with (⟨hlow, -⟩ | ⟨hlow, -⟩) | rfl
  · exact .inr fun hhigh => absurd (Nat.le_trans hlow hhigh) (by decide)
  · exact .inr fun hhigh => absurd (Nat.le_trans hlow hhigh) (by decide)
  · decide

theorem pieceAt_wordStart (hc : isWordStart c = true) : pieceAt place c rest =
    .ok ⟨some (wordToken (c :: rest.takeWhile isWordChar)), (rest.takeWhile isWordChar).length⟩ := by
  have hquote : (c == '\'') = false := beq_false_of_ne (ne_of_class hc (by decide))
  have hhyphen : (c == '-') = false := beq_false_of_ne (ne_of_class hc (by decide))
  have hdigit : isDigit c = false := isDigit_of_isWordStart hc
  simp only [pieceAt, isGap_eq_false hc (by decide), hquote, hhyphen, hdigit, hc, Bool.false_and,
    Bool.or_false, Bool.false_eq_true, if_false, if_true]

theorem pieceAt_comparison (hc : c = '<' ∨ c = '>') (h : comparisonSecond? c rest = none) :
    pieceAt place c rest = .ok ⟨some (.comparison, c.toString), 0⟩ := by
  have hother : isGap c = false ∧ (c == '-') = false ∧ (c == '\'') = false ∧ isDigit c = false ∧
      isWordStart c = false ∧ (c == '!') = false ∧ (c == '<' || c == '>') = true := by
    rcases hc with rfl | rfl <;> decide
  obtain ⟨hgap, hhyphen, hquote, hdigit, hstart, hbang, hangle⟩ := hother
  simp only [pieceAt, hgap, hhyphen, hquote, hdigit, hstart, hbang, hangle, h, Bool.false_and,
    Bool.or_false, Bool.false_eq_true, if_false, if_true]

theorem pieceAt_second {second : Char} (hc : c = '<' ∨ c = '>' ∨ c = '!')
    (h : comparisonSecond? c rest = some second) :
    pieceAt place c rest = .ok ⟨some (.comparison, String.ofList [c, second]), 1⟩ := by
  have hother : isGap c = false ∧ (c == '-') = false ∧ (c == '\'') = false ∧ isDigit c = false ∧
      isWordStart c = false ∧ (c == '<' || c == '>' || c == '!') = true := by
    rcases hc with rfl | rfl | rfl <;> decide
  obtain ⟨hgap, hhyphen, hquote, hdigit, hstart, hsign⟩ := hother
  simp only [pieceAt, hgap, hhyphen, hquote, hdigit, hstart, hsign, h, Bool.false_and, Bool.or_false,
    Bool.false_eq_true, if_false, if_true]

/-! ## Words -/

/-- The characters of a string with each quote doubled. -/
def doubled (content : List Char) : List Char :=
  content.flatMap fun c => if c = '\'' then ['\'', '\''] else [c]

/-- A word as it is written. -/
def Word.spelled (word : Word) : List Char :=
  if word.kind = .string then '\'' :: (doubled word.lexeme.toList ++ ['\'']) else word.lexeme.toList

theorem doubled_quote (content : List Char) : doubled ('\'' :: content) = '\'' :: '\'' :: doubled content := rfl

theorem doubled_cons (hc : c ≠ '\'') (content : List Char) : doubled (c :: content) = c :: doubled content := by
  rw [doubled, List.flatMap_cons, if_neg hc]
  rfl

theorem Spaced.head?_ne (hrest : Spaced rest) (hd : d ≠ ' ') : rest.head? ≠ some d :=
  fun hhead => hd (hrest d hhead)

theorem readQuoted_doubled (content : List Char) (hrest : rest.head? ≠ some '\'') :
    readQuoted (doubled content ++ '\'' :: rest) = some (content, (doubled content).length + 1) := by
  induction content with
  | nil =>
    cases rest with
    | nil => rfl
    | cons c rest =>
      have hc : ¬ c = '\'' := fun heq => hrest (congrArg some heq)
      exact (readQuoted.eq_3 _ _ fun _ _ heq => hc (List.cons.inj heq).1).trans (if_pos rfl)
  | cons c content ih =>
    by_cases hc : c = '\''
    · subst hc
      rw [doubled_quote, List.cons_append, List.cons_append, readQuoted, ih]
      rfl
    · rw [doubled_cons hc, List.cons_append, readQuoted, if_neg hc, ih]
      · rfl
      · exact fun _ heq => absurd heq hc

/-- A string that is read is its content with each quote doubled, and a quote. -/
theorem eq_doubled_of_readQuoted {content : List Char} {size : Nat}
    (h : readQuoted rest = some (content, size)) : ∃ after, rest = doubled content ++ '\'' :: after ∧
      after.head? ≠ some '\'' ∧ size = (doubled content).length + 1 := by
  induction rest using readQuoted.induct generalizing content size with
  | case1 => cases h
  | case2 rest ih =>
    obtain ⟨⟨inner, n⟩, hinner, heq⟩ := Option.map_eq_some_iff.1 h
    obtain ⟨rfl, rfl⟩ := Prod.mk.inj heq
    obtain ⟨after, rfl, hafter, rfl⟩ := ih hinner
    exact ⟨after, rfl, hafter, rfl⟩
  | case3 rest hrest =>
    rw [readQuoted.eq_3 _ _ hrest, if_pos rfl] at h
    obtain ⟨rfl, rfl⟩ := Prod.mk.inj (Option.some.inj h)
    refine ⟨rest, rfl, fun hhead => ?_, rfl⟩
    cases rest with
    | nil => cases hhead
    | cons d rest => exact hrest rest rfl (by rw [Option.some.inj hhead])
  | case4 c rest hdoubled hc ih =>
    rw [readQuoted.eq_3 _ _ hdoubled, if_neg hc] at h
    obtain ⟨⟨inner, n⟩, hinner, heq⟩ := Option.map_eq_some_iff.1 h
    obtain ⟨rfl, rfl⟩ := Prod.mk.inj heq
    obtain ⟨after, rfl, hafter, rfl⟩ := ih hinner
    exact ⟨after, by rw [doubled_cons hc, List.cons_append], hafter, by rw [doubled_cons hc, List.length_cons]⟩

theorem numberTail_spaced (hdigits : ∀ c ∈ chars, isDigit c = true) (hrest : Spaced rest) :
    numberTail (chars ++ rest) = chars := by
  rw [numberTail, takeWhile_spaced hrest (by decide) hdigits, dropWhile_spaced hrest (by decide) hdigits]
  cases rest with
  | nil => rfl
  | cons c _ =>
    obtain rfl := hrest c rfl
    rfl

theorem numberTail_fraction {more : List Char} (hdigits : ∀ c ∈ chars, isDigit c = true)
    (hmore : AreDigits more) (rest : List Char) :
    numberTail (chars ++ '.' :: (more ++ rest)) = chars ++ '.' :: (more ++ rest).takeWhile isDigit := by
  obtain ⟨hne, hmore⟩ := hmore
  have hpoint : isDigit '.' = false := rfl
  rw [numberTail, List.takeWhile_append_of_pos hdigits, List.dropWhile_append_of_pos hdigits,
    List.takeWhile_cons_of_neg (by simp [hpoint]), List.dropWhile_cons_of_neg (by simp [hpoint]),
    List.append_nil]
  cases more with
  | nil => exact absurd rfl hne
  | cons d more => simp only [List.cons_append, hmore d List.mem_cons_self, if_true]

/-- The first character of a number, the digits that follow it, and the fraction. -/
theorem IsNumeral.exists_parts {lexeme : List Char} (h : IsNumeral lexeme) :
    ∃ c digits fraction, lexeme = c :: (digits ++ fraction) ∧ (∀ d ∈ digits, isDigit d = true) ∧
      (isDigit c = true ∨ c = '-' ∧ digits.head?.any isDigit = true) ∧
      (fraction = [] ∨ ∃ more, AreDigits more ∧ fraction = '.' :: more) := by
  have hwhole {digits : List Char} (h : AreDigits digits) :
      ∃ c tail, digits = c :: tail ∧ isDigit c = true ∧ ∀ c ∈ tail, isDigit c = true := by
    obtain ⟨hne, hdigits⟩ := h
    obtain ⟨c, tail, rfl⟩ := List.exists_cons_of_ne_nil hne
    exact ⟨c, tail, rfl, List.forall_mem_cons.1 hdigits⟩
  have hhead {digits : List Char} (h : AreDigits digits) : digits.head?.any isDigit = true := by
    obtain ⟨c, tail, rfl, hc, -⟩ := hwhole h
    exact hc
  cases h with
  | whole h =>
    obtain ⟨c, tail, rfl, hc, htail⟩ := hwhole h
    exact ⟨c, tail, [], by rw [List.append_nil], htail, .inl hc, .inl rfl⟩
  | fraction h hmore =>
    obtain ⟨c, tail, rfl, hc, htail⟩ := hwhole h
    exact ⟨c, tail, _, rfl, htail, .inl hc, .inr ⟨_, hmore, rfl⟩⟩
  | negativeWhole h => exact ⟨'-', _, [], by rw [List.append_nil], h.2, .inr ⟨rfl, hhead h⟩, .inl rfl⟩
  | negativeFraction h hmore => exact ⟨'-', _, _, rfl, h.2, .inr ⟨rfl, hhead h⟩, .inr ⟨_, hmore, rfl⟩⟩

theorem any_head?_append (h : chars.head?.any isDigit = true) (rest : List Char) :
    (chars ++ rest).head?.any isDigit = true := by
  cases chars with
  | nil => cases h
  | cons c chars => exact h

/-- The first character of a number and what follows it. -/
theorem IsNumeral.cases_cons {lexeme : List Char} (h : IsNumeral lexeme) (hrest : Spaced rest) :
    ∃ c tail, lexeme = c :: tail ∧ numberTail (tail ++ rest) = tail ∧
      (isDigit c = true ∨ c = '-' ∧ (tail ++ rest).head?.any isDigit = true) := by
  obtain ⟨c, digits, fraction, rfl, hdigits, hc, hfraction⟩ := h.exists_parts
  refine ⟨c, _, rfl, ?_, hc.imp_right (And.imp_right fun hhead => any_head?_append (any_head?_append hhead _) _)⟩
  rcases hfraction with rfl | ⟨more, hmore, rfl⟩
  · rw [List.append_nil]
    exact numberTail_spaced hdigits hrest
  · rw [List.append_assoc, List.cons_append, numberTail_fraction hdigits hmore,
      takeWhile_spaced hrest (by decide) hmore.2]

/-- A keyword is a run of word characters in upper case. -/
theorem keyword_cons {word : String} (h : word ∈ keywords) : ∃ c tail, word.toList = c :: tail ∧
    isWordStart c = true ∧ (∀ c ∈ tail, isWordChar c = true) ∧
      String.ofList (word.toList.map Char.toUpper) = word := by
  have hall : ∀ word ∈ keywords, word.toList.head?.any isWordStart = true ∧
      word.toList.tail.all isWordChar = true ∧
        String.ofList (word.toList.map Char.toUpper) = word := by decide
  obtain ⟨hhead, htail, hupper⟩ := hall word h
  cases htext : word.toList with
  | nil =>
    rw [htext] at hhead
    cases hhead
  | cons c tail =>
    rw [htext] at hhead htail
    exact ⟨c, tail, rfl, hhead, List.all_eq_true.1 htail, htext ▸ hupper⟩

/-- A word is one piece of the text. -/
theorem pieceAt_spelled {word : Word} (h : word.Lexical) (hword : word.kind ≠ .eof)
    (hrest : Spaced rest) : ∃ c tail, word.spelled = c :: tail ∧ ∀ place,
      pieceAt place c (tail ++ rest) = .ok ⟨some (word.kind, word.lexeme), tail.length⟩ := by
  obtain ⟨kind, lexeme⟩ := word
  cases kind with
  | string =>
    refine ⟨'\'', _, rfl, fun place => ?_⟩
    have hread := readQuoted_doubled lexeme.toList (hrest.head?_ne (by decide))
    rw [List.append_assoc, List.singleton_append, pieceAt_quoted hread, String.ofList_toList,
      List.length_append]
    rfl
  | number =>
    obtain ⟨c, tail, heq, htail, hc⟩ := IsNumeral.cases_cons h hrest
    refine ⟨c, tail, heq, fun place => ?_⟩
    have hlexeme : String.ofList (c :: tail) = lexeme := heq ▸ String.ofList_toList
    rcases hc with hc | ⟨rfl, hhead⟩
    · rw [pieceAt_digit hc, htail, hlexeme]
    · rw [pieceAt_hyphen hhead, htail, hlexeme]
  | keyword =>
    have hkeyword : lexeme ∈ keywords := h
    obtain ⟨c, tail, heq, hc, htail, hupper⟩ := keyword_cons hkeyword
    refine ⟨c, tail, heq, fun place => ?_⟩
    rw [pieceAt_wordStart hc, takeWhile_spaced hrest (by decide) htail, wordToken, ← heq, hupper,
      if_pos hkeyword]
  | identifier =>
    obtain ⟨⟨c, tail, heq, hc, htail⟩, hother⟩ := h
    refine ⟨c, tail, heq, fun place => ?_⟩
    rw [pieceAt_wordStart hc, takeWhile_spaced hrest (by decide) htail, wordToken, ← heq,
      if_neg hother, String.ofList_toList]
  | comparison =>
    have hsecond {c : Char} : comparisonSecond? c rest = none := by
      cases rest with
      | nil => rfl
      | cons d _ =>
        obtain rfl := hrest d rfl
        rfl
    have hmem : lexeme ∈ ["<", ">", "<=", ">=", "<>", "!="] := h
    simp only [List.mem_cons, List.not_mem_nil, or_false] at hmem
    rcases hmem with rfl | rfl | rfl | rfl | rfl | rfl
    · exact ⟨'<', [], rfl, fun _ => pieceAt_comparison (.inl rfl) hsecond⟩
    · exact ⟨'>', [], rfl, fun _ => pieceAt_comparison (.inr rfl) hsecond⟩
    · exact ⟨'<', ['='], rfl, fun _ => rfl⟩
    · exact ⟨'>', ['='], rfl, fun _ => rfl⟩
    · exact ⟨'<', ['>'], rfl, fun _ => rfl⟩
    · exact ⟨'!', ['='], rfl, fun _ => rfl⟩
  | eof => exact absurd rfl hword
  | _ =>
    dsimp only [Word.Lexical, TokenKind.sign] at h
    subst h
    exact ⟨_, [], rfl, fun _ => rfl⟩

/-! ## Texts -/

theorem tokensFrom_of_piece {piece : Piece} {tokens : List Token} (hpiece : pieceAt place c rest = .ok piece)
    (hrest : tokensFrom (place.after (c :: rest.take piece.extra)) (rest.drop piece.extra) = .ok tokens) :
    tokensFrom place (c :: rest) = .ok (match piece.token with
      | some (kind, lexeme) => ⟨kind, lexeme, place⟩ :: tokens
      | none => tokens) := by
  rw [tokensFrom, hpiece]
  simp only [hrest]
  cases piece.token <;> rfl

/-- Words with one blank between them. -/
def spelling (words : List Word) : List Char := [' '].intercalate (words.map Word.spelled)

def spell (words : List Word) : String := String.ofList (spelling words)

theorem tokensFrom_spelled {word : Word} {words : List Word} (h : word.Lexical)
    (hword : word.kind ≠ .eof) (hrest : Spaced rest)
    (htokens : ∀ place, ∃ tokens, tokensFrom place rest = .ok tokens ∧ tokens.map Token.word = words)
    (place : Position) : ∃ tokens, tokensFrom place (word.spelled ++ rest) = .ok tokens ∧
      tokens.map Token.word = word :: words := by
  obtain ⟨c, tail, heq, hpiece⟩ := pieceAt_spelled h hword hrest
  obtain ⟨tokens, hrun, hwords⟩ := htokens (place.after (c :: tail))
  have htake : (tail ++ rest).take tail.length = tail := List.take_left
  have hdrop : (tail ++ rest).drop tail.length = rest := List.drop_left
  refine ⟨⟨word.kind, word.lexeme, place⟩ :: tokens, ?_, congrArg (word :: ·) hwords⟩
  rw [heq]
  exact tokensFrom_of_piece (hpiece place) (by rw [htake, hdrop, hrun])

theorem spelling_cons_cons (word next : Word) (words : List Word) :
    spelling (word :: next :: words) = word.spelled ++ ' ' :: spelling (next :: words) := by
  simp [spelling, List.intercalate]

theorem tokensFrom_spelling {words : List Word} (h : AllSpoken words)
    (place : Position) : ∃ tokens, tokensFrom place (spelling words) = .ok tokens ∧
      tokens.map Token.word = words ++ [.last] := by
  induction words generalizing place with
  | nil =>
    refine ⟨[⟨.eof, "", place⟩], ?_, rfl⟩
    exact tokensFrom.eq_1 place
  | cons word words ih =>
    obtain ⟨hword, hwords⟩ := List.forall_mem_cons.1 h
    cases words with
    | nil =>
      have hend (place : Position) : ∃ tokens, tokensFrom place [] = .ok tokens ∧
          tokens.map Token.word = [.last] := ⟨_, tokensFrom.eq_1 place, rfl⟩
      have hnil : Spaced [] := by rintro _ ⟨⟩
      exact tokensFrom_spelled hword.1 hword.2 hnil hend place
    | cons next words =>
      rw [spelling_cons_cons]
      refine tokensFrom_spelled hword.1 hword.2 (by rintro _ ⟨⟩; rfl) (fun place => ?_) place
      obtain ⟨tokens, hrun, htokens⟩ := ih hwords (place.after [' '])
      exact ⟨tokens, tokensFrom_of_piece (pieceAt_blank place _) hrun, htokens⟩

/-- **The tokens of a spelling are the words that were spelled.** -/
theorem tokenize_spell {words : List Word} (h : AllSpoken words) :
    ∃ tokens, tokenize (spell words) = .ok tokens ∧ tokens.map Token.word = words ++ [.last] := by
  rw [tokenize, spell, String.toList_ofList]
  exact tokensFrom_spelling h .start

/-! ## Tokens of texts -/

theorem numberTail_cases (rest : List Char) : numberTail rest = rest.takeWhile isDigit ∨
    ∃ more, AreDigits more ∧ numberTail rest = rest.takeWhile isDigit ++ '.' :: more := by
  rw [numberTail]
  split
  next c more heq =>
    split
    next hc =>
      refine .inr ⟨_, ⟨?_, fun d hd => List.mem_takeWhile_imp hd⟩, rfl⟩
      rw [List.takeWhile_cons_of_pos hc]
      exact List.cons_ne_nil _ _
    next => exact .inl rfl
  next => exact .inl rfl

theorem isNumeral_of_start (h : isDigit c = true ∨ c = '-' ∧ rest.head?.any isDigit = true) :
    IsNumeral (c :: numberTail rest) := by
  have hwhole : ∀ d ∈ rest.takeWhile isDigit, isDigit d = true := fun d hd => List.mem_takeWhile_imp hd
  rcases h with hc | ⟨rfl, hrest⟩
  · have hdigits : AreDigits (c :: rest.takeWhile isDigit) :=
      ⟨List.cons_ne_nil _ _, List.forall_mem_cons.2 ⟨hc, hwhole⟩⟩
    rcases numberTail_cases rest with heq | ⟨more, hmore, heq⟩
    · exact heq ▸ .whole hdigits
    · exact heq ▸ .fraction hdigits hmore
  · have hdigits : AreDigits (rest.takeWhile isDigit) := by
      refine ⟨?_, hwhole⟩
      cases rest with
      | nil => cases hrest
      | cons d others =>
        rw [List.takeWhile_cons_of_pos (show isDigit d = true from hrest)]
        exact List.cons_ne_nil _ _
    rcases numberTail_cases rest with heq | ⟨more, hmore, heq⟩
    · exact heq ▸ .negativeWhole hdigits
    · exact heq ▸ .negativeFraction hdigits hmore

theorem lexical_of_tokenAt {kind : TokenKind} {lexeme : String} (h : TokenAt c rest kind lexeme) :
    Word.Lexical ⟨kind, lexeme⟩ := by
  cases h with
  | string _ => trivial
  | number h =>
    show IsNumeral (String.ofList _).toList
    rw [String.toList_ofList]
    exact isNumeral_of_start h
  | word hc hword =>
    rw [wordToken] at hword
    split at hword
    next hkeyword =>
      obtain ⟨rfl, rfl⟩ := Prod.mk.inj hword
      exact hkeyword
    next hother =>
      obtain ⟨rfl, rfl⟩ := Prod.mk.inj hword
      refine ⟨⟨c, _, String.toList_ofList, hc, fun d hd => List.mem_takeWhile_imp hd⟩, ?_⟩
      rwa [String.toList_ofList]
  | comparison h => exact h
  | punctuation h =>
    rw [punctuation?.eq_def] at h
    split at h <;> cases h <;> rfl

theorem lexical_tokenize {sql : String} {tokens : List Token} (h : tokenize sql = .ok tokens) :
    AreLexical tokens :=
  forall_tokensFrom (fun _ => True) (fun _ _ => trivial) (fun _ => rfl)
    (fun _ hpiece _ => lexical_of_tokenAt hpiece) trivial h

end RelStore.Sql
