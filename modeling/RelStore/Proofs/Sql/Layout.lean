/-
Where the words of a text stand.

A text is laid out as words with blanks and comments between them (`Laid`): at each place the longest
word is read that the text goes on with (`Word.Reads`). The tokens of a text are the words of its
layout, each at the place that the characters before it lead to, and a text that has no tokens is
laid out up to the place that it is refused for, where no word begins (`tokenize_layout`).

The other way round, words that are spelled with a blank between them are read back, and no others
are (`tokenize_spell_iff`).
-/
import Mathlib.Data.List.DropRight
import RelStore.Proofs.Sql.LetterCase

namespace RelStore

/-! ## Places -/

/-- The place after the characters at the start of a text: how many units they have, and, one more
than there are, the line breaks in them and the units since the last of these. -/
def Position.behind (text : List Char) : Position :=
  ⟨(text.flatMap Text.unitsOf).length, text.count '\n' + 1,
    ((text.rtakeWhile (· != '\n')).flatMap Text.unitsOf).length + 1⟩

theorem Position.after_start (text : List Char) : Position.start.after text = behind text := by
  induction text using List.reverseRecOn with
  | nil => rfl
  | append_singleton text c ih =>
    rw [after_append, ih, behind, behind, List.flatMap_append, List.length_append, List.count_append,
      List.rtakeWhile_concat]
    by_cases hc : c = '\n'
    · subst hc
      rw [Nat.add_right_comm]
      rfl
    · have hnot : (c == '\n') = false := beq_false_of_ne hc
      have hone : [c].count '\n' = 0 := by simp [hc]
      have hunits : ([c].flatMap Text.unitsOf).length = Text.unitCount c := by
        rw [List.flatMap_singleton, Text.length_unitsOf]
      rw [if_pos (by simp [hc]), List.flatMap_append, List.length_append, hunits, hone]
      simp only [after, List.foldl_cons, List.foldl_nil, next, hnot, Bool.false_eq_true, if_false]
      rw [Nat.add_zero, Nat.add_right_comm]

theorem Position.after_behind (before text : List Char) :
    (behind before).after text = behind (before ++ text) := by
  rw [← after_start, ← after_start, after_append]

theorem Position.behind_lt (before : List Char) {text : List Char} (htext : text ≠ []) :
    (behind before).offset < (behind (before ++ text)).offset := by
  obtain ⟨c, rest, rfl⟩ := List.exists_cons_of_ne_nil htext
  have hunits : 0 < (Text.unitsOf c).length := by
    rw [Text.length_unitsOf, Text.unitCount]
    split <;> decide
  simp only [behind, List.flatMap_append, List.flatMap_cons, List.length_append]
  omega

theorem Text.sameLetter_toUpper (c : Char) : SameLetter c c.toUpper := by
  by_cases hc : c.toNat < 128
  · exact of_ascii (P := fun c => c.toLower = c.toUpper.toLower) (by decide +kernel) hc
  · have hlower : ¬ (c.val ≥ 'a'.val ∧ c.val ≤ 'z'.val) := fun hle =>
      hc (Nat.lt_of_le_of_lt (UInt32.le_iff_toNat_le.1 hle.2) (by decide))
    have hupper : c.toUpper = c := dif_neg hlower
    rw [SameLetter, hupper]

namespace Sql

open List (Forall₂)
open Text (SameLetter)

variable {c : Char} {rest text after before sql : List Char} {place : Position} {word : Word}
  {tokens : List Token}

/-! ## Words in a text -/

/-- The characters spell the word, a keyword in any letter case. -/
def Word.SpelledBy (word : Word) (text : List Char) : Prop :=
  if word.kind = .keyword then Forall₂ SameLetter text word.lexeme.toList else text = word.spelled

/-- A text begins with the word, spelled by some characters, and goes on after them: a string ends
in a quote that is not doubled. -/
structure Word.Begins (word : Word) (text after : List Char) : Prop where
  spoken : word.Spoken
  spelled : word.SpelledBy text
  closed : word.kind = .string → after.head? ≠ some '\''

/-- No word that the text begins with is longer. -/
structure Word.Reads (word : Word) (text after : List Char) : Prop extends word.Begins text after where
  longest : ∀ {other : Word} {text' after' : List Char}, text' ++ after' = text ++ after →
    other.Begins text' after' → text'.length ≤ text.length

theorem length_le_takeWhile {p : Char → Bool} (h : ∀ c ∈ text, p c = true) (after : List Char) :
    text.length ≤ ((text ++ after).takeWhile p).length := by
  rw [List.takeWhile_append_of_pos h, List.length_append]
  exact Nat.le_add_right _ _

/-- A number that the text begins with is not longer than the one that is read. -/
theorem IsNumeral.length_le_numberTail (h : IsNumeral text) (after : List Char) :
    ∃ c tail, text = c :: tail ∧ tail.length ≤ (numberTail (tail ++ after)).length ∧
      (isDigit c = true ∨ c = '-' ∧ (tail ++ after).head?.any isDigit = true) := by
  obtain ⟨c, digits, fraction, rfl, hdigits, hc, hfraction⟩ := h.exists_parts
  refine ⟨c, _, rfl, ?_, hc.imp_right (And.imp_right fun hhead => any_head?_append (any_head?_append hhead _) _)⟩
  rcases hfraction with rfl | ⟨more, hmore, rfl⟩
  · have hle := length_le_takeWhile hdigits after
    rw [List.append_nil]
    rcases numberTail_cases (digits ++ after) with heq | ⟨more, -, heq⟩
    · rwa [heq]
    · rw [heq, List.length_append]
      omega
  · have hle := length_le_takeWhile hmore.2 after
    rw [List.append_assoc, List.cons_append, numberTail_fraction hdigits hmore]
    simp only [List.length_append, List.length_cons]
    omega

/-- A keyword in any letter case is a run of word characters. -/
theorem wordChars_of_sameLetters {lexeme : String} (h : Forall₂ SameLetter text lexeme.toList)
    (hkeyword : lexeme ∈ keywords) :
    ∃ c tail, text = c :: tail ∧ isWordStart c = true ∧ ∀ d ∈ tail, isWordChar d = true := by
  obtain ⟨c, tail, heq, hc, htail, -⟩ := keyword_cons hkeyword
  rw [heq] at h
  obtain ⟨d, text, hcd, htext, rfl⟩ := List.forall₂_cons_right_iff.1 h
  have hmap : text.map isWordChar = tail.map isWordChar := Text.map_congr_of_sameLetters htext (by decide +kernel)
  have hall : ∀ known ∈ text.map isWordChar, known = true := hmap ▸ List.forall_mem_map.2 htail
  exact ⟨d, text, rfl, (hcd.congr (by decide +kernel)).trans hc, List.forall_mem_map.1 hall⟩

/-- **A text that begins with a word is read as some word that is no shorter.** -/
theorem Word.Begins.exists_piece (h : word.Begins text after) : ∃ c tail, text = c :: tail ∧
    ∀ place, ∃ token extra, pieceAt place c (tail ++ after) = .ok ⟨some token, extra⟩ ∧ tail.length ≤ extra := by
  obtain ⟨⟨hlexical, hword⟩, hspelled, hclosed⟩ := h
  obtain ⟨kind, lexeme⟩ := word
  have hwordChars (h : ∃ c tail, text = c :: tail ∧ isWordStart c = true ∧ ∀ d ∈ tail, isWordChar d = true) :
      ∃ c tail, text = c :: tail ∧ ∀ place, ∃ token extra,
        pieceAt place c (tail ++ after) = .ok ⟨some token, extra⟩ ∧ tail.length ≤ extra := by
    obtain ⟨c, tail, rfl, hc, htail⟩ := h
    exact ⟨c, tail, rfl, fun place => ⟨_, _, pieceAt_wordStart hc, length_le_takeWhile htail after⟩⟩
  cases kind with
  | string =>
    obtain rfl : text = '\'' :: (doubled lexeme.toList ++ ['\'']) := hspelled
    have hread := readQuoted_doubled lexeme.toList (hclosed rfl)
    refine ⟨'\'', _, rfl, fun place =>
      ⟨(.string, String.ofList lexeme.toList), (doubled lexeme.toList).length + 1, ?_, ?_⟩⟩
    · rw [List.append_assoc, List.singleton_append]
      exact pieceAt_quoted hread
    · rw [List.length_append, List.length_singleton]
  | number =>
    obtain rfl : text = lexeme.toList := hspelled
    obtain ⟨c, tail, heq, hle, hc⟩ := IsNumeral.length_le_numberTail hlexical after
    refine ⟨c, tail, heq, fun place => ?_⟩
    rcases hc with hc | ⟨rfl, hhead⟩
    · exact ⟨_, _, pieceAt_digit hc, hle⟩
    · exact ⟨_, _, pieceAt_hyphen hhead, hle⟩
  | keyword => exact hwordChars (wordChars_of_sameLetters hspelled hlexical)
  | identifier =>
    obtain rfl : text = lexeme.toList := hspelled
    exact hwordChars hlexical.start
  | comparison =>
    obtain rfl : text = lexeme.toList := hspelled
    have hangle {c : Char} (hc : c = '<' ∨ c = '>') (place : Position) : ∃ token extra,
        pieceAt place c after = .ok ⟨some token, extra⟩ ∧ 0 ≤ extra := by
      cases hsecond : comparisonSecond? c after with
      | none => exact ⟨_, _, pieceAt_comparison hc hsecond, Nat.zero_le _⟩
      | some second => exact ⟨_, _, pieceAt_second (hc.imp_right .inl) hsecond, Nat.zero_le _⟩
    have hmem : lexeme ∈ ["<", ">", "<=", ">=", "<>", "!="] := hlexical
    simp only [List.mem_cons, List.not_mem_nil, or_false] at hmem
    rcases hmem with rfl | rfl | rfl | rfl | rfl | rfl
    · exact ⟨'<', [], rfl, hangle (.inl rfl)⟩
    · exact ⟨'>', [], rfl, hangle (.inr rfl)⟩
    · exact ⟨'<', ['='], rfl, fun _ => ⟨_, _, rfl, Nat.le_refl _⟩⟩
    · exact ⟨'>', ['='], rfl, fun _ => ⟨_, _, rfl, Nat.le_refl _⟩⟩
    · exact ⟨'<', ['>'], rfl, fun _ => ⟨_, _, rfl, Nat.le_refl _⟩⟩
    · exact ⟨'!', ['='], rfl, fun _ => ⟨_, _, rfl, Nat.le_refl _⟩⟩
  | eof => exact absurd rfl hword
  | _ =>
    obtain rfl : text = lexeme.toList := hspelled
    dsimp only [Word.Lexical, TokenKind.sign] at hlexical
    subst hlexical
    exact ⟨_, [], rfl, fun _ => ⟨_, _, rfl, Nat.le_refl _⟩⟩

/-- A run of word characters spells the token that it is. -/
theorem spelledBy_wordToken {kind : TokenKind} {lexeme : String} (h : wordToken text = (kind, lexeme)) :
    kind ≠ .string ∧ Word.SpelledBy ⟨kind, lexeme⟩ text := by
  rw [wordToken] at h
  split at h
  next =>
    obtain ⟨rfl, rfl⟩ := Prod.mk.inj h
    refine ⟨by decide, ?_⟩
    show Forall₂ SameLetter text (String.ofList (text.map Char.toUpper)).toList
    rw [String.toList_ofList, List.forall₂_map_right_iff]
    exact List.forall₂_same.2 fun c _ => Text.sameLetter_toUpper c
  next =>
    obtain ⟨rfl, rfl⟩ := Prod.mk.inj h
    exact ⟨by decide, String.toList_ofList.symm⟩

/-- **A token is a word that the text begins with.** -/
theorem begins_of_pieceAt {piece : Piece} (h : pieceAt place c rest = .ok piece)
    (htoken : piece.token = some (word.kind, word.lexeme)) :
    word.Begins (c :: rest.take piece.extra) (rest.drop piece.extra) := by
  have hspoken : word.Spoken := by
    refine ⟨lexical_of_tokenAt (tokenAt_of_pieceAt h htoken), ?_⟩
    refine Piece.tokensAt_ne_eof h ⟨word.kind, word.lexeme, place⟩ ?_
    rw [Piece.tokensAt, htoken]
    exact List.mem_singleton_self _
  obtain ⟨kind, lexeme⟩ := word
  have hplain (hkind : kind ≠ .string) (hspelled : Word.SpelledBy ⟨kind, lexeme⟩ (c :: rest.take piece.extra)) :
      Word.Begins ⟨kind, lexeme⟩ (c :: rest.take piece.extra) (rest.drop piece.extra) :=
    ⟨hspoken, hspelled, fun heq => absurd heq hkind⟩
  cases pieceAt_cases h with
  | gap => cases htoken
  | comment => cases htoken
  | @string content _ hc hquoted =>
    obtain ⟨rfl, rfl⟩ := Prod.mk.inj (Option.some.inj htoken)
    obtain ⟨after, rfl, hafter, rfl⟩ := eq_doubled_of_readQuoted hquoted
    have htext : doubled content ++ '\'' :: after = doubled content ++ ['\''] ++ after := by simp
    have hlength : (doubled content).length + 1 = (doubled content ++ ['\'']).length := by simp
    rw [htext, hlength, List.take_left, List.drop_left, hc]
    refine ⟨hspoken, ?_, fun _ => hafter⟩
    show _ = '\'' :: (doubled (String.ofList content).toList ++ ['\''])
    rw [String.toList_ofList]
  | number =>
    obtain ⟨rfl, rfl⟩ := Prod.mk.inj (Option.some.inj htoken)
    refine hplain (by decide) ?_
    rw [← List.prefix_iff_eq_take.1 (numberTail_isPrefixOf rest)]
    exact String.toList_ofList.symm
  | word hstart =>
    obtain ⟨hkind, hspelled⟩ := spelledBy_wordToken (Option.some.inj htoken)
    refine hplain hkind ?_
    rwa [← List.prefix_iff_eq_take.1 (List.takeWhile_prefix isWordChar)]
  | @twoSigns second _ hsecond =>
    obtain ⟨rfl, rfl⟩ := Prod.mk.inj (Option.some.inj htoken)
    obtain ⟨⟨others, rfl⟩, -⟩ := comparisonSecond?_eq_some hsecond
    exact hplain (by decide) String.toList_ofList.symm
  | oneSign hsign =>
    obtain ⟨rfl, rfl⟩ := Prod.mk.inj (Option.some.inj htoken)
    refine hplain (by decide) ?_
    rcases hsign with rfl | rfl <;> rfl
  | punctuation hkind =>
    obtain ⟨rfl, rfl⟩ := Prod.mk.inj (Option.some.inj htoken)
    rw [punctuation?.eq_def] at hkind
    split at hkind <;> cases hkind <;> exact hplain (by decide) rfl

/-- **A token is the longest word that the text begins with.** -/
theorem reads_of_pieceAt {piece : Piece} (h : pieceAt place c rest = .ok piece)
    (htoken : piece.token = some (word.kind, word.lexeme)) :
    word.Reads (c :: rest.take piece.extra) (rest.drop piece.extra) := by
  refine ⟨begins_of_pieceAt h htoken, fun {other text' after'} htext hother => ?_⟩
  -- the other word is not longer than the piece that is read where it begins, and this is that piece
  obtain ⟨d, tail, rfl, hpiece⟩ := hother.exists_piece
  obtain ⟨token, extra, hread, hle⟩ := hpiece place
  rw [List.cons_append, List.cons_append, List.take_append_drop] at htext
  obtain ⟨rfl, rfl⟩ := List.cons.inj htext
  obtain rfl := Except.ok.inj (h.symm.trans hread)
  have hwithin := extra_pieceAt_le hread
  rw [List.length_cons, List.length_cons, List.length_take, Nat.min_eq_left hwithin]
  exact Nat.succ_le_succ hle

/-- No word begins where no piece can be read. -/
theorem not_begins_of_pieceAt {cause : Cause} (h : pieceAt place c rest = .error cause)
    (htext : text ++ after = c :: rest) : ¬ word.Begins text after := by
  intro hbegins
  obtain ⟨d, tail, rfl, hpiece⟩ := hbegins.exists_piece
  obtain ⟨token, extra, hread, -⟩ := hpiece place
  obtain ⟨rfl, rfl⟩ := List.cons.inj htext
  cases h.symm.trans hread

/-! ## One word at each place -/

/-- Characters that spell a word are read as it, where the text ends. -/
theorem Word.Spoken.pieceAt_eq (h : word.Spoken) (hspelled : word.SpelledBy text) : ∃ c tail, text = c :: tail ∧
    ∀ place, pieceAt place c tail = .ok ⟨some (word.kind, word.lexeme), tail.length⟩ := by
  have hend : Spaced [] := nofun
  obtain ⟨hlexical, hword⟩ := h
  by_cases hkind : word.kind = .keyword
  · obtain ⟨kind, lexeme⟩ := word
    subst hkind
    have hletters : Forall₂ SameLetter text lexeme.toList := hspelled
    have hkeyword : lexeme ∈ keywords := hlexical
    obtain ⟨c, tail, heq, hc, htail⟩ := wordChars_of_sameLetters hletters hkeyword
    obtain ⟨-, -, -, -, -, hupper⟩ := keyword_cons hkeyword
    have hmap := Text.map_congr_of_sameLetters (p := Char.toUpper) hletters (by decide +kernel)
    refine ⟨c, tail, heq, fun place => ?_⟩
    have htake := takeWhile_spaced hend (by decide) htail
    rw [List.append_nil] at htake
    rw [pieceAt_wordStart hc, htake, wordToken, ← heq, hmap, hupper, if_pos hkeyword]
  · rw [SpelledBy, if_neg hkind] at hspelled
    obtain ⟨c, tail, heq, hpiece⟩ := pieceAt_spelled hlexical hword hend
    exact ⟨c, tail, hspelled.trans heq, fun place => by rw [← hpiece place, List.append_nil]⟩

theorem Word.Spoken.unique {other : Word} (h : word.Spoken) (hother : other.Spoken)
    (hspelled : word.SpelledBy text) (hspelled' : other.SpelledBy text) : word = other := by
  obtain ⟨c, tail, rfl, hpiece⟩ := h.pieceAt_eq hspelled
  obtain ⟨d, tail', heq, hpiece'⟩ := hother.pieceAt_eq hspelled'
  obtain ⟨rfl, rfl⟩ := List.cons.inj heq
  have htoken := congrArg Piece.token (Except.ok.inj ((hpiece .start).symm.trans (hpiece' .start)))
  obtain ⟨hkind, hlexeme⟩ := Prod.mk.inj (Option.some.inj htoken)
  exact (Word.mk.injEq ..).mpr ⟨hkind, hlexeme⟩

/-- **The longest word that the text begins with is the token there.** -/
theorem Word.Reads.pieceAt_eq (h : word.Reads text after) : ∃ c tail, text = c :: tail ∧
    ∀ place, pieceAt place c (tail ++ after) = .ok ⟨some (word.kind, word.lexeme), tail.length⟩ := by
  obtain ⟨c, tail, rfl, hpiece⟩ := h.exists_piece
  refine ⟨c, tail, rfl, fun place => ?_⟩
  obtain ⟨⟨kind, lexeme⟩, extra, hread, hle⟩ := hpiece place
  -- what is read is a word too, so that it is no longer, and the same characters spell both
  have hother : Word.Begins ⟨kind, lexeme⟩ _ _ := begins_of_pieceAt hread rfl
  have hlongest := h.longest (congrArg (c :: ·) (List.take_append_drop extra (tail ++ after))) hother
  have hwithin := extra_pieceAt_le hread
  rw [List.length_cons, List.length_cons, List.length_take, Nat.min_eq_left hwithin] at hlongest
  obtain rfl : extra = tail.length := Nat.le_antisymm (Nat.le_of_succ_le_succ hlongest) hle
  have hspelled := hother.spelled
  rw [List.take_left] at hspelled
  obtain rfl := h.spoken.unique hother.spoken h.spelled hspelled
  exact hread

/-! ## Layouts -/

/-- A text is laid out up to a place, which the characters before it lead to: they are blanks, comments
up to the ends of their lines, and words, of which the tokens are made. -/
inductive Laid (sql : List Char) : List Char → List Token → Prop where
  | start : Laid sql [] []
  | gap {before after : List Char} {c : Char} {tokens : List Token} (h : Laid sql before tokens)
    (hsql : before ++ [c] ++ after = sql) (hc : isGap c = true) : Laid sql (before ++ [c]) tokens
  | comment {before body after : List Char} {tokens : List Token} (h : Laid sql before tokens)
    (hsql : before ++ '-' :: '-' :: body ++ after = sql) (hbody : '\n' ∉ body)
    (hafter : ∀ c ∈ after.head?, c = '\n') : Laid sql (before ++ '-' :: '-' :: body) tokens
  | word {before text after : List Char} {tokens : List Token} {word : Word} (h : Laid sql before tokens)
    (hsql : before ++ text ++ after = sql) (hword : word.Reads text after) :
    Laid sql (before ++ text) (tokens ++ [⟨word.kind, word.lexeme, .behind before⟩])

/-- Nothing begins here: no blank, no comment and no word. -/
structure Refused (c : Char) (rest : List Char) : Prop where
  gap : isGap c = false
  comment : ¬ (c = '-' ∧ rest.head? = some '-')
  word : ∀ {word : Word} {text after : List Char}, text ++ after = c :: rest → ¬ word.Begins text after

theorem refused_iff : Refused c rest ↔ ∃ cause, pieceAt place c rest = .error cause := by
  constructor
  · intro h
    cases hread : pieceAt place c rest with
    | error cause => exact ⟨cause, rfl⟩
    | ok piece =>
      cases htoken : piece.token with
      | some token =>
        have hbegins : Word.Begins ⟨token.1, token.2⟩ _ _ := begins_of_pieceAt hread htoken
        exact absurd hbegins (h.word (congrArg (c :: ·) (List.take_append_drop _ _)))
      | none =>
        cases pieceAt_cases hread with
        | gap hc => exact absurd (hc.symm.trans h.gap) (by decide)
        | comment hc hrest => exact absurd ⟨hc, hrest⟩ h.comment
        | _ => cases htoken
  · rintro ⟨cause, h⟩
    obtain ⟨hgap, hcomment, -⟩ := pieceAt_error h
    exact ⟨hgap, hcomment, not_begins_of_pieceAt h⟩

/-- The rest of a line and what comes below it. -/
theorem exists_line (text : List Char) : ∃ line after, text = line ++ after ∧
    text.takeWhile (· != '\n') = line ∧ '\n' ∉ line ∧ ∀ c ∈ after.head?, c = '\n' := by
  refine ⟨_, _, List.takeWhile_append_dropWhile.symm, rfl, fun hbreak => ?_, fun c hc => ?_⟩
  · exact absurd (List.mem_takeWhile_imp hbreak) (by decide)
  · have hhead := List.head?_dropWhile_not (· != '\n') text
    rw [hc] at hhead
    simpa using hhead

theorem takeWhile_line {line : List Char} (hline : '\n' ∉ line) (hafter : ∀ c ∈ after.head?, c = '\n') :
    (line ++ after).takeWhile (· != '\n') = line := by
  have hstops : ∀ d ∈ after.head?, (d != '\n') = false := fun d hd => by simp [hafter d hd]
  rw [takeWhile_append_of_stops _ hstops, List.takeWhile_eq_self_iff]
  intro d hd
  simpa using ne_of_mem_of_not_mem hd hline

theorem append_cons_take_drop (before : List Char) (c : Char) (rest : List Char) (n : Nat) :
    before ++ c :: rest.take n ++ rest.drop n = before ++ c :: rest := by
  rw [List.append_assoc, List.cons_append, List.take_append_drop]

/-- A piece that is read goes on with a layout. -/
theorem Laid.step {piece : Piece} (h : Laid sql before tokens) (hsql : before ++ c :: rest = sql)
    (hread : pieceAt (.behind before) c rest = .ok piece) :
    Laid sql (before ++ c :: rest.take piece.extra) (tokens ++ piece.tokensAt (.behind before)) := by
  have hwhole := (append_cons_take_drop before c rest piece.extra).trans hsql
  rw [Piece.tokensAt]
  split
  next kind lexeme htoken =>
    have hreads : Word.Reads ⟨kind, lexeme⟩ _ _ := reads_of_pieceAt hread htoken
    exact .word h hwhole hreads
  next htoken =>
    rw [List.append_nil]
    cases pieceAt_cases hread with
    | gap hc => exact .gap h hwhole hc
    | comment hc hrest =>
      obtain ⟨others, rfl⟩ := List.head?_eq_some_iff.1 hrest
      obtain ⟨line, after, rfl, hline, hbreak, hafter⟩ := exists_line others
      have hlength : (('-' :: (line ++ after)).takeWhile (· != '\n')).length = line.length + 1 :=
        congrArg List.length ((List.takeWhile_cons_of_pos rfl).trans (congrArg ('-' :: ·) hline))
      simp only [hlength, List.take_succ_cons, List.drop_succ_cons, List.take_left, List.drop_left] at hwhole ⊢
      subst hc
      exact .comment h hwhole hbreak hafter
    | _ => cases htoken

theorem pairwise_concat {offsets : List Nat} {last next : Nat} (h : (offsets ++ [last]).Pairwise (· < ·))
    (hnext : last < next) : (offsets ++ [last] ++ [next]).Pairwise (· < ·) := by
  rw [List.pairwise_append] at h ⊢
  refine ⟨List.pairwise_append.2 h, List.pairwise_singleton .., fun offset hoffset _ hlast => ?_⟩
  obtain rfl := List.mem_singleton.1 hlast
  rcases List.mem_append.1 hoffset with hoffset | hoffset
  · exact Nat.lt_trans (h.2.2 offset hoffset last (List.mem_singleton_self _)) hnext
  · exact List.mem_singleton.1 hoffset ▸ hnext

/-- Places go up. -/
theorem Laid.pairwise (h : Laid sql before tokens) :
    (tokens.map (·.place.offset) ++ [(Position.behind before).offset]).Pairwise (· < ·) := by
  have hwithout {offsets : List Nat} {last next : Nat} : (offsets ++ [next]).Sublist (offsets ++ [last] ++ [next]) :=
    (List.sublist_append_left _ _).append_right _
  induction h with
  | start => exact List.pairwise_singleton ..
  | gap _ _ _ ih => exact (pairwise_concat ih (Position.behind_lt _ (List.cons_ne_nil _ _))).sublist hwithout
  | comment _ _ _ _ ih =>
    exact (pairwise_concat ih (Position.behind_lt _ (List.cons_ne_nil _ _))).sublist hwithout
  | word _ _ hword ih =>
    obtain ⟨c, tail, rfl, -⟩ := hword.exists_piece
    rw [List.map_append]
    exact pairwise_concat ih (Position.behind_lt _ (List.cons_ne_nil _ _))

theorem tokensFrom_piece {tail : List Char} {token : Option (TokenKind × String)}
    (hpiece : pieceAt (.behind before) c (tail ++ after) = .ok ⟨token, tail.length⟩) :
    tokensFrom (.behind before) (c :: (tail ++ after)) = (tokensFrom (.behind (before ++ c :: tail)) after).map
      (Piece.tokensAt ⟨token, tail.length⟩ (.behind before) ++ ·) := by
  rw [tokensFrom_cons hpiece, List.take_left, List.drop_left, Position.after_behind]

/-- **The tokens of a text are those of a layout and those after it.** -/
theorem Laid.tokensFrom_eq (h : Laid sql before tokens) (hsql : before ++ after = sql) :
    tokensFrom .start sql = (tokensFrom (.behind before) after).map (tokens ++ ·) := by
  have hmap {read others : List Token} {result : Except Cause (List Token)} :
      (result.map (others ++ ·)).map (read ++ ·) = result.map (read ++ others ++ ·) := by
    cases result with
    | error cause => rfl
    | ok tokens => exact congrArg Except.ok (List.append_assoc ..).symm
  induction h generalizing after with
  | start =>
    obtain rfl : after = sql := hsql
    exact (congrFun Except.map_id _).symm
  | @gap before following c tokens _ hwhole hc ih =>
    obtain rfl := List.append_cancel_left (hwhole.trans hsql.symm)
    have hpiece : pieceAt (.behind before) c ([] ++ following) = .ok ⟨none, ([] : List Char).length⟩ := if_pos hc
    rw [@ih (c :: ([] ++ following)) (by simpa using hsql), tokensFrom_piece hpiece, hmap, Piece.tokensAt,
      List.append_nil]
  | @comment before body following tokens _ hwhole hbody hafter ih =>
    obtain rfl := List.append_cancel_left (hwhole.trans hsql.symm)
    have hline : '\n' ∉ '-' :: body := List.not_mem_cons_of_ne_of_not_mem (by decide) hbody
    have hpiece : pieceAt (.behind before) '-' ('-' :: body ++ following) = .ok ⟨none, ('-' :: body).length⟩ := by
      rw [pieceAt_comment rfl, takeWhile_line hline hafter]
    rw [@ih ('-' :: ('-' :: body ++ following)) (by simpa using hsql), tokensFrom_piece hpiece, hmap,
      Piece.tokensAt, List.append_nil]
  | @word before text following tokens word _ hwhole hword ih =>
    obtain rfl := List.append_cancel_left (hwhole.trans hsql.symm)
    obtain ⟨c, tail, rfl, hpiece⟩ := hword.pieceAt_eq
    rw [@ih (c :: (tail ++ following)) (by simpa using hsql), tokensFrom_piece (hpiece _), hmap]
    rfl

/-- A text that is scanned to its end is laid out. -/
theorem Scans.exists_laid {others : List Token} (hscans : Scans place text others) (h : Laid sql before tokens)
    (hsql : before ++ text = sql) (hplace : place = .behind before) :
    ∃ words, Laid sql sql (tokens ++ words) ∧ others = words ++ [⟨.eof, "", .behind sql⟩] := by
  induction hscans generalizing before tokens with
  | done place =>
    rw [List.append_nil] at hsql
    subst hsql
    exact ⟨[], by rwa [List.append_nil], by rw [hplace, List.nil_append]⟩
  | @step place c rest piece others hpiece _ ih =>
    subst hplace
    obtain ⟨words, hwords, rfl⟩ := ih (h.step hsql hpiece) (by rw [append_cons_take_drop, hsql])
      (Position.after_behind before _)
    exact ⟨piece.tokensAt _ ++ words, by rwa [← List.append_assoc], (List.append_assoc ..).symm⟩

/-- A text that is refused is laid out up to the piece that it is refused for. -/
theorem exists_laid_of_error {cause : Cause} (hcause : tokensFrom place text = .error cause)
    (h : Laid sql before tokens) (hsql : before ++ text = sql) (hplace : place = .behind before) :
    ∃ before c rest words, before ++ c :: rest = sql ∧ Laid sql before words ∧
      pieceAt (.behind before) c rest = .error cause := by
  induction place, text using tokensFrom.induct generalizing before tokens with
  | case1 place =>
    rw [tokensFrom] at hcause
    cases hcause
  | case2 place c rest found hfailed =>
    rw [tokensFrom, hfailed] at hcause
    obtain rfl := Except.error.inj hcause
    exact ⟨before, c, rest, tokens, hsql, h, hplace ▸ hfailed⟩
  | case3 place c rest piece hread found hrest ih =>
    rw [tokensFrom_cons hread, hrest] at hcause
    obtain rfl := Except.error.inj hcause
    subst hplace
    exact ih hrest (h.step hsql hread) (by rw [append_cons_take_drop, hsql]) (Position.after_behind before _)
  | case4 place c rest piece hread others hrest _ _ _ _ =>
    rw [tokensFrom_cons hread, hrest] at hcause
    cases hcause
  | case5 place c rest piece hread others hrest _ _ =>
    rw [tokensFrom_cons hread, hrest] at hcause
    cases hcause

/-- **The layout of a text.** Its tokens, whose places go up, are the words of its layout and the end of
the text. It is refused for the character that its layout does not go on with: a quote that starts a
string without an end, or one that nothing begins with. -/
theorem tokenize_layout (sql : String) :
    (∀ tokens, tokenize sql = .ok tokens ↔ ∃ words, Laid sql.toList sql.toList words ∧
      tokens = words ++ [⟨.eof, "", .behind sql.toList⟩] ∧ tokens.Pairwise (·.place.offset < ·.place.offset)) ∧
    ∀ cause, tokenize sql = .error cause ↔ ∃ before c rest words, before ++ c :: rest = sql.toList ∧
      Laid sql.toList before words ∧ Refused c rest ∧ cause.context.position = some (.behind before) ∧
      cause = if c = '\'' then .unterminatedString (.behind before)
        else .unexpectedCharacter (Text.firstUnit c) (.behind before) := by
  constructor
  · intro tokens
    constructor
    · intro h
      obtain ⟨words, hwords, rfl⟩ := (scans_iff.2 h).exists_laid .start rfl rfl
      refine ⟨words, hwords, rfl, ?_⟩
      have hpairwise := hwords.pairwise
      rw [List.nil_append] at hpairwise
      rwa [← List.pairwise_map, List.map_append]
    · rintro ⟨words, hwords, rfl, -⟩
      rw [tokenize, hwords.tokensFrom_eq (List.append_nil _), tokensFrom]
      rfl
  · intro cause
    constructor
    · intro h
      obtain ⟨before, c, rest, words, hsql, hwords, hfailed⟩ := exists_laid_of_error h .start rfl rfl
      obtain ⟨-, -, hcause⟩ := pieceAt_error hfailed
      refine ⟨before, c, rest, words, hsql, hwords, refused_iff.2 ⟨cause, hfailed⟩, ?_, hcause⟩
      rw [hcause]
      split <;> rfl
    · rintro ⟨before, c, rest, words, hsql, hwords, hrefused, -, hcause⟩
      obtain ⟨found, hfailed⟩ := refused_iff.1 hrefused
      obtain ⟨-, -, hfound⟩ := pieceAt_error hfailed
      rw [tokenize, hwords.tokensFrom_eq hsql, tokensFrom, hfailed, hcause, ← hfound]
      rfl

/-! ## Spelled words -/

/-- **Words that are spelled with a blank between them are read back**, and no others are: no content of
a string gets out of its quotes. -/
theorem tokenize_spell_iff (words : List Word) :
    (∃ tokens, tokenize (spell words) = .ok tokens ∧ tokens.map Token.word = words ++ [.last]) ↔
      AllSpoken words := by
  refine ⟨?_, tokenize_spell⟩
  rintro ⟨tokens, htokens, hwords⟩
  have hlexical := lexical_tokenize htokens
  obtain ⟨read, hread, rfl⟩ := (scans_iff.2 htokens).ends
  rw [List.map_append] at hwords
  obtain rfl := List.append_inj_left' hwords rfl
  rintro word hword
  obtain ⟨token, htoken, rfl⟩ := List.mem_map.1 hword
  exact ⟨hlexical token (List.mem_append_left _ htoken), hread token htoken⟩

end Sql

end RelStore
