/-
The names and texts in the tokens of a SQL text.

An identifier is of plain letters, and so is a name that documents take. The content of a quoted
string has its characters side by side as they are in the text, but for quotes, so that no halves
meet in it that are apart in the text. `writable_tokenize` says both of all tokens.
-/
import Mathlib.Data.List.Chain
import Mathlib.Data.List.TakeWhile
import RelStore.Proofs.Storable

namespace RelStore

/-! ## Halves -/

namespace Text

/-- Two characters are the halves of one. -/
def arePair (c d : Char) : Bool := isHighHalf c && isLowHalf d && !isHalf (ofHalves c d)

/-- No characters that follow each other are the halves of one. -/
def HalvesApart (chars : List Char) : Prop := chars.IsChain fun c d => arePair c d = false

variable {chars : List Char} {c d : Char}

theorem length_joinHalves_le (chars : List Char) : (joinHalves chars).length ≤ chars.length := by
  induction chars using joinHalves.induct with
  | case1 => exact Nat.le_refl _
  | case2 => exact Nat.le_refl _
  | case3 c d rest hpair ih =>
    rw [joinHalves, if_pos hpair]
    simp only [List.length_cons]
    omega
  | case4 c d rest hpair ih =>
    rw [joinHalves, if_neg hpair]
    simp only [List.length_cons] at ih ⊢
    omega

theorem joinHalves_eq_self_iff : joinHalves chars = chars ↔ HalvesApart chars := by
  induction chars using joinHalves.induct with
  | case1 => exact iff_of_true rfl .nil
  | case2 c => exact iff_of_true rfl (.singleton c)
  | case3 c d rest hpair ih =>
    have hshort := length_joinHalves_le rest
    refine iff_of_false (fun heq => ?_) fun hapart => ?_
    · have hlength := congrArg List.length heq
      rw [joinHalves, if_pos hpair] at hlength
      simp only [List.length_cons] at hlength
      omega
    · have hnot := (List.isChain_cons_cons.1 hapart).1
      rw [arePair, hpair] at hnot
      cases hnot
  | case4 c d rest hpair ih =>
    have hnot : arePair c d = false := Bool.eq_false_iff.2 hpair
    rw [joinHalves, if_neg hpair, List.cons.injEq, ih, HalvesApart, HalvesApart,
      List.isChain_cons_cons]
    exact ⟨fun h => ⟨hnot, h.2⟩, fun h => ⟨rfl, h.2⟩⟩

end Text

theorem Json.joined_iff {s : String} : joined s = s ↔ Text.HalvesApart s.toList := by
  rw [← Text.joinHalves_eq_self_iff, joined, ← String.toList_inj, String.toList_ofList]

namespace Sql

open Text (HalvesApart arePair)

/-! ## Tokens -/

/-- What a token says can be written: identifiers are names, and strings are texts. -/
def Token.Writable (token : Token) : Prop :=
  match token.kind with
  | .identifier => IsName token.lexeme
  | .string => Json.joined token.lexeme = token.lexeme
  | _ => True

theorem isHalf_of_isWordChar {c : Char} (h : isWordChar c = true) : Text.isHalf c = false :=
  (Store.databaseNameChar (by rw [isDatabaseNameChar, h]; rfl)).2

theorem isWordChar_of_isWordStart {c : Char} (h : isWordStart c = true) : isWordChar c = true := by
  rw [isWordStart, Bool.or_eq_true] at h
  rw [isWordChar, Bool.or_eq_true, Bool.or_eq_true]
  exact h.imp_left .inl

theorem joined_of_wordChars {word : List Char} (h : ∀ c ∈ word, isWordChar c = true) :
    Json.joined (String.ofList word) = String.ofList word := by
  refine Json.joined_of_plain fun c hc => isHalf_of_isWordChar (h c ?_)
  rwa [String.toList_ofList] at hc

/-- A quoted string ends, or goes on with a character of the text. -/
theorem readQuoted_cases {text content : List Char} {size : Nat}
    (h : readQuoted text = some (content, size)) : content = [] ∨
      ∃ c rest inner size, text.head? = some c ∧ content = c :: inner ∧
        readQuoted rest = some (inner, size) ∧
        (rest = text.tail ∨ c = '\'' ∧ rest = text.tail.tail) := by
  cases text with
  | nil => cases h
  | cons c rest =>
    rw [readQuoted.eq_def] at h
    split at h
    next heq => cases heq
    next rest heq =>
      obtain ⟨rfl, rfl⟩ := List.cons.inj heq
      obtain ⟨⟨inner, size⟩, hinner, heq⟩ := Option.map_eq_some_iff.1 h
      obtain ⟨rfl, -⟩ := Prod.mk.inj heq
      exact .inr ⟨'\'', rest, inner, size, rfl, rfl, hinner, .inr ⟨rfl, rfl⟩⟩
    next heq =>
      obtain ⟨rfl, rfl⟩ := List.cons.inj heq
      split at h
      next =>
        obtain ⟨rfl, -⟩ := Prod.mk.inj (Option.some.inj h)
        exact .inl rfl
      next =>
        obtain ⟨⟨inner, size⟩, hinner, heq⟩ := Option.map_eq_some_iff.1 h
        obtain ⟨rfl, -⟩ := Prod.mk.inj heq
        exact .inr ⟨c, rest, inner, size, rfl, rfl, hinner, .inl rfl⟩

theorem halvesApart_readQuoted {text content : List Char} {size : Nat} (htext : HalvesApart text)
    (h : readQuoted text = some (content, size)) : HalvesApart content := by
  induction content generalizing text size with
  | nil => exact .nil
  | cons first inner ih =>
    rcases readQuoted_cases h with hnil | ⟨c, rest, _, size, hhead, heq, hinner, hrest⟩
    · cases hnil
    obtain ⟨rfl, rfl⟩ := List.cons.inj heq
    obtain ⟨text, rfl⟩ : ∃ others, text = first :: others := by
      cases text with
      | nil => cases hhead
      | cons d others => exact ⟨others, by rw [Option.some.inj hhead]⟩
    rcases hrest with rfl | ⟨rfl, rfl⟩
    · refine List.isChain_cons.2 ⟨fun d hd => ?_, ih htext.tail hinner⟩
      -- what follows in the string follows in the text
      rcases readQuoted_cases hinner with hnil | ⟨e, _, _, _, hhead, heq, -, -⟩
      · rw [hnil] at hd
        cases hd
      · rw [heq] at hd
        obtain rfl := Option.some.inj hd
        exact (List.isChain_cons.1 htext).1 e hhead
    · -- a quote is half of nothing
      exact List.isChain_cons.2 ⟨fun d _ => rfl, ih htext.tail.tail hinner⟩

theorem comparisonSecond?_eq_some {c second : Char} {rest : List Char}
    (h : comparisonSecond? c rest = some second) :
    (∃ others, rest = second :: others) ∧ (second = '=' ∨ c = '<' ∧ second = '>') := by
  rw [comparisonSecond?.eq_def] at h
  split at h
  next others =>
    obtain rfl := Option.some.inj h
    exact ⟨⟨others, rfl⟩, .inl rfl⟩
  next others =>
    split at h
    next hless =>
      obtain rfl := Option.some.inj h
      exact ⟨⟨others, rfl⟩, .inr ⟨beq_iff_eq.1 hless, rfl⟩⟩
    next => cases h
  next => cases h

/-- The pieces that a text can be read as at `c`, when it goes on with `rest`. -/
inductive PieceAt (c : Char) (rest : List Char) : Piece → Prop where
  | gap (hc : isGap c = true) : PieceAt c rest ⟨none, 0⟩
  | comment (hc : c = '-') (hrest : rest.head? = some '-') :
    PieceAt c rest ⟨none, (rest.takeWhile (· != '\n')).length⟩
  | string {content : List Char} {size : Nat} (hc : c = '\'') (h : readQuoted rest = some (content, size)) :
    PieceAt c rest ⟨some (.string, String.ofList content), size⟩
  | number (h : isDigit c = true ∨ c = '-' ∧ rest.head?.any isDigit = true) :
    PieceAt c rest ⟨some (.number, String.ofList (c :: numberTail rest)), (numberTail rest).length⟩
  | word (hc : isWordStart c = true) : PieceAt c rest
      ⟨some (wordToken (c :: rest.takeWhile isWordChar)), (rest.takeWhile isWordChar).length⟩
  | twoSigns {second : Char} (hc : c = '<' ∨ c = '>' ∨ c = '!') (h : comparisonSecond? c rest = some second) :
    PieceAt c rest ⟨some (.comparison, String.ofList [c, second]), 1⟩
  | oneSign (hc : c = '<' ∨ c = '>') : PieceAt c rest ⟨some (.comparison, c.toString), 0⟩
  | punctuation {kind : TokenKind} (h : punctuation? c = some kind) :
    PieceAt c rest ⟨some (kind, c.toString), 0⟩

theorem pieceAt_cases {place : Position} {c : Char} {rest : List Char} {piece : Piece}
    (h : pieceAt place c rest = .ok piece) : PieceAt c rest piece := by
  rw [pieceAt] at h
  split at h
  next hgap =>
    obtain rfl := Except.ok.inj h
    exact .gap hgap
  split at h
  next hcomment =>
    obtain rfl := Except.ok.inj h
    rw [Bool.and_eq_true, beq_iff_eq, beq_iff_eq] at hcomment
    exact .comment hcomment.1 hcomment.2
  split at h
  next hc =>
    split at h
    next hquoted =>
      obtain rfl := Except.ok.inj h
      exact .string (beq_iff_eq.1 hc) hquoted
    next => cases h
  split at h
  next hnumber =>
    obtain rfl := Except.ok.inj h
    rw [Bool.or_eq_true, Bool.and_eq_true, beq_iff_eq] at hnumber
    exact .number hnumber
  split at h
  next hstart =>
    obtain rfl := Except.ok.inj h
    exact .word hstart
  split at h
  next hsign =>
    rw [Bool.or_eq_true, Bool.or_eq_true, beq_iff_eq, beq_iff_eq, beq_iff_eq, or_assoc] at hsign
    split at h
    next second hsecond =>
      obtain rfl := Except.ok.inj h
      exact .twoSigns hsign hsecond
    next =>
      split at h
      next => cases h
      next hbang =>
        obtain rfl := Except.ok.inj h
        exact .oneSign (hsign.imp_right fun h => h.resolve_right (beq_iff_eq.not.1 hbang))
  split at h
  next kind hkind =>
    obtain rfl := Except.ok.inj h
    exact .punctuation hkind
  next => cases h

/-- Where no piece is read there are no blanks and no comment, and the text is refused for the character. -/
theorem pieceAt_error {place : Position} {c : Char} {rest : List Char} {cause : Cause}
    (h : pieceAt place c rest = .error cause) :
    isGap c = false ∧ ¬ (c = '-' ∧ rest.head? = some '-') ∧ cause =
      if c = '\'' then .unterminatedString place else .unexpectedCharacter (Text.firstUnit c) place := by
  rw [pieceAt] at h
  split at h
  next => cases h
  next hgap =>
  refine ⟨Bool.eq_false_iff.2 hgap, ?_⟩
  split at h
  next => cases h
  next hcomment =>
  rw [Bool.and_eq_true, beq_iff_eq, beq_iff_eq] at hcomment
  refine ⟨hcomment, ?_⟩
  split at h
  next hc =>
    split at h
    next => cases h
    next => rw [if_pos (beq_iff_eq.1 hc), Except.error.inj h]
  next hc =>
  rw [if_neg (beq_iff_eq.not.1 hc)]
  split at h
  next => cases h
  split at h
  next => cases h
  split at h
  next =>
    split at h
    next => cases h
    next =>
      split at h
      next hbang =>
        rw [beq_iff_eq.1 hbang]
        exact (Except.error.inj h).symm
      next => cases h
  next =>
    split at h
    next => cases h
    next => exact (Except.error.inj h).symm

/-- The tokens that a piece of text can be: the text goes on with `c` and then `rest`. -/
inductive TokenAt (c : Char) (rest : List Char) : TokenKind → String → Prop where
  | string {content : List Char} {size : Nat} (h : readQuoted rest = some (content, size)) :
    TokenAt c rest .string (String.ofList content)
  | number (h : isDigit c = true ∨ c = '-' ∧ rest.head?.any isDigit = true) :
    TokenAt c rest .number (String.ofList (c :: numberTail rest))
  | word {kind : TokenKind} {lexeme : String} (hc : isWordStart c = true)
    (h : wordToken (c :: rest.takeWhile isWordChar) = (kind, lexeme)) : TokenAt c rest kind lexeme
  | comparison {lexeme : String} (h : lexeme ∈ ["<", ">", "<=", ">=", "<>", "!="]) :
    TokenAt c rest .comparison lexeme
  | punctuation {kind : TokenKind} (h : punctuation? c = some kind) : TokenAt c rest kind c.toString

theorem tokenAt_of_pieceAt {place : Position} {c : Char} {rest : List Char} {piece : Piece}
    (h : pieceAt place c rest = .ok piece) {kind : TokenKind} {lexeme : String}
    (htoken : piece.token = some (kind, lexeme)) : TokenAt c rest kind lexeme := by
  cases pieceAt_cases h with
  | gap => cases htoken
  | comment => cases htoken
  | string _ hquoted =>
    obtain ⟨rfl, rfl⟩ := Prod.mk.inj (Option.some.inj htoken)
    exact .string hquoted
  | number hnumber =>
    obtain ⟨rfl, rfl⟩ := Prod.mk.inj (Option.some.inj htoken)
    exact .number hnumber
  | word hstart => exact .word hstart (Option.some.inj htoken)
  | twoSigns hsign hsecond =>
    obtain ⟨rfl, rfl⟩ := Prod.mk.inj (Option.some.inj htoken)
    refine .comparison ?_
    obtain ⟨-, rfl | ⟨rfl, rfl⟩⟩ := comparisonSecond?_eq_some hsecond
    · rcases hsign with rfl | rfl | rfl <;> decide
    · decide
  | oneSign hsign =>
    obtain ⟨rfl, rfl⟩ := Prod.mk.inj (Option.some.inj htoken)
    refine .comparison ?_
    rcases hsign with rfl | rfl <;> decide
  | punctuation hkind =>
    obtain ⟨rfl, rfl⟩ := Prod.mk.inj (Option.some.inj htoken)
    exact .punctuation hkind

/-- What holds of the tokens that a text can go on with holds of all its tokens, if the rests of
the text are as the text itself is. -/
theorem forall_tokensFrom {fact : Token → Prop} (kept : List Char → Prop)
    (htail : ∀ {c rest}, kept (c :: rest) → ∀ n, kept (rest.drop n))
    (hend : ∀ place, fact ⟨.eof, "", place⟩)
    (hpiece : ∀ {c rest kind lexeme}, kept (c :: rest) → TokenAt c rest kind lexeme →
      ∀ place, fact ⟨kind, lexeme, place⟩)
    {place : Position} {text : List Char} {tokens : List Token} (htext : kept text)
    (h : tokensFrom place text = .ok tokens) : ∀ token ∈ tokens, fact token := by
  induction place, text using tokensFrom.induct generalizing tokens with
  | case1 place =>
    rw [tokensFrom] at h
    obtain rfl := Except.ok.inj h
    exact List.forall_mem_singleton.2 (hend place)
  | case2 place c rest cause hfailed =>
    rw [tokensFrom, hfailed] at h
    cases h
  | case3 place c rest piece hread cause hrest ih =>
    rw [tokensFrom, hread] at h
    simp only [hrest] at h
    cases h
  | case4 place c rest piece hread others hrest kind lexeme htoken ih =>
    rw [tokensFrom, hread] at h
    simp only [hrest, htoken] at h
    obtain rfl := Except.ok.inj h
    exact List.forall_mem_cons.2 ⟨hpiece htext (tokenAt_of_pieceAt hread htoken) place,
      ih (htail htext _) hrest⟩
  | case5 place c rest piece hread others hrest htoken ih =>
    rw [tokensFrom, hread] at h
    simp only [hrest, htoken] at h
    obtain rfl := Except.ok.inj h
    exact ih (htail htext _) hrest

theorem writable_of_tokenAt {place : Position} {c : Char} {rest : List Char} {kind : TokenKind}
    {lexeme : String} (htext : HalvesApart (c :: rest)) (h : TokenAt c rest kind lexeme) :
    Token.Writable ⟨kind, lexeme, place⟩ := by
  cases h with
  | string hquoted =>
    refine Json.joined_iff.2 ?_
    rw [String.toList_ofList]
    exact halvesApart_readQuoted htext.tail hquoted
  | number _ => trivial
  | word hc hword =>
    rw [wordToken] at hword
    split at hword
    · obtain ⟨rfl, rfl⟩ := Prod.mk.inj hword
      trivial
    · obtain ⟨rfl, rfl⟩ := Prod.mk.inj hword
      refine ⟨by simp, joined_of_wordChars fun d hd => ?_⟩
      rcases List.mem_cons.1 hd with rfl | hd
      · exact isWordChar_of_isWordStart hc
      · exact List.mem_takeWhile_imp hd
  | comparison _ => trivial
  | punctuation hkind =>
    rw [punctuation?.eq_def] at hkind
    split at hkind <;> cases hkind <;> trivial

/-- **What the tokens of a text say can be written**, if the text is held as texts are. -/
theorem writable_tokenize {sql : String} {tokens : List Token} (hsql : Json.joined sql = sql)
    (h : tokenize sql = .ok tokens) : ∀ token ∈ tokens, token.Writable :=
  forall_tokensFrom HalvesApart (fun htext n => htext.tail.drop n) (fun _ => trivial)
    (fun htext hpiece _ => writable_of_tokenAt htext hpiece) (Json.joined_iff.1 hsql) h

end Sql

end RelStore
