/-
Texts one below the other.

No word, string or comment of a text that is scanned to its end reaches over a line break after it:
the tokens of the text are followed by those of what comes below (`tokensFrom_append`). What comes
below is scanned as it is by itself, at places further down (`tokensFrom_below`). Blanks at the ends
of a text are of no tokens (`Scans.after_blanks`, `Scans.before_blanks`).
-/
import RelStore.Proofs.Sql.Calls
import RelStore.Proofs.Sql.Spelling
import RelStore.Text.Blank

namespace RelStore

open Text (isBlank)

namespace Position

/-- The same place in a text that stands below another, which has so many units and line breaks. -/
def below (units breaks : Nat) (place : Position) : Position :=
  ⟨units + place.offset, breaks + place.line, place.column⟩

variable (units breaks : Nat) (place : Position) (text others : List Char)

theorem next_below (c : Char) : (place.below units breaks).next c = (place.next c).below units breaks := by
  simp only [next, below]
  split <;> simp only [Nat.add_assoc]

theorem after_below : (place.below units breaks).after text = (place.after text).below units breaks := by
  induction text generalizing place with
  | nil => rfl
  | cons c rest ih =>
    rw [after, List.foldl_cons, next_below]
    exact ih _

theorem after_append : place.after (text ++ others) = (place.after text).after others :=
  List.foldl_append ..

theorem offset_after :
    (place.after text).offset = place.offset + (text.flatMap Text.unitsOf).length := by
  induction text generalizing place with
  | nil => rfl
  | cons c rest ih =>
    have hnext : (place.next c).offset = place.offset + (Text.unitsOf c).length := by
      rw [next, Text.length_unitsOf]
      split
      next hc => rw [beq_iff_eq.1 hc]; rfl
      next => rfl
    rw [List.flatMap_cons, List.length_append, ← Nat.add_assoc, ← hnext]
    exact ih _

theorem line_after : (place.after text).line = place.line + text.count '\n' := by
  induction text generalizing place with
  | nil => rfl
  | cons c rest ih =>
    have hnext : (place.next c).line = place.line + if c == '\n' then 1 else 0 := by
      rw [next]
      split <;> rfl
    rw [List.count_cons, Nat.add_comm (rest.count _), ← Nat.add_assoc, ← hnext]
    exact ih _

/-- What follows a line break stands in the first column. -/
theorem after_newline : Position.start.after (text ++ ['\n']) =
    Position.start.below ((text ++ ['\n']).flatMap Text.unitsOf).length ((text ++ ['\n']).count '\n') := by
  have hcolumn : (Position.start.after (text ++ ['\n'])).column = 1 := by
    rw [after_append]
    rfl
  have hoffset := offset_after .start (text ++ ['\n'])
  have hline := line_after .start (text ++ ['\n'])
  rw [Nat.add_comm] at hoffset hline
  rw [below, ← hoffset, ← hline]
  exact congrArg (Position.mk _ _) hcolumn

end Position

namespace Sql

variable {c d : Char} {rest more : List Char} {place : Position}

/-! ## Blanks after a piece -/

/-- What follows begins with a blank, if there is anything. -/
def Breaks (more : List Char) : Prop := ∀ c ∈ more.head?, isBlank c = true

theorem isWordChar_of_isBlank (hd : isBlank d = true) : isWordChar d = false := by
  refine Bool.eq_false_iff.2 fun h => ?_
  have hnot : isBlank d = false := Text.of_ascii (P := fun d => isWordChar d = true → isBlank d = false)
    (by decide +kernel) (toNat_lt_of_isWordChar h) h
  exact absurd (hd.symm.trans hnot) (by decide)

theorem isDigit_of_isBlank (hd : isBlank d = true) : isDigit d = false := by
  have hword := isWordChar_of_isBlank hd
  rw [isWordChar, Bool.or_eq_false_iff, Bool.or_eq_false_iff] at hword
  exact hword.1.2

section

variable {p : Char → Bool}

theorem takeWhile_append_of_stops (rest : List Char) (hp : ∀ d ∈ more.head?, p d = false) :
    (rest ++ more).takeWhile p = rest.takeWhile p := by
  induction rest with
  | nil =>
    cases more with
    | nil => rfl
    | cons d _ => exact List.takeWhile_cons_of_neg (by rw [hp d rfl]; exact Bool.false_ne_true)
  | cons c rest ih => rw [List.cons_append, List.takeWhile_cons, List.takeWhile_cons, ih]

theorem dropWhile_append_of_stops (rest : List Char) (hp : ∀ d ∈ more.head?, p d = false) :
    (rest ++ more).dropWhile p = rest.dropWhile p ++ more := by
  induction rest with
  | nil =>
    cases more with
    | nil => rfl
    | cons d _ => exact List.dropWhile_cons_of_neg (by rw [hp d rfl]; exact Bool.false_ne_true)
  | cons c rest ih =>
    rw [List.cons_append, List.dropWhile_cons, List.dropWhile_cons]
    split
    · exact ih
    · rfl

end

theorem numberTail_breaks (hmore : Breaks more) : numberTail (rest ++ more) = numberTail rest := by
  have hp : ∀ d ∈ more.head?, isDigit d = false := fun d hd => isDigit_of_isBlank (hmore d hd)
  rw [numberTail, numberTail, takeWhile_append_of_stops _ hp, dropWhile_append_of_stops _ hp]
  generalize rest.dropWhile isDigit = others
  cases others with
  | nil =>
    cases more with
    | nil => rfl
    | cons d _ => simp [ne_of_class (hmore d rfl) (show isBlank '.' = false by decide)]
  | cons first others =>
    by_cases hfirst : first = '.'
    · subst hfirst
      cases others with
      | nil =>
        cases more with
        | nil => rfl
        | cons d _ => simp [hp d rfl]
      | cons c others => simp only [List.cons_append, ← takeWhile_append_of_stops (c :: others) hp]
    · simp [hfirst]

theorem readQuoted_eq_none (h : '\'' ∉ rest) : readQuoted rest = none := by
  induction rest with
  | nil => rfl
  | cons c rest ih =>
    rw [List.mem_cons, not_or] at h
    have hc : ¬ c = '\'' := fun heq => h.1 heq.symm
    rw [readQuoted.eq_3 _ _ fun _ heq => absurd heq hc, if_neg hc, ih h.2]
    rfl

/-- A string that is ended, or that nothing more ends, is read as it is without what follows. -/
theorem readQuoted_breaks (hmore : Breaks more) (h : (readQuoted rest).isSome ∨ '\'' ∉ more) :
    readQuoted (rest ++ more) = readQuoted rest := by
  induction rest using readQuoted.induct with
  | case1 =>
    exact readQuoted_eq_none (h.resolve_left (by decide))
  | case2 rest ih =>
    rw [readQuoted, Option.isSome_map] at h
    rw [List.cons_append, List.cons_append, readQuoted, readQuoted, ih h]
  | case3 rest hrest =>
    have happend : ∀ others, '\'' = '\'' → rest ++ more = '\'' :: others → False := by
      intro others _ heq
      cases rest with
      | nil =>
        have hblank : isBlank '\'' = true := hmore _ (by rw [show more = '\'' :: others from heq]; rfl)
        exact absurd hblank (by decide)
      | cons d _ => exact hrest _ rfl (by rw [(List.cons.inj heq).1])
    rw [List.cons_append, readQuoted.eq_3 _ _ happend, readQuoted.eq_3 _ _ hrest, if_pos rfl, if_pos rfl]
  | case4 c rest hdoubled hc ih =>
    rw [readQuoted.eq_3 _ _ hdoubled, if_neg hc, Option.isSome_map] at h
    rw [List.cons_append, readQuoted.eq_3 _ _ fun _ heq => absurd heq hc, readQuoted.eq_3 _ _ hdoubled,
      if_neg hc, if_neg hc, ih h]

theorem comparisonSecond?_cons (c d : Char) (rest others : List Char) :
    comparisonSecond? c (d :: rest) = comparisonSecond? c (d :: others) := by
  by_cases hequals : d = '='
  · subst hequals
    rfl
  by_cases hgreater : d = '>'
  · subst hgreater
    rfl
  simp [comparisonSecond?, hequals, hgreater]

/-- A piece that is no comment ends before a blank. -/
theorem pieceAt_breaks (hmore : Breaks more) (hcomment : ¬ (c = '-' ∧ rest.head? = some '-'))
    (hquoted : c = '\'' → (readQuoted rest).isSome ∨ '\'' ∉ more) :
    pieceAt place c (rest ++ more) = pieceAt place c rest := by
  have hhyphen : ((rest ++ more).head? == some '-') = (rest.head? == some '-') := by
    cases rest with
    | nil =>
      cases more with
      | nil => rfl
      | cons d _ =>
        simp [ne_of_class (hmore d rfl) (show isBlank '-' = false by decide)]
    | cons _ _ => rfl
  have hdigit : (rest ++ more).head?.any isDigit = rest.head?.any isDigit := by
    cases rest with
    | nil =>
      cases more with
      | nil => rfl
      | cons d _ => exact isDigit_of_isBlank (hmore d rfl)
    | cons _ _ => rfl
  have hsecond : comparisonSecond? c (rest ++ more) = comparisonSecond? c rest := by
    cases rest with
    | nil =>
      cases more with
      | nil => rfl
      | cons d _ =>
        have hequals : d ≠ '=' := ne_of_class (hmore d rfl) (by decide)
        have hgreater : d ≠ '>' := ne_of_class (hmore d rfl) (by decide)
        simp [comparisonSecond?, hequals, hgreater]
    | cons d _ => exact comparisonSecond?_cons c d _ _
  have hnot : (c == '-' && rest.head? == some '-') = false := by
    rw [Bool.and_eq_false_iff, beq_eq_false_iff_ne, beq_eq_false_iff_ne]
    exact not_and_or.1 hcomment
  rw [pieceAt, pieceAt, hhyphen, hdigit, hsecond, numberTail_breaks hmore,
    takeWhile_append_of_stops _ fun d hd => isWordChar_of_isBlank (hmore d hd)]
  simp only [hnot, Bool.false_eq_true, if_false]
  by_cases hc : c = '\''
  · rw [readQuoted_breaks hmore (hquoted hc)]
  · simp only [beq_eq_false_iff_ne.2 hc, Bool.false_eq_true, if_false]

theorem isSome_readQuoted {piece : Piece} (h : pieceAt place '\'' rest = .ok piece) :
    (readQuoted rest).isSome := by
  cases hquoted : readQuoted rest with
  | some found => rfl
  | none =>
    simp [pieceAt, isGap, hquoted] at h

theorem pieceAt_comment (hhyphen : rest.head? = some '-') :
    pieceAt place '-' rest = .ok ⟨none, (rest.takeWhile (· != '\n')).length⟩ := by
  simp [pieceAt, isGap, hhyphen]

/-! ## Pieces within their text -/

theorem numberTail_isPrefixOf (rest : List Char) : numberTail rest <+: rest := by
  have hrest := List.takeWhile_append_dropWhile (p := isDigit) (l := rest)
  rw [numberTail]
  split
  next c others heq =>
    split
    next =>
      rw [heq] at hrest
      conv_rhs => rw [← hrest]
      exact (List.prefix_append_right_inj _).2 (List.cons_prefix_cons.2 ⟨rfl, List.takeWhile_prefix isDigit⟩)
    next => exact List.takeWhile_prefix isDigit
  next => exact List.takeWhile_prefix isDigit

theorem size_readQuoted_le {content : List Char} {size : Nat}
    (h : readQuoted rest = some (content, size)) : size ≤ rest.length := by
  obtain ⟨after, rfl, -, rfl⟩ := eq_doubled_of_readQuoted h
  rw [List.length_append, List.length_cons]
  omega

theorem extra_pieceAt_le {piece : Piece} (h : pieceAt place c rest = .ok piece) :
    piece.extra ≤ rest.length := by
  cases pieceAt_cases h with
  | gap => exact Nat.zero_le _
  | comment => exact (List.takeWhile_prefix _).length_le
  | string _ hquoted => exact size_readQuoted_le hquoted
  | number => exact (numberTail_isPrefixOf rest).length_le
  | word => exact (List.takeWhile_prefix _).length_le
  | twoSigns _ hsecond =>
    obtain ⟨⟨others, rfl⟩, -⟩ := comparisonSecond?_eq_some hsecond
    exact Nat.le_add_left _ _
  | oneSign => exact Nat.zero_le _
  | punctuation => exact Nat.zero_le _

/-! ## Texts -/

/-- No piece reaches over a line break. -/
theorem pieceAt_append_newline {piece : Piece} (h : pieceAt place c rest = .ok piece) (more : List Char) :
    pieceAt place c (rest ++ '\n' :: more) = .ok piece := by
  have hmore : Breaks ('\n' :: more) := by
    rintro _ ⟨⟩
    decide
  by_cases hcomment : c = '-' ∧ rest.head? = some '-'
  · obtain ⟨rfl, hhyphen⟩ := hcomment
    have hstops : ∀ d ∈ ('\n' :: more).head?, (d != '\n') = false := by
      rintro _ ⟨⟩
      rfl
    rw [pieceAt_comment hhyphen] at h
    rw [pieceAt_comment (by rw [List.head?_append, hhyphen]; rfl), takeWhile_append_of_stops _ hstops, h]
  · rw [pieceAt_breaks hmore hcomment fun hc => .inl (isSome_readQuoted (hc ▸ h)), h]

/-- The tokens of a piece: one or none. -/
def Piece.tokensAt (piece : Piece) (place : Position) : List Token :=
  match piece.token with
  | some (kind, lexeme) => [⟨kind, lexeme, place⟩]
  | none => []

theorem tokensFrom_cons {piece : Piece} (h : pieceAt place c rest = .ok piece) :
    tokensFrom place (c :: rest) = (tokensFrom (place.after (c :: rest.take piece.extra))
      (rest.drop piece.extra)).map (piece.tokensAt place ++ ·) := by
  rw [tokensFrom, h]
  simp only
  cases tokensFrom (place.after (c :: rest.take piece.extra)) (rest.drop piece.extra) with
  | error cause => rfl
  | ok tokens =>
    rw [Piece.tokensAt]
    cases piece.token <;> rfl

theorem pieceAt_newline : pieceAt place '\n' rest = .ok ⟨none, 0⟩ := rfl

theorem pieceAt_semicolon : pieceAt place ';' rest = .ok ⟨some (.semicolon, ";"), 0⟩ := rfl

theorem tokensFrom_newline : tokensFrom place ('\n' :: rest) = tokensFrom (place.after ['\n']) rest := by
  rw [tokensFrom_cons pieceAt_newline]
  exact congrFun Except.map_id _

theorem tokensFrom_semicolon : tokensFrom place (';' :: rest) =
    (tokensFrom (place.after [';']) rest).map (⟨.semicolon, ";", place⟩ :: ·) :=
  tokensFrom_cons pieceAt_semicolon

/-- The tokens of a text, piece by piece to its end. -/
inductive Scans : Position → List Char → List Token → Prop where
  | done (place : Position) : Scans place [] [⟨.eof, "", place⟩]
  | step {place : Position} {c : Char} {rest : List Char} {piece : Piece} {tokens : List Token}
    (hpiece : pieceAt place c rest = .ok piece)
    (h : Scans (place.after (c :: rest.take piece.extra)) (rest.drop piece.extra) tokens) :
    Scans place (c :: rest) (piece.tokensAt place ++ tokens)

theorem scans_iff {text : List Char} {tokens : List Token} :
    Scans place text tokens ↔ tokensFrom place text = .ok tokens := by
  constructor
  · intro h
    induction h with
    | done place => exact tokensFrom.eq_1 place
    | step hpiece h ih =>
      rw [tokensFrom_cons hpiece, ih]
      rfl
  · intro h
    have hstep {place : Position} {c : Char} {rest : List Char} {piece : Piece} {others tokens : List Token}
        (hread : pieceAt place c rest = .ok piece)
        (hrest : tokensFrom (place.after (c :: rest.take piece.extra)) (rest.drop piece.extra) = .ok others)
        (ih : Scans (place.after (c :: rest.take piece.extra)) (rest.drop piece.extra) others)
        (h : tokensFrom place (c :: rest) = .ok tokens) : Scans place (c :: rest) tokens := by
      rw [tokensFrom_cons hread, hrest] at h
      obtain rfl := Except.ok.inj h
      exact .step hread ih
    induction place, text using tokensFrom.induct generalizing tokens with
    | case1 place =>
      rw [tokensFrom] at h
      obtain rfl := Except.ok.inj h
      exact .done place
    | case2 place c rest cause hfailed =>
      rw [tokensFrom, hfailed] at h
      cases h
    | case3 place c rest piece hread cause hrest =>
      rw [tokensFrom_cons hread, hrest] at h
      cases h
    | case4 place c rest piece hread others hrest _ _ _ ih => exact hstep hread hrest (ih hrest) h
    | case5 place c rest piece hread others hrest _ ih => exact hstep hread hrest (ih hrest) h

theorem Piece.tokensAt_ne_eof {piece : Piece} (h : pieceAt place c rest = .ok piece) :
    ∀ token ∈ piece.tokensAt place, token.kind ≠ .eof := by
  rw [tokensAt]
  split
  next kind lexeme htoken =>
    refine List.forall_mem_singleton.2 ?_
    cases tokenAt_of_pieceAt h htoken with
    | word _ hword =>
      rw [wordToken] at hword
      split at hword <;> cases hword <;> rintro ⟨⟩
    | punctuation hkind =>
      rw [punctuation?.eq_def] at hkind
      split at hkind <;> cases hkind <;> rintro ⟨⟩
    | _ => rintro ⟨⟩
  next => exact List.forall_mem_nil _

/-- **The tokens of a text are followed by those of what comes below it.** -/
theorem tokensFrom_append {text : List Char} {tokens : List Token}
    (h : tokensFrom place text = .ok tokens) :
    ∃ read, (∀ token ∈ read, token.kind ≠ .eof) ∧ tokens = read ++ [⟨.eof, "", place.after text⟩] ∧
      ∀ more, tokensFrom place (text ++ '\n' :: more) =
        (tokensFrom (place.after (text ++ ['\n'])) more).map (read ++ ·) := by
  replace h := scans_iff.2 h
  induction h with
  | done place =>
    refine ⟨[], nofun, rfl, fun more => ?_⟩
    rw [List.nil_append, tokensFrom_newline]
    exact (congrFun Except.map_id _).symm
  | @step place c rest piece tokens hpiece hrest ih =>
    obtain ⟨read, hread, rfl, hmore⟩ := ih
    have hle := extra_pieceAt_le hpiece
    refine ⟨piece.tokensAt place ++ read, List.forall_mem_append.2 ⟨Piece.tokensAt_ne_eof hpiece, hread⟩,
      ?_, fun more => ?_⟩
    · rw [List.append_assoc, ← Position.after_append, List.cons_append, List.take_append_drop]
    · have hplace : (place.after (c :: rest.take piece.extra)).after (rest.drop piece.extra ++ ['\n']) =
          place.after (c :: rest ++ ['\n']) := by
        rw [← Position.after_append, List.cons_append, List.cons_append, ← List.append_assoc,
          List.take_append_drop]
      rw [List.cons_append, tokensFrom_cons (pieceAt_append_newline hpiece more),
        List.take_append_of_le_length hle, List.drop_append_of_le_length hle, hmore, hplace]
      cases tokensFrom (place.after (c :: rest ++ ['\n'])) more with
      | error cause => rfl
      | ok others => exact congrArg Except.ok (List.append_assoc ..).symm

/-! ## Places further down -/

/-- The token as one of a text that stands below another. -/
def Token.below (units breaks : Nat) (token : Token) : Token :=
  { token with place := token.place.below units breaks }

end Sql

/-- Why a text cannot be read that stands below another. -/
def Cause.below (units breaks : Nat) : Cause → Cause
  | .unexpectedCharacter shown place => .unexpectedCharacter shown (place.below units breaks)
  | .unterminatedString place => .unterminatedString (place.below units breaks)
  | .expected what found place => .expected what found (place.below units breaks)
  | .misplacedAggregate fn clause place => .misplacedAggregate fn clause (place.below units breaks)
  | .integerOutOfRange lexeme place => .integerOutOfRange lexeme (place.below units breaks)
  | cause => cause

namespace Sql

variable {c : Char} {rest blanks : List Char} {place : Position}

/-- What is read at two places is the same, and a refusal differs in the place that it tells. -/
inductive ReadsAlike (place other : Position) : Except Cause Piece → Except Cause Piece → Prop where
  | ok (piece : Piece) : ReadsAlike place other (.ok piece) (.ok piece)
  | unexpected (shown : String) : ReadsAlike place other
      (.error (.unexpectedCharacter shown place)) (.error (.unexpectedCharacter shown other))
  | unterminated : ReadsAlike place other
      (.error (.unterminatedString place)) (.error (.unterminatedString other))

theorem ReadsAlike.ite {p : Prop} [Decidable p] {other : Position} {x x' y y' : Except Cause Piece}
    (h : ReadsAlike place other x x') (h' : ReadsAlike place other y y') :
    ReadsAlike place other (if p then x else y) (if p then x' else y') := by
  split
  · exact h
  · exact h'

theorem pieceAt_readsAlike (place other : Position) (c : Char) (rest : List Char) :
    ReadsAlike place other (pieceAt place c rest) (pieceAt other c rest) := by
  refine .ite (.ok _) (.ite (.ok _) (.ite ?_ (.ite (.ok _) (.ite (.ok _) (.ite ?_ ?_)))))
  · rcases readQuoted rest with _ | ⟨content, size⟩
    · exact .unterminated
    · exact .ok _
  · cases comparisonSecond? c rest with
    | some second => exact .ok _
    | none => exact .ite (.unexpected _) (.ok _)
  · cases punctuation? c with
    | some kind => exact .ok _
    | none => exact .unexpected _

theorem pieceAt_below (units breaks : Nat) :
    pieceAt (place.below units breaks) c rest = (pieceAt place c rest).mapError (Cause.below units breaks) := by
  have h := pieceAt_readsAlike place (place.below units breaks) c rest
  generalize pieceAt (place.below units breaks) c rest = lower at h ⊢
  generalize pieceAt place c rest = upper at h ⊢
  cases h with
  | ok | unexpected | unterminated => rfl

theorem Piece.tokensAt_below (piece : Piece) (place : Position) (units breaks : Nat) :
    piece.tokensAt (place.below units breaks) =
      (piece.tokensAt place).map (Token.below units breaks) := by
  rw [tokensAt, tokensAt]
  cases piece.token <;> rfl

/-- **A text that stands below another has the same tokens, further down.** -/
theorem tokensFrom_below (units breaks : Nat) (text : List Char) :
    tokensFrom (place.below units breaks) text =
      ((tokensFrom place text).map (List.map (Token.below units breaks))).mapError
        (Cause.below units breaks) := by
  have hstep {place : Position} {c : Char} {rest : List Char} {piece : Piece}
      (hread : pieceAt place c rest = .ok piece)
      (ih : tokensFrom ((place.after (c :: rest.take piece.extra)).below units breaks)
          (rest.drop piece.extra) =
        ((tokensFrom (place.after (c :: rest.take piece.extra)) (rest.drop piece.extra)).map
          (List.map (Token.below units breaks))).mapError (Cause.below units breaks)) :
      tokensFrom (place.below units breaks) (c :: rest) =
        ((tokensFrom place (c :: rest)).map (List.map (Token.below units breaks))).mapError
          (Cause.below units breaks) := by
    have hbelow : pieceAt (place.below units breaks) c rest = .ok piece := by
      rw [pieceAt_below, hread]
      rfl
    rw [tokensFrom_cons hbelow, tokensFrom_cons hread, Position.after_below, ih, Piece.tokensAt_below]
    cases tokensFrom (place.after (c :: rest.take piece.extra)) (rest.drop piece.extra) with
    | error cause => rfl
    | ok tokens => exact congrArg Except.ok List.map_append.symm
  induction place, text using tokensFrom.induct with
  | case1 place => rw [tokensFrom, tokensFrom]; rfl
  | case2 place c rest cause hfailed =>
    rw [tokensFrom, tokensFrom, pieceAt_below, hfailed]
    rfl
  | case3 place c rest piece hread cause hrest ih => exact hstep hread ih
  | case4 place c rest piece hread others hrest kind lexeme htoken ih => exact hstep hread ih
  | case5 place c rest piece hread others hrest htoken ih => exact hstep hread ih

/-! ## Blanks at the ends of a text -/

/-- A blank at the start of a piece is between tokens, or it is none that a text may have there. -/
theorem eq_of_pieceAt_isBlank (hc : isBlank c = true) {piece : Piece}
    (h : pieceAt place c rest = .ok piece) : piece = ⟨none, 0⟩ := by
  cases pieceAt_cases h with
  | gap => rfl
  | comment hhyphen => exact absurd (hhyphen ▸ hc) (by decide)
  | string hquote => exact absurd (hquote ▸ hc) (by decide)
  | number hnumber =>
    rcases hnumber with hdigit | ⟨rfl, -⟩
    · exact absurd ((isDigit_of_isBlank hc).symm.trans hdigit) (by decide)
    · exact absurd hc (by decide)
  | word hstart => exact absurd ((isWordChar_of_isBlank hc).symm.trans (isWordChar_of_isWordStart hstart)) (by decide)
  | twoSigns hsign => rcases hsign with rfl | rfl | rfl <;> exact absurd hc (by decide)
  | oneSign hsign => rcases hsign with rfl | rfl <;> exact absurd hc (by decide)
  | punctuation hkind =>
    rw [punctuation?.eq_def] at hkind
    split at hkind
    case h_8 => cases hkind
    all_goals exact absurd hc (by decide)

/-- Blanks before a text have no tokens. -/
theorem Scans.after_blanks {text : List Char} {tokens : List Token}
    (hblanks : ∀ c ∈ blanks, isBlank c = true) (h : Scans place (blanks ++ text) tokens) :
    Scans (place.after blanks) text tokens := by
  induction blanks generalizing place with
  | nil => exact h
  | cons c blanks ih =>
    obtain ⟨hc, hblanks⟩ := List.forall_mem_cons.1 hblanks
    cases h with
    | step hpiece h =>
      obtain rfl := eq_of_pieceAt_isBlank hc hpiece
      exact ih hblanks h

theorem Scans.eq_nil {read : List Token} {last : Token} (h : Scans place [] (read ++ [last])) :
    read = [] := by
  cases read with
  | nil => rfl
  | cons _ read => cases read <;> cases h

/-- A comment that a text ends in goes on over what comes after the text. -/
theorem drop_comment {text : List Char} (hends : (text.takeWhile (· != '\n')).length = text.length)
    (blanks : List Char) : (text ++ blanks).drop ((text ++ blanks).takeWhile (· != '\n')).length =
      blanks.drop (blanks.takeWhile (· != '\n')).length := by
  have htake : (text ++ blanks).takeWhile (· != '\n') = text ++ blanks.takeWhile (· != '\n') := by
    rw [List.takeWhile_append, if_pos hends]
  rw [htake, List.length_append, List.drop_append, List.drop_eq_nil_of_le (Nat.le_add_right _ _),
    Nat.add_sub_cancel_left, List.nil_append]

/-- A text without the blanks after it has the same tokens before its end. -/
theorem Scans.before_blanks {text : List Char} {tokens : List Token}
    (hblanks : ∀ c ∈ blanks, isBlank c = true) (h : Scans place (text ++ blanks) tokens) :
    ∃ read p q, tokens = read ++ [⟨.eof, "", p⟩] ∧ Scans place text (read ++ [⟨.eof, "", q⟩]) := by
  generalize hwhole : text ++ blanks = whole at h
  induction h generalizing text blanks with
  | done place =>
    obtain ⟨rfl, rfl⟩ := List.append_eq_nil_iff.1 hwhole
    exact ⟨[], place, place, rfl, .done place⟩
  | @step place c rest piece tokens hpiece hrest ih =>
    cases text with
    | nil =>
      obtain rfl : blanks = c :: rest := hwhole
      obtain ⟨hc, hblanks⟩ := List.forall_mem_cons.1 hblanks
      obtain rfl := eq_of_pieceAt_isBlank hc hpiece
      obtain ⟨read, p, q, rfl, hnil⟩ := @ih _ [] hblanks rfl
      obtain rfl := hnil.eq_nil
      exact ⟨[], p, place, rfl, .done place⟩
    | cons d text =>
      rw [List.cons_append] at hwhole
      obtain ⟨rfl, rfl⟩ := List.cons.inj hwhole
      have hwithin (hread : pieceAt place d text = .ok piece) :
          ∃ read p q, piece.tokensAt place ++ tokens = read ++ [⟨.eof, "", p⟩] ∧
            Scans place (d :: text) (read ++ [⟨.eof, "", q⟩]) := by
        have hle := extra_pieceAt_le hread
        obtain ⟨read, p, q, rfl, htext⟩ := ih hblanks (List.drop_append_of_le_length hle).symm
        rw [List.take_append_of_le_length hle] at htext
        refine ⟨piece.tokensAt place ++ read, p, q, (List.append_assoc ..).symm, ?_⟩
        rw [List.append_assoc]
        exact .step hread htext
      by_cases hcomment : d = '-' ∧ text.head? = some '-'
      · obtain ⟨rfl, hhyphen⟩ := hcomment
        rw [pieceAt_comment (by rw [List.head?_append, hhyphen]; rfl)] at hpiece
        obtain rfl := Except.ok.inj hpiece
        by_cases hends : (text.takeWhile (· != '\n')).length = text.length
        · have hdrop := drop_comment hends blanks
          obtain ⟨read, p, q, rfl, hnil⟩ := @ih _ []
            (fun c hc => hblanks c (List.mem_of_mem_drop hc)) hdrop.symm
          obtain rfl := hnil.eq_nil
          have hdone (last : Position) : Scans last
              (text.drop (text.takeWhile (· != '\n')).length) [⟨.eof, "", last⟩] := by
            rw [hends, List.drop_length]
            exact .done last
          exact ⟨[], p, _, rfl, .step (pieceAt_comment hhyphen) (hdone _)⟩
        · refine hwithin ?_
          rw [pieceAt_comment hhyphen, List.takeWhile_append, if_neg hends]
      · have hbreaks : Breaks blanks := fun c hc => hblanks c (List.mem_of_mem_head? hc)
        have hquote : '\'' ∉ blanks := fun hmem => absurd (hblanks _ hmem) (by decide)
        rw [pieceAt_breaks hbreaks hcomment fun _ => .inr hquote] at hpiece
        exact hwithin hpiece

end Sql

end RelStore
