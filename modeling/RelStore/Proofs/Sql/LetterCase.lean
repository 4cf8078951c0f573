/-
Texts of one statement in different letter case.

The pieces of a text end where they end, and are what they are, in any letter case: words in other
letters are the same keywords, or other names of the same things (`paired_tokensFrom`). Strings keep
their letters, and so does what follows AS (`recased`). Two such texts are read as statements that have
one form with the letters of names in lower case, or are refused with one code (`parse_recased`).
-/
import RelStore.Proofs.LetterCase
import RelStore.Proofs.Lockstep.Codes
import RelStore.Proofs.Sql.Elsewhere

namespace RelStore

open List (Forall₂)
open Text (SameLetter)

/-! ## Characters -/

section

variable {c d : Char}

/-- What is no letter has one case. -/
theorem Text.SameLetter.eq_of_not_letter (h : SameLetter c d) (hc : Sql.isLetter c = false) : c = d := by
  have hd : Sql.isLetter c = Sql.isLetter d := h.congr (by decide +kernel)
  have hsame := h.congr (p := fun c => if Sql.isLetter c then none else some c) (by decide +kernel)
  simpa [← hd, hc] using hsame

theorem Text.SameLetter.eq_iff (h : SameLetter c d) {x : Char} (hx : Sql.isLetter x = false) :
    c = x ↔ d = x := by
  constructor
  · rintro rfl
    exact (h.eq_of_not_letter hx).symm
  · rintro rfl
    exact (SameLetter.eq_of_not_letter (Eq.symm h) hx).symm

theorem Text.SameLetter.next_eq (h : SameLetter c d) (place : Position) : place.next c = place.next d := by
  have hbreak : (c == '\n') = (d == '\n') := h.congr (p := (· == '\n')) (by decide +kernel)
  have hcount : Text.unitCount c = Text.unitCount d := h.congr (by decide +kernel)
  rw [Position.next, Position.next, hbreak, hcount]

end

section

variable {p : Char → Bool} {text other : List Char}

theorem Position.after_eq (h : Forall₂ SameLetter text other) (place : Position) :
    place.after text = place.after other := by
  induction h generalizing place with
  | nil => rfl
  | cons hcd _ ih =>
    rw [after, List.foldl_cons, hcd.next_eq]
    exact ih _

theorem Text.eq_of_sameLetters (h : Forall₂ SameLetter text other)
    (htext : ∀ c ∈ text, Sql.isLetter c = false) : text = other := by
  induction h with
  | nil => rfl
  | cons hcd _ ih =>
    obtain ⟨hc, htext⟩ := List.forall_mem_cons.1 htext
    rw [hcd.eq_of_not_letter hc, ih htext]

theorem Text.sameLetters_takeWhile (h : Forall₂ SameLetter text other)
    (hascii : ∀ n < 128, p (Char.ofNat n).toLower = p (Char.ofNat n)) :
    Forall₂ SameLetter (text.takeWhile p) (other.takeWhile p) := by
  induction h with
  | nil => exact .nil
  | cons hcd _ ih =>
    rw [List.takeWhile_cons, List.takeWhile_cons, hcd.congr hascii]
    split
    · exact .cons hcd ih
    · exact .nil

theorem Text.sameLetters_dropWhile (h : Forall₂ SameLetter text other)
    (hascii : ∀ n < 128, p (Char.ofNat n).toLower = p (Char.ofNat n)) :
    Forall₂ SameLetter (text.dropWhile p) (other.dropWhile p) := by
  induction h with
  | nil => exact .nil
  | cons hcd hrest ih =>
    rw [List.dropWhile_cons, List.dropWhile_cons, hcd.congr hascii]
    split
    · exact ih
    · exact .cons hcd hrest

theorem Text.all_eq (h : Forall₂ SameLetter text other)
    (hascii : ∀ n < 128, p (Char.ofNat n).toLower = p (Char.ofNat n)) : text.all p = other.all p := by
  induction h with
  | nil => rfl
  | cons hcd _ ih => rw [List.all_cons, List.all_cons, hcd.congr hascii, ih]

theorem Text.head?_any_eq (h : Forall₂ SameLetter text other)
    (hascii : ∀ n < 128, p (Char.ofNat n).toLower = p (Char.ofNat n)) :
    text.head?.any p = other.head?.any p := by
  cases h with
  | nil => rfl
  | cons hcd _ => exact hcd.congr hascii

end

namespace Sql

variable {c d : Char} {rest more : List Char} {place : Position}

/-! ## Pieces -/

/-- Tokens at one place that differ in the letters of names and strings only. -/
structure Token.Recased (t u : Token) : Prop where
  kind : t.kind = u.kind
  lexeme : t.kind ≠ .identifier → t.kind ≠ .string → t.lexeme = u.lexeme
  letters : Forall₂ SameLetter t.lexeme.toList u.lexeme.toList
  place : t.place = u.place

theorem Token.Recased.refl (t : Token) : t.Recased t :=
  ⟨rfl, fun _ _ => rfl, List.forall₂_same.2 fun _ _ => rfl, rfl⟩

/-- Pieces of one length whose tokens differ in letter case only. -/
def Piece.Recased (piece other : Piece) : Prop :=
  piece.extra = other.extra ∧ ∀ place, Forall₂ Token.Recased (piece.tokensAt place) (other.tokensAt place)

theorem Piece.Recased.refl (piece : Piece) : piece.Recased piece :=
  ⟨rfl, fun _ => List.forall₂_same.2 fun t _ => .refl t⟩

theorem isLetter_of_isDigit (hc : isDigit c = true) : isLetter c = false := by
  refine Bool.eq_false_iff.2 fun hletter => ?_
  have hdigit := isDigit_of_isWordStart (c := c) (by rw [isWordStart, hletter]; rfl)
  exact absurd hc (Bool.eq_false_iff.1 hdigit)

theorem takeWhile_isDigit_eq (h : Forall₂ SameLetter rest more) :
    rest.takeWhile isDigit = more.takeWhile isDigit := by
  refine Text.eq_of_sameLetters (Text.sameLetters_takeWhile h (by decide +kernel)) fun c hc => ?_
  exact isLetter_of_isDigit (List.mem_takeWhile_imp hc)

theorem numberTail_eq (h : Forall₂ SameLetter rest more) : numberTail rest = numberTail more := by
  have hothers := Text.sameLetters_dropWhile (p := isDigit) h (by decide +kernel)
  rw [numberTail, numberTail, takeWhile_isDigit_eq h]
  generalize rest.dropWhile isDigit = others, more.dropWhile isDigit = others' at hothers
  cases hothers with
  | nil => rfl
  | @cons c d others others' hcd hrest =>
    by_cases hc : c = '.'
    · obtain rfl := hc
      obtain rfl := hcd.eq_of_not_letter (by decide)
      cases hrest with
      | nil => rfl
      | cons hcd hrest =>
        simp only [hcd.congr (p := isDigit) (by decide +kernel), takeWhile_isDigit_eq (.cons hcd hrest)]
    · simp [hc, mt (hcd.eq_iff (by decide)).2 hc]

theorem comparisonSecond?_eq (h : Forall₂ SameLetter rest more) :
    comparisonSecond? c rest = comparisonSecond? c more := by
  cases h with
  | nil => rfl
  | @cons d e rest more hde _ =>
    have hequals : d = '=' ↔ e = '=' := hde.eq_iff (by decide)
    have hgreater : d = '>' ↔ e = '>' := hde.eq_iff (by decide)
    by_cases hd : d = '='
    · rw [hd, hequals.1 hd]
      rfl
    by_cases hd' : d = '>'
    · rw [hd', hgreater.1 hd']
      rfl
    simp [comparisonSecond?, hd, hd', mt hequals.2 hd, mt hgreater.2 hd']

/-- A quoted text and its letters in other cases. -/
def Requoted (quoted other : List Char × Nat) : Prop :=
  Forall₂ SameLetter quoted.1 other.1 ∧ quoted.2 = other.2

theorem rel_readQuoted (h : Forall₂ SameLetter rest more) :
    Option.Rel Requoted (readQuoted rest) (readQuoted more) := by
  have hmap {x y : Option (List Char × Nat)} {f g : List Char × Nat → List Char × Nat}
      (h : Option.Rel Requoted x y) (hfg : ∀ quoted other, Requoted quoted other →
        Requoted (f quoted) (g other)) : Option.Rel Requoted (x.map f) (y.map g) := by
    cases h with
    | none => exact .none
    | some h => exact .some (hfg _ _ h)
  have hquote : isLetter '\'' = false := by decide
  induction rest using readQuoted.induct generalizing more with
  | case1 =>
    cases h
    exact .none
  | case2 rest ih =>
    obtain ⟨d, _, hd, hmore, rfl⟩ := List.forall₂_cons_left_iff.1 h
    obtain ⟨e, others, he, hothers, rfl⟩ := List.forall₂_cons_left_iff.1 hmore
    obtain rfl := hd.eq_of_not_letter hquote
    obtain rfl := he.eq_of_not_letter hquote
    rw [readQuoted, readQuoted]
    exact hmap (ih hothers) fun _ _ h => ⟨.cons rfl h.1, congrArg (· + 2) h.2⟩
  | case3 rest hrest =>
    obtain ⟨d, others, hd, hothers, rfl⟩ := List.forall₂_cons_left_iff.1 h
    obtain rfl := hd.eq_of_not_letter hquote
    have hmore : ∀ more, '\'' = '\'' → others = '\'' :: more → False := by
      rintro more - rfl
      obtain ⟨e, _, he, -, rfl⟩ := List.forall₂_cons_right_iff.1 hothers
      exact hrest _ rfl (by rw [(he.eq_iff hquote).2 rfl])
    rw [readQuoted.eq_3 _ _ hrest, readQuoted.eq_3 _ _ hmore, if_pos rfl, if_pos rfl]
    exact .some ⟨.nil, rfl⟩
  | case4 c rest hdoubled hc ih =>
    obtain ⟨d, others, hd, hothers, rfl⟩ := List.forall₂_cons_left_iff.1 h
    have hd' : d ≠ '\'' := mt (hd.eq_iff hquote).2 hc
    rw [readQuoted.eq_3 _ _ hdoubled, readQuoted.eq_3 _ _ fun _ heq => absurd heq hd', if_neg hc, if_neg hd']
    exact hmap (ih hothers) fun _ _ h => ⟨.cons hd h.1, congrArg (· + 1) h.2⟩

theorem recased_wordToken {word other : List Char} (h : Forall₂ SameLetter word other) (place : Position) :
    Token.Recased ⟨(wordToken word).1, (wordToken word).2, place⟩
      ⟨(wordToken other).1, (wordToken other).2, place⟩ := by
  have hupper := Text.map_congr_of_sameLetters (p := Char.toUpper) h (by decide +kernel)
  rw [wordToken, wordToken, hupper]
  split
  · exact .refl _
  · refine ⟨rfl, fun hkind => absurd rfl hkind, ?_, rfl⟩
    rwa [String.toList_ofList, String.toList_ofList]

theorem recased_quoted {content other : List Char} (h : Forall₂ SameLetter content other) (place : Position) :
    Token.Recased ⟨.string, String.ofList content, place⟩ ⟨.string, String.ofList other, place⟩ := by
  refine ⟨rfl, fun _ hkind => absurd rfl hkind, ?_, rfl⟩
  rwa [String.toList_ofList, String.toList_ofList]

/-- **A piece is one of the same length in any letter case.** -/
theorem paired_pieceAt (hcd : SameLetter c d) (h : Forall₂ SameLetter rest more) (place : Position) :
    Paired Cause.SameCode Piece.Recased (pieceAt place c rest) (pieceAt place d more) := by
  have hrefl (x : Except Cause Piece) : Paired Cause.SameCode Piece.Recased x x :=
    (Paired.refl x).mono fun _ _ heq => heq ▸ .refl _
  by_cases hletter : isLetter c = true
  · have hstart : isWordStart c = true := by rw [isWordStart, hletter]; rfl
    have hword := Text.sameLetters_takeWhile (p := isWordChar) h (by decide +kernel)
    have hother : isWordStart d = true := by rwa [← hcd.congr (p := isWordStart) (by decide +kernel)]
    rw [pieceAt_wordStart hstart, pieceAt_wordStart hother]
    exact .ok ⟨hword.length_eq, fun place => .cons (recased_wordToken (.cons hcd hword) place) .nil⟩
  · obtain rfl := hcd.eq_of_not_letter (Bool.eq_false_iff.2 hletter)
    have hhyphen : (rest.head? == some '-') = (more.head? == some '-') := by
      cases h with
      | nil => rfl
      | cons hde _ =>
        rw [Bool.eq_iff_iff]
        simp [hde.eq_iff (x := '-') (by decide)]
    have hword := Text.sameLetters_takeWhile (p := isWordChar) h (by decide +kernel)
    have hline := Text.sameLetters_takeWhile (p := (· != '\n')) h (by decide +kernel)
    rw [pieceAt, pieceAt, hhyphen, hline.length_eq, Text.head?_any_eq (p := isDigit) h (by decide +kernel),
      numberTail_eq h, comparisonSecond?_eq h]
    refine .ite Iff.rfl (fun _ => hrefl _) fun _ => .ite Iff.rfl (fun _ => hrefl _) fun _ => ?_
    refine .ite Iff.rfl (fun _ => ?_) fun _ => .ite Iff.rfl (fun _ => hrefl _) fun _ => ?_
    · have hquoted := rel_readQuoted h
      generalize readQuoted rest = quoted, readQuoted more = other at hquoted
      cases hquoted with
      | none => exact hrefl _
      | some hquoted => exact .ok ⟨hquoted.2, fun place => .cons (recased_quoted hquoted.1 place) .nil⟩
    refine .ite Iff.rfl (fun _ => .ok ?_) fun _ => hrefl _
    exact ⟨hword.length_eq, fun place => .cons (recased_wordToken (.cons rfl hword) place) .nil⟩

theorem paired_tokensFrom {text other : List Char} (h : Forall₂ SameLetter text other) (place : Position) :
    Paired Cause.SameCode (Forall₂ Token.Recased) (tokensFrom place text) (tokensFrom place other) := by
  induction hlength : text.length using Nat.strong_induction_on generalizing text other place with
  | _ length ih =>
    cases h with
    | nil =>
      rw [tokensFrom]
      exact .ok (.cons (.refl _) .nil)
    | @cons c d rest more hcd hrest =>
      have hpiece := paired_pieceAt hcd hrest place
      generalize hx : pieceAt place c rest = x, hy : pieceAt place d more = y at hpiece
      cases hpiece with
      | error hcause =>
        rw [tokensFrom, tokensFrom, hx, hy]
        exact .error hcause
      | @ok piece piece' hrecased =>
        obtain ⟨hextra, htokens⟩ := hrecased
        rw [tokensFrom_cons hx, tokensFrom_cons hy, ← hextra,
          Position.after_eq (Forall₂.cons hcd (List.forall₂_take _ hrest))]
        have hothers := ih _ ?_ (List.forall₂_drop piece.extra hrest)
          (place.after (d :: more.take piece.extra)) rfl
        · exact hothers.map fun _ _ htail => List.rel_append (htokens place) htail
        · rw [← hlength, List.length_drop, List.length_cons]
          omega

/-! ## Names -/

theorem paired_checkName (kind : NameKind) {a b : String} (h : Forall₂ SameLetter a.toList b.toList) :
    Paired Cause.SameCode (fun _ _ => True) (checkName kind a) (checkName kind b) := by
  have hempty : a.isEmpty = b.isEmpty := by
    rw [Bool.eq_iff_iff, String.isEmpty_iff, String.isEmpty_iff, ← String.toList_eq_nil_iff,
      ← String.toList_eq_nil_iff, ← List.length_eq_zero_iff, h.length_eq, List.length_eq_zero_iff]
  have hlength : Text.length a = Text.length b := by
    rw [Text.length, Text.length, Text.units, Text.units, List.length_flatMap, List.length_flatMap]
    simp only [Text.length_unitsOf]
    rw [Text.map_congr_of_sameLetters (p := Text.unitCount) h (by decide +kernel)]
  have hformed : wellFormedName kind a = wellFormedName kind b := by
    rw [wellFormedName.eq_def, wellFormedName.eq_def]
    generalize a.toList = text, b.toList = other at h
    cases h with
    | nil => rfl
    | cons hcd hrest =>
      have hword := Text.all_eq (p := isWordChar) hrest (by decide +kernel)
      have hstart := hcd.congr (p := isWordStart) (by decide +kernel)
      have hdatabase := Text.all_eq (p := isDatabaseNameChar) (.cons hcd hrest) (by decide +kernel)
      cases kind <;> simp only [hword, hstart, hdatabase, List.isEmpty_cons]
  have hreserved : isReserved a = isReserved b := by
    have hupper : Text.upper a = Text.upper b :=
      congrArg String.ofList (Text.flatMap_eq (p := Text.upperChar) h (by decide +kernel))
    rw [isReserved, isReserved, hupper]
  rw [checkName, checkName, hempty, hlength, hformed, hreserved]
  refine .ite Iff.rfl (fun _ => .error ⟨rfl, rfl⟩) fun _ => .ite Iff.rfl (fun _ => .error ⟨rfl, rfl⟩) fun _ => ?_
  exact .ite Iff.rfl (fun _ => .error ⟨rfl, rfl⟩) fun _ => .ite Iff.rfl (fun _ => .error ⟨rfl, rfl⟩)
    fun _ => .ok trivial

/-- A text is told in other letters. -/
def Retelling.recased : Retelling where
  names a b := Forall₂ SameLetter a.toList b.toList
  places := (· = ·)
  causes := Cause.SameCode
  key := Text.lowerLetters
  key_eq h := congrArg String.ofList (Text.map_toLower_eq_iff.2 h)
  function_eq h := by
    rw [Parse.aggregateName?, Parse.aggregateName?,
      Text.map_congr_of_sameLetters (p := Char.toUpper) h (by decide +kernel)]
  checkName kind _ _ := paired_checkName kind
  expected what t u h := by
    refine ⟨rfl, ?_⟩
    rw [Cause.code, Cause.code, Token.found, Token.found, h.kind]
    split <;> rfl
  misplaced _ _ _ _ _ := ⟨rfl, rfl⟩
  outOfRange _ _ _ _ := ⟨rfl, rfl⟩
  unsupported _ := .refl _
  checkPaging clause value := (Paired.refl _).mono fun _ _ _ => trivial

/-! ## Texts -/

/-- What keeps its letters: strings, and what follows AS. `kept` tells whether AS has just come. -/
def verbatim (kept : Bool) : List Token → List String
  | [] => []
  | t :: rest => (if kept || t.kind == .string then [t.lexeme] else []) ++ verbatim (t.isWord "AS") rest

theorem verbatim_cons {t u : Token} {ts us : List Token} {kept : Bool} (hkind : t.kind = u.kind)
    (h : verbatim kept (t :: ts) = verbatim kept (u :: us)) :
    (kept = true ∨ t.kind = .string → t.lexeme = u.lexeme) ∧
      verbatim (t.isWord "AS") ts = verbatim (u.isWord "AS") us := by
  rw [verbatim, verbatim, ← hkind] at h
  obtain ⟨hhere, hrest⟩ := List.append_inj h (by split <;> rfl)
  refine ⟨fun hkept => ?_, hrest⟩
  rw [if_pos (by simpa using hkept), if_pos (by simpa using hkept)] at hhere
  exact (List.cons.inj hhere).1

/-- After AS comes the same. -/
theorem head?_of_verbatim {ts us : List Token} (h : Forall₂ Token.Recased ts us)
    (hverbatim : verbatim true ts = verbatim true us) :
    ts.head?.map Token.lexeme = us.head?.map Token.lexeme := by
  cases h with
  | nil => rfl
  | cons hnext _ => exact congrArg some ((verbatim_cons hnext.kind hverbatim).1 (.inl rfl))

theorem Token.Recased.told {t u : Token} (h : t.Recased u) (hstring : t.kind = .string → t.lexeme = u.lexeme) :
    t.Told Retelling.recased.names Retelling.recased.places u := by
  refine ⟨h.kind, fun hname => ?_, fun _ => h.letters, h.place⟩
  by_cases hkind : t.kind = .string
  · exact hstring hkind
  · exact h.lexeme hname hkind

theorem retells_recased {ts us : List Token} {last last' : Token} {kept : Bool}
    (hts : ∀ t ∈ ts, t.kind ≠ .eof) (hlast : last.kind = .eof)
    (h : Forall₂ Token.Recased (ts ++ [last]) (us ++ [last']))
    (hverbatim : verbatim kept (ts ++ [last]) = verbatim kept (us ++ [last'])) :
    Retelling.recased.Retells (ts ++ [last]) (us ++ [last']) := by
  induction ts generalizing us kept with
  | nil =>
    obtain rfl : us = [] := by simpa using h.length_eq
    obtain ⟨hlasts, -⟩ := List.forall₂_cons.1 h
    exact .last (hlasts.told fun hstring => (verbatim_cons hlasts.kind hverbatim).1 (.inr hstring)) hlast
  | cons t ts ih =>
    cases us with
    | nil => simpa using h.length_eq
    | cons u us =>
      obtain ⟨htu, hrest⟩ := List.forall₂_cons.1 h
      obtain ⟨hkind, hts⟩ := List.forall_mem_cons.1 hts
      obtain ⟨hhere, hverbatim⟩ := verbatim_cons htu.kind hverbatim
      have htold := htu.told fun hstring => hhere (.inr hstring)
      rw [← Retelling.told_isWord htold] at hverbatim
      refine .more htold hkind (fun has => ?_) (ih hts hrest hverbatim)
      exact head?_of_verbatim hrest (has ▸ hverbatim)

/-- The letters of a text that keep their case. -/
def verbatimOf (sql : String) : List String :=
  match tokenize sql with
  | .ok tokens => verbatim false tokens
  | .error _ => []

/-- Texts that differ in the case of ASCII letters only, and not in strings and in what follows AS. -/
def recased (sql other : String) : Bool :=
  sql.toList.map Char.toLower == other.toList.map Char.toLower && verbatimOf sql == verbatimOf other

/-- **A statement is the same in any letter case**, the letters of its names apart, or it is refused
with the same code. -/
theorem paired_parse {a b : String} (h : recased a b = true) :
    Paired Cause.SameCode (fun S T => S.renamed Text.lowerLetters = T.renamed Text.lowerLetters)
      (parse a) (parse b) := by
  obtain ⟨hletters, hverbatim⟩ := (Bool.and_eq_true _ _).mp h
  have htokens := paired_tokensFrom (Text.map_toLower_eq_iff.1 (beq_iff_eq.1 hletters)) .start
  replace hverbatim := beq_iff_eq.1 hverbatim
  rw [verbatimOf, verbatimOf, tokenize, tokenize] at hverbatim
  rw [parse, parse, tokenize, tokenize]
  generalize hx : tokensFrom .start a.toList = x, hy : tokensFrom .start b.toList = y at htokens hverbatim ⊢
  cases htokens with
  | error hcause => exact .error hcause
  | ok htokens =>
    obtain ⟨ts, hts, rfl⟩ := (scans_iff.2 hx).ends
    obtain ⟨us, -, rfl⟩ := (scans_iff.2 hy).ends
    have hfollows := Retelling.follows_oneStatement _ _ (retells_recased hts rfl htokens hverbatim)
    exact hfollows.map fun _ _ hsame => hsame.1

end Sql

end RelStore
