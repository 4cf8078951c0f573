/-
Conditions are written as words.

`Expr.words` are the words of a condition: a compound condition inside another stands in
parentheses, and a whole number is written with its digits. These words stand for the condition in
the grammar, if it was read from some words and its numbers are safe integers (`Derives.renders`).
-/
import RelStore.Proofs.Binary64.Whole
import RelStore.Proofs.Sql.Spelling
import RelStore.Proofs.Sql.Statements

namespace RelStore

/-! ## Whole numbers -/

namespace Binary64

/-- The decimal text of a whole number. The sign of zero is written too. -/
def wholeText (x : Binary64) : String :=
  String.ofList ((if x.isNegative then ['-'] else []) ++ digitsOf x.truncate.natAbs)

theorem natAbs_tdiv_mul {a : Int} {b : Nat} (h : (b : Int) ∣ a) : (a.tdiv b).natAbs * b = a.natAbs := by
  have hdvd : b ∣ a.natAbs := Int.natCast_dvd.1 h
  rw [Int.natAbs_tdiv, Int.natAbs_natCast]
  exact Nat.div_mul_cancel hdvd

/-- A whole number counts as many units as its digits say. -/
theorem exists_of_isInteger {x : Binary64} (h : x.isInteger = true) :
    ∃ negative rank, x = .signed negative rank ∧ units rank.val = x.truncate.natAbs * unitsPerOne ∧
      x.isSafeInteger = decide (x.truncate.natAbs ≤ maxSafe) := by
  cases x with
  | nan => cases h
  | signed negative rank =>
    rw [isInteger, toInt?] at h
    split at h
    next hwhole =>
      have hdvd := Int.dvd_of_emod_eq_zero (beq_iff_eq.1 (Bool.and_eq_true_iff.1 hwhole).2)
      refine ⟨negative, rank, rfl,
        (natAbs_toUnits negative rank).symm.trans (natAbs_tdiv_mul hdvd).symm, ?_⟩
      rw [isSafeInteger, toInt?, if_pos hwhole, Option.any_some, ← Int.tdiv_eq_ediv_of_dvd hdvd]
      rfl
    next => cases h

theorem isInteger_of_isSafeInteger {x : Binary64} (h : x.isSafeInteger = true) :
    x.isInteger = true := by
  rw [isSafeInteger] at h
  rw [isInteger]
  cases hwhole : x.toInt? with
  | none =>
    rw [hwhole] at h
    cases h
  | some n => rfl

/-- A whole number is read back from its digits. -/
theorem toBinary64_truncate {x : Binary64} (h : x.isSafeInteger = true) :
    Decimal.toBinary64 ⟨x.isNegative, x.truncate.natAbs, 0⟩ = x := by
  obtain ⟨negative, rank, rfl, hunits, hsafe⟩ := exists_of_isInteger (isInteger_of_isSafeInteger h)
  rw [hsafe, decide_eq_true_iff] at h
  exact (Json.toBinary64_whole negative hunits h).trans (Json.ofRank_val negative rank)

theorem units_maxPaging : units (nearestRank (Sql.maxPaging * unitsPerOne) 1) =
    Sql.maxPaging * unitsPerOne := by
  decide +kernel

/-- The numbers that paging clauses take are safe. -/
theorem isSafeInteger_of_checkPaging {clause : PagingClause} {x : Binary64}
    (h : Sql.checkPaging clause x = .ok ()) : x.isSafeInteger = true := by
  rw [Sql.checkPaging] at h
  split at h
  next => cases h
  next hwhole =>
    split at h
    next => cases h
    next hlarge =>
      rw [Bool.or_eq_true, not_or, Bool.not_eq_true', Bool.not_eq_false] at hwhole
      obtain ⟨negative, rank, rfl, hunits, hsafe⟩ := exists_of_isInteger hwhole.1
      have hbelow : place negative rank.val < 0 ↔ (Binary64.signed negative rank).lt zero = true :=
        decide_eq_true_iff.symm
      have habove : ((min (nearestRank (Sql.maxPaging * unitsPerOne) 1) infinityRank : Nat) : Int) <
          place negative rank.val ↔ (ofNat Sql.maxPaging).lt (.signed negative rank) = true :=
        decide_eq_true_iff.symm
      have hrank : rank.val ≤ nearestRank (Sql.maxPaging * unitsPerOne) 1 := by
        rw [← hbelow] at hwhole
        rw [← habove] at hlarge
        cases negative
        · simp only [place_false] at hlarge
          omega
        · simp only [place_true] at hwhole
          omega
      have hle := strictMono_units.monotone hrank
      rw [hunits, units_maxPaging] at hle
      rw [hsafe, decide_eq_true_iff]
      exact (Nat.le_of_mul_le_mul_right hle unitsPerOne_pos).trans (by decide)

end Binary64

namespace Sql

theorem areDigits_digitsOf (n : Nat) : AreDigits (digitsOf n) :=
  ⟨List.length_pos_iff.1 (length_digitsOf_pos n), fun _ hc => isDigit_of_mem_digitsOf hc⟩

theorem isNumeral_wholeText (x : Binary64) : IsNumeral x.wholeText.toList := by
  rw [Binary64.wholeText, String.toList_ofList]
  split
  · exact .negativeWhole (areDigits_digitsOf _)
  · exact .whole (areDigits_digitsOf _)

theorem ofLexeme_digitsOf (negative : Bool) (n : Nat) :
    Decimal.ofLexeme ((if negative then ['-'] else []) ++ digitsOf n) = ⟨negative, n, 0⟩ := by
  have hdigit (c : Char) (hc : c ∈ digitsOf n) : (c != '.') = true ∧ c ≠ '-' := by
    have hc := isDigit_of_mem_digitsOf hc
    exact ⟨bne_iff_ne.2 (ne_of_class hc (by decide)), ne_of_class hc (by decide)⟩
  have htake : (digitsOf n).takeWhile (· != '.') = digitsOf n :=
    List.takeWhile_eq_self_iff.2 fun c hc => (hdigit c hc).1
  have hparts : Decimal.ofParts negative (digitsOf n) [] 0 = ⟨negative, n, 0⟩ := by
    rw [Decimal.ofParts, List.append_nil, digitsValue_digitsOf]
    rfl
  have hhead : ((digitsOf n).head? == some '-') = false := by
    cases hdigits : digitsOf n with
    | nil => rfl
    | cons c others =>
      have hc : c ∈ digitsOf n := by rw [hdigits]; exact List.mem_cons_self
      exact beq_false_of_ne fun heq => (hdigit c hc).2 (Option.some.inj heq)
  rw [← hparts]
  cases negative
  · simp [Decimal.ofLexeme, hhead, htake]
  · simp [Decimal.ofLexeme, htake]

theorem number_wholeText {x : Binary64} (h : x.isSafeInteger = true) :
    Word.number ⟨.number, x.wholeText⟩ = x := by
  have hlexeme : Decimal.ofLexeme x.wholeText.toList = ⟨x.isNegative, x.truncate.natAbs, 0⟩ := by
    rw [Binary64.wholeText, String.toList_ofList, ofLexeme_digitsOf]
  rw [Word.number, hlexeme, Binary64.toBinary64_truncate h]

end Sql

/-! ## The words of conditions -/

/-- The word of a literal. -/
def Value.word : Value → Sql.Word
  | none => .keyword "NULL"
  | some (.number x) => ⟨.number, x.wholeText⟩
  | some (.text s) => .quoted s
  | some (.bool b) => .keyword (if b then "TRUE" else "FALSE")

/-- A number is a safe integer, if the value is one. -/
def Value.IsSafe : Value → Prop
  | some (.number x) => x.isSafeInteger = true
  | _ => True

namespace Sql

/-- Lists of words with commas between them. -/
def separated (items : List (List Word)) : List Word := [.sign .comma].intercalate items

def ColumnRef.words (ref : ColumnRef) : List Word :=
  match ref.table with
  | some table => [.name table, .sign .dot, .name ref.column]
  | none => [.name ref.column]

def AggregateCall.words (call : AggregateCall) : List Word :=
  let argument := match call.argument with
    | some ref => ref.words
    | none => [.sign .star]
  .name call.fn.name :: .sign .lparen :: (argument ++ [.sign .rparen])

def Expr.isOperand : Expr → Bool
  | .literal _ | .column _ | .aggregate _ => true
  | _ => false

/-- The words of a condition inside another: in parentheses, if it is compound. -/
def Expr.inner (e : Expr) (words : List Word) : List Word :=
  if e.isOperand then words else .sign .lparen :: (words ++ [.sign .rparen])

mutual

/-- The words of a condition. -/
def Expr.words : Expr → List Word
  | .literal value => [value.word]
  | .column ref => ref.words
  | .aggregate call => call.words
  | .comparison op left right => left.inner left.words ++ op.word :: right.inner right.words
  | .and left right => left.inner left.words ++ .keyword "AND" :: right.inner right.words
  | .or left right => left.inner left.words ++ .keyword "OR" :: right.inner right.words
  | .not operand => .keyword "NOT" :: operand.inner operand.words
  | .isNull operand negated =>
    operand.inner operand.words ++ .keyword "IS" :: (wordIf negated "NOT" ++ [.keyword "NULL"])
  | .between operand low high negated =>
    operand.inner operand.words ++ (wordIf negated "NOT" ++ .keyword "BETWEEN" ::
      (low.inner low.words ++ .keyword "AND" :: high.inner high.words))
  | .inList operand values negated =>
    operand.inner operand.words ++ (wordIf negated "NOT" ++ .keyword "IN" :: .sign .lparen ::
      (separated (wordsOfAll values) ++ [.sign .rparen]))
  | .like operand pattern negated =>
    operand.inner operand.words ++ (wordIf negated "NOT" ++ [.keyword "LIKE", .quoted pattern])
  | .unknown _ => []

def wordsOfAll : List Expr → List (List Word)
  | [] => []
  | value :: rest => value.inner value.words :: wordsOfAll rest

end

mutual

/-- The literals in a condition. -/
def Expr.literals : Expr → List Value
  | .literal value => [value]
  | .column _ | .aggregate _ | .unknown _ => []
  | .comparison _ left right | .and left right | .or left right => left.literals ++ right.literals
  | .not operand | .isNull operand _ | .like operand _ _ => operand.literals
  | .between operand low high _ => operand.literals ++ (low.literals ++ high.literals)
  | .inList operand values _ => operand.literals ++ literalsOfAll values

def literalsOfAll : List Expr → List Value
  | [] => []
  | value :: rest => value.literals ++ literalsOfAll rest

end

theorem wordsOfAll_eq (values : List Expr) : wordsOfAll values = values.map fun e => e.inner e.words := by
  induction values with
  | nil => rfl
  | cons value rest ih => rw [wordsOfAll, ih, List.map_cons]

theorem literalsOfAll_eq (values : List Expr) : literalsOfAll values = values.flatMap Expr.literals := by
  induction values with
  | nil => rfl
  | cons value rest ih => rw [literalsOfAll, ih, List.flatMap_cons]

/-! ## Words that can be written -/

section

variable {word : Word} {words others : List Word}

theorem allSpoken_nil : AllSpoken [] := nofun

theorem allSpoken_cons : AllSpoken (word :: words) ↔ word.Spoken ∧ AllSpoken words :=
  List.forall_mem_cons

theorem allSpoken_append : AllSpoken (words ++ others) ↔ AllSpoken words ∧ AllSpoken others :=
  List.forall_mem_append

theorem spoken_keyword {word : String} (h : word ∈ keywords) : Word.Spoken (.keyword word) :=
  ⟨h, nofun⟩

theorem spoken_sign {kind : TokenKind}
    (h : kind ∈ [.equals, .comma, .lparen, .rparen, .semicolon, .star, .dot]) :
    Word.Spoken (.sign kind) := by
  simp only [List.mem_cons, List.not_mem_nil, or_false] at h
  rcases h with rfl | rfl | rfl | rfl | rfl | rfl | rfl <;> exact ⟨rfl, nofun⟩

theorem allSpoken_wordIf {present : Bool} {word : String} (h : word ∈ keywords) :
    AllSpoken (wordIf present word) := by
  cases present
  · exact allSpoken_nil
  · exact allSpoken_cons.2 ⟨spoken_keyword h, allSpoken_nil⟩

end

/-! ## What words stand for -/

section

variable {α : Type} {item : List Word → α → Prop} {words : List Word} {render : α → List Word}

/-- The words stand for `a` and can be written. -/
structure Renders (item : List Word → α → Prop) (a : α) (words : List Word) : Prop where
  stands : item words a
  spoken : AllSpoken words

theorem separated_singleton (words : List Word) : separated [words] = words := by
  simp [separated, List.intercalate]

theorem separated_cons_cons (words next : List Word) (rest : List (List Word)) :
    separated (words :: next :: rest) = words ++ .sign .comma :: separated (next :: rest) := by
  simp [separated, List.intercalate]

theorem Listed.renders {items : List α} (h : Listed item words items) (hwords : AllSpoken words)
    (hitem : ∀ words a, a ∈ items → item words a → AllSpoken words → Renders item a (render a)) :
    Renders (Listed item) items (separated (items.map render)) := by
  induction h with
  | one h =>
    rw [List.map_singleton, separated_singleton]
    obtain ⟨hstands, hspoken⟩ := hitem _ _ List.mem_cons_self h hwords
    exact ⟨.one hstands, hspoken⟩
  | more h hrest ih =>
    obtain ⟨hfirst, hothers⟩ := allSpoken_append.1 hwords
    obtain ⟨hcomma, hothers⟩ := allSpoken_cons.1 hothers
    obtain ⟨hstands, hspoken⟩ := hitem _ _ List.mem_cons_self h hfirst
    obtain ⟨hstandsRest, hspokenRest⟩ :=
      ih hothers fun words a ha => hitem words a (List.mem_cons_of_mem _ ha)
    cases hrest with
    | one _ =>
      rw [List.map_cons, List.map_singleton, separated_cons_cons]
      exact ⟨.more hstands hstandsRest,
        allSpoken_append.2 ⟨hspoken, allSpoken_cons.2 ⟨hcomma, hspokenRest⟩⟩⟩
    | more _ _ =>
      rw [List.map_cons, List.map_cons, separated_cons_cons]
      exact ⟨.more hstands hstandsRest,
        allSpoken_append.2 ⟨hspoken, allSpoken_cons.2 ⟨hcomma, hspokenRest⟩⟩⟩

/-- The words of a part that may be missing. -/
def wordsOf? (render : α → List Word) : Option α → List Word
  | none => []
  | some a => render a

theorem Optionally.renders {a? : Option α} (h : Optionally item words a?) (hwords : AllSpoken words)
    (hitem : ∀ words, ∀ a ∈ a?, item words a → AllSpoken words → Renders item a (render a)) :
    Renders (Optionally item) a? (wordsOf? render a?) := by
  cases h with
  | absent => exact ⟨.absent, allSpoken_nil⟩
  | present h =>
    obtain ⟨hstands, hspoken⟩ := hitem _ _ rfl h hwords
    exact ⟨.present hstands, hspoken⟩

end

/-! ## Operands are rendered -/

section

variable {clause : Clause} {words : List Word}

theorem renders_literal {value : Value} {word : Word} (h : IsLiteral word value) (hword : word.Spoken)
    (hsafe : value.IsSafe) : IsLiteral value.word value ∧ value.word.Spoken := by
  cases h with
  | number numeral _ =>
    refine ⟨?_, isNumeral_wholeText _, nofun⟩
    have hliteral := IsLiteral.number (Binary64.wholeText _) fun _ =>
      .inr ((congrArg Binary64.isSafeInteger (number_wholeText hsafe)).trans hsafe)
    rwa [number_wholeText hsafe] at hliteral
  | text content => exact ⟨.text content, hword⟩
  | true => exact ⟨.true, hword⟩
  | false => exact ⟨.false, hword⟩
  | null => exact ⟨.null, hword⟩

theorem IsColumn.renders {ref : ColumnRef} (h : IsColumn words ref) (hwords : AllSpoken words) :
    Renders IsColumn ref ref.words := by
  cases h with
  | alone column => exact ⟨.alone column, hwords⟩
  | qualified table column => exact ⟨.qualified table column, hwords⟩

theorem isFunction_name (fn : AggregateFn) : IsFunction fn.name fn := by
  cases fn <;> rfl

/-- The names of aggregate functions are no keywords. -/
theorem spoken_function (fn : AggregateFn) : Word.Spoken (.name fn.name) := by
  have hother : String.ofList (fn.name.toList.map Char.toUpper) ∉ keywords := by
    rw [show _ = fn.name from isFunction_name fn]
    cases fn <;> decide
  refine ⟨⟨?_, hother⟩, nofun⟩
  cases fn <;> exact ⟨_, _, rfl, rfl, List.all_eq_true.1 (by decide)⟩

theorem IsAggregate.renders {call : AggregateCall} (h : IsAggregate words call)
    (hwords : AllSpoken words) : Renders IsAggregate call call.words := by
  cases h with
  | rows _ =>
    refine ⟨.rows (isFunction_name _), allSpoken_cons.2 ⟨spoken_function _, ?_⟩⟩
    exact (allSpoken_cons.1 hwords).2
  | column _ hcolumn =>
    obtain ⟨hopening, hwords⟩ := allSpoken_cons.1 (allSpoken_cons.1 hwords).2
    obtain ⟨hstands, hspoken⟩ := hcolumn.renders (allSpoken_append.1 hwords).1
    exact ⟨.column (isFunction_name _) hstands, allSpoken_cons.2 ⟨spoken_function _,
      allSpoken_cons.2 ⟨hopening, allSpoken_append.2 ⟨hspoken, (allSpoken_append.1 hwords).2⟩⟩⟩⟩

theorem IsOperand.isOperand {e : Expr} (h : IsOperand clause words e) : e.isOperand = true := by
  cases h <;> rfl

theorem IsOperand.renders {e : Expr} (h : IsOperand clause words e) (hwords : AllSpoken words)
    (hsafe : ∀ value ∈ e.literals, value.IsSafe) : Renders (IsOperand clause) e (e.inner e.words) := by
  rw [Expr.inner, if_pos h.isOperand]
  cases h with
  | literal h =>
    obtain ⟨hliteral, hspoken⟩ := renders_literal h (hwords _ (List.mem_singleton_self _))
      (hsafe _ (List.mem_singleton_self _))
    exact ⟨.literal hliteral, allSpoken_cons.2 ⟨hspoken, allSpoken_nil⟩⟩
  | column h =>
    obtain ⟨hstands, hspoken⟩ := h.renders hwords
    exact ⟨.column hstands, hspoken⟩
  | aggregate hclause h =>
    obtain ⟨hstands, hspoken⟩ := h.renders hwords
    exact ⟨.aggregate hclause hstands, hspoken⟩

end

/-! ## Conditions are rendered -/

section

variable {clause : Clause} {words : List Word} {e left : Expr}

/-- The words of a condition stand for it, and so do those that it has inside another. -/
structure Rendered (clause : Clause) (e : Expr) : Prop where
  alone : Renders (Derives clause .expr) e e.words
  within : Renders (Derives clause .predicate) e (e.inner e.words)

theorem Rendered.ofCompound (he : e.isOperand = false) (h : Renders (Derives clause .expr) e e.words) :
    Rendered clause e := by
  refine ⟨h, ?_⟩
  rw [Expr.inner, if_neg (Bool.eq_false_iff.1 he)]
  exact ⟨.parentheses h.stands, allSpoken_cons.2 ⟨spoken_sign (by decide),
    allSpoken_append.2 ⟨h.spoken, allSpoken_cons.2 ⟨spoken_sign (by decide), allSpoken_nil⟩⟩⟩⟩

theorem Rendered.ofOperand (h : IsOperand clause words e)
    (hoperand : Renders (IsOperand clause) e (e.inner e.words)) : Rendered clause e := by
  have hpredicate : Derives clause .predicate (e.inner e.words) e := by
    rw [← List.append_nil (e.inner e.words)]
    exact .test hoperand.stands .none
  have hwithin : Renders (Derives clause .predicate) e (e.inner e.words) :=
    ⟨hpredicate, hoperand.spoken⟩
  refine ⟨?_, hwithin⟩
  rw [Expr.inner, if_pos h.isOperand] at hwithin
  exact ⟨.conjunct (.negation (.predicate hwithin.stands)), hwithin.spoken⟩

theorem Rendered.ofTest (hleft : Renders (IsOperand clause) left (left.inner left.words))
    (he : e.isOperand = false) (h : Renders (IsTest clause left) e words)
    (hwords : e.words = left.inner left.words ++ words) : Rendered clause e := by
  refine .ofCompound he ?_
  rw [hwords]
  exact ⟨.conjunct (.negation (.predicate (.test hleft.stands h.stands))),
    allSpoken_append.2 ⟨hleft.spoken, h.spoken⟩⟩

theorem IsTest.rendered (hoperand : IsOperand clause words left) {others : List Word}
    (h : IsTest clause left others e) (hwords : AllSpoken words) (hothers : AllSpoken others)
    (hsafe : ∀ value ∈ e.literals, value.IsSafe) : Rendered clause e := by
  cases h with
  | none => exact .ofOperand hoperand (hoperand.renders hwords hsafe)
  | comparison op h =>
    obtain ⟨hsafeLeft, hsafeRight⟩ := List.forall_mem_append.1 hsafe
    obtain ⟨hop, hright⟩ := allSpoken_cons.1 hothers
    obtain ⟨hstands, hspoken⟩ := h.renders hright hsafeRight
    exact .ofTest (hoperand.renders hwords hsafeLeft) rfl
      ⟨.comparison op hstands, allSpoken_cons.2 ⟨hop, hspoken⟩⟩ rfl
  | isNull negated =>
    exact .ofTest (hoperand.renders hwords hsafe) rfl ⟨.isNull negated, hothers⟩ rfl
  | between negated hlow hhigh =>
    obtain ⟨hsafeLeft, hsafe⟩ := List.forall_mem_append.1 hsafe
    obtain ⟨hsafeLow, hsafeHigh⟩ := List.forall_mem_append.1 hsafe
    obtain ⟨hnegated, hothers⟩ := allSpoken_append.1 hothers
    obtain ⟨hbetween, hothers⟩ := allSpoken_cons.1 hothers
    obtain ⟨hlowWords, hothers⟩ := allSpoken_append.1 hothers
    obtain ⟨hand, hhighWords⟩ := allSpoken_cons.1 hothers
    obtain ⟨hstandsLow, hspokenLow⟩ := hlow.renders hlowWords hsafeLow
    obtain ⟨hstandsHigh, hspokenHigh⟩ := hhigh.renders hhighWords hsafeHigh
    exact .ofTest (hoperand.renders hwords hsafeLeft) rfl
      ⟨.between negated hstandsLow hstandsHigh,
        allSpoken_append.2 ⟨hnegated, allSpoken_cons.2 ⟨hbetween,
          allSpoken_append.2 ⟨hspokenLow, allSpoken_cons.2 ⟨hand, hspokenHigh⟩⟩⟩⟩⟩ rfl
  | inList negated h =>
    rename_i values
    obtain ⟨hsafeLeft, hsafe⟩ := List.forall_mem_append.1 hsafe
    rw [literalsOfAll_eq] at hsafe
    have hsafe := List.forall_mem_flatMap.1 hsafe
    obtain ⟨hnegated, hothers⟩ := allSpoken_append.1 hothers
    obtain ⟨hin, hothers⟩ := allSpoken_cons.1 hothers
    obtain ⟨hopening, hothers⟩ := allSpoken_cons.1 hothers
    obtain ⟨hvalues, hclosing⟩ := allSpoken_append.1 hothers
    obtain ⟨hstands, hspoken⟩ := h.renders hvalues fun words value hmem hvalue hspoken =>
      hvalue.renders hspoken (hsafe value hmem)
    have hwordsOfAll : wordsOfAll values = values.map fun e => e.inner e.words := wordsOfAll_eq values
    rw [← hwordsOfAll] at hstands hspoken
    exact .ofTest (hoperand.renders hwords hsafeLeft) rfl
      ⟨.inList negated hstands, allSpoken_append.2 ⟨hnegated, allSpoken_cons.2 ⟨hin,
        allSpoken_cons.2 ⟨hopening, allSpoken_append.2 ⟨hspoken, hclosing⟩⟩⟩⟩⟩ rfl
  | like negated pattern =>
    exact .ofTest (hoperand.renders hwords hsafe) rfl ⟨.like negated pattern, hothers⟩ rfl

/-- The words of a derived condition can be derived again. -/
theorem Derives.rendered {symbol : Nonterminal} (h : Derives clause symbol words e)
    (hwords : AllSpoken words) (hsafe : ∀ value ∈ e.literals, value.IsSafe) : Rendered clause e := by
  induction h with
  | or hleft hright ihLeft ihRight =>
    obtain ⟨hsafeLeft, hsafeRight⟩ := List.forall_mem_append.1 hsafe
    obtain ⟨hleftWords, hwords⟩ := allSpoken_append.1 hwords
    obtain ⟨hor, hrightWords⟩ := allSpoken_cons.1 hwords
    obtain ⟨hstandsLeft, hspokenLeft⟩ := (ihLeft hleftWords hsafeLeft).within
    obtain ⟨hstandsRight, hspokenRight⟩ := (ihRight hrightWords hsafeRight).within
    exact .ofCompound rfl
      ⟨.or (.conjunct (.negation (.predicate hstandsLeft))) (.negation (.predicate hstandsRight)),
        allSpoken_append.2 ⟨hspokenLeft, allSpoken_cons.2 ⟨hor, hspokenRight⟩⟩⟩
  | conjunct _ ih => exact ih hwords hsafe
  | and hleft hright ihLeft ihRight =>
    obtain ⟨hsafeLeft, hsafeRight⟩ := List.forall_mem_append.1 hsafe
    obtain ⟨hleftWords, hwords⟩ := allSpoken_append.1 hwords
    obtain ⟨hand, hrightWords⟩ := allSpoken_cons.1 hwords
    obtain ⟨hstandsLeft, hspokenLeft⟩ := (ihLeft hleftWords hsafeLeft).within
    obtain ⟨hstandsRight, hspokenRight⟩ := (ihRight hrightWords hsafeRight).within
    exact .ofCompound rfl
      ⟨.conjunct (.and (.negation (.predicate hstandsLeft)) (.predicate hstandsRight)),
        allSpoken_append.2 ⟨hspokenLeft, allSpoken_cons.2 ⟨hand, hspokenRight⟩⟩⟩
  | negation _ ih => exact ih hwords hsafe
  | not _ ih =>
    obtain ⟨hnot, hwords⟩ := allSpoken_cons.1 hwords
    obtain ⟨hstands, hspoken⟩ := (ih hwords hsafe).within
    exact .ofCompound rfl
      ⟨.conjunct (.negation (.not (.predicate hstands))), allSpoken_cons.2 ⟨hnot, hspoken⟩⟩
  | predicate _ ih => exact ih hwords hsafe
  | parentheses _ ih =>
    exact ih (allSpoken_append.1 (allSpoken_cons.1 hwords).2).1 hsafe
  | test hleft h =>
    obtain ⟨hwords, hothers⟩ := allSpoken_append.1 hwords
    exact h.rendered hleft hwords hothers hsafe

theorem Derives.renders {symbol : Nonterminal} (h : Derives clause symbol words e)
    (hwords : AllSpoken words) (hsafe : ∀ value ∈ e.literals, value.IsSafe) :
    Renders (Derives clause .expr) e e.words :=
  (h.rendered hwords hsafe).alone

end

end Sql

end RelStore
