/-
Numbers are read back from their texts.

A text of a number is a numeral: digits, perhaps some after a point, and perhaps a power of ten
(`numeral`). What is written is read as these parts (`number?_numeral`), whether the digits are
laid out around the point or before a power (`layout_eq_numeral`), and the parts stand for the
number that was written, zero without its sign (`reads_number`).
-/
import RelStore.Proofs.Decimal.Shortest
import RelStore.Proofs.Json.Reading

namespace RelStore

/-- What a number is read back as. Zero is written without its sign. -/
def Binary64.readBack : Binary64 → Binary64
  | .nan => .nan
  | .signed negative rank => .signed (negative && rank.val != 0) rank

namespace Json

variable {digits whole fraction rest : List Char} {power : Option Int} {c : Char}

def Digits (chars : List Char) : Prop := ∀ c ∈ chars, c.isDigit = true

/-- Digits do not go on here. -/
def NoDigit (rest : List Char) : Prop := ∀ c ∈ rest.head?, c.isDigit = false

/-- Digits of a whole number, without zeros in front. -/
structure WholeDigits (whole : List Char) : Prop where
  digits : Digits whole
  front : whole = ['0'] ∨ ∃ c others, whole = c :: others ∧ c ≠ '0'

theorem WholeDigits.exists_cons (h : WholeDigits whole) :
    ∃ c others, whole = c :: others ∧ c.isDigit = true := by
  rcases h.front with rfl | ⟨c, others, rfl, -⟩
  · exact ⟨'0', [], rfl, rfl⟩
  · exact ⟨c, others, rfl, h.digits c List.mem_cons_self⟩

/-! ## Numerals -/

def fractionText (fraction : List Char) : List Char :=
  if fraction.isEmpty then [] else '.' :: fraction

def powerText : Option Int → List Char
  | none => []
  | some power => 'e' :: (if power < 0 then '-' else '+') :: digitsOf power.natAbs

def numeral (whole fraction : List Char) (power : Option Int) : List Char :=
  whole ++ (fractionText fraction ++ powerText power)

theorem digits?_append (hdigits : Digits digits) (hne : digits ≠ []) (hrest : NoDigit rest) :
    digits? (digits ++ rest) = some (digits, rest) := by
  have hstop : rest.takeWhile Char.isDigit = [] ∧ rest.dropWhile Char.isDigit = rest := by
    cases rest with
    | nil => exact ⟨rfl, rfl⟩
    | cons c others =>
      have hc := hrest c rfl
      exact ⟨List.takeWhile_cons_of_neg (by simp [hc]), List.dropWhile_cons_of_neg (by simp [hc])⟩
  have htake : (digits ++ rest).takeWhile Char.isDigit = digits := by
    rw [List.takeWhile_append_of_pos hdigits, hstop.1, List.append_nil]
  have hdrop : (digits ++ rest).dropWhile Char.isDigit = rest := by
    rw [List.dropWhile_append_of_pos hdigits, hstop.2]
  have hsome : digits.isEmpty = false := by simpa using hne
  simp only [digits?, htake, hdrop, hsome, Bool.false_eq_true, if_false]

theorem whole?_append (hwhole : WholeDigits whole) (hrest : NoDigit rest) :
    whole? (whole ++ rest) = some (whole, rest) := by
  rcases hwhole.front with rfl | ⟨c, others, rfl, hc⟩
  · rfl
  · rw [← digits?_append hwhole.digits (List.cons_ne_nil _ _) hrest, List.cons_append, whole?]
    rintro _ ⟨rfl, -⟩
    exact hc rfl

theorem Follows.noDigit (h : Follows rest) : NoDigit rest := by
  intro c hc
  rcases h c hc with rfl | rfl <;> decide

theorem fraction?_append (hfraction : Digits fraction) (hrest : NoDigit rest)
    (hpoint : rest.head? ≠ some '.') :
    fraction? (fractionText fraction ++ rest) = some (fraction, rest) := by
  cases fraction with
  | nil =>
    cases rest with
    | nil => rfl
    | cons c others =>
      rw [fractionText, List.isEmpty_nil, if_pos rfl, List.nil_append, fraction?]
      rintro _ ⟨rfl, -⟩
      exact hpoint rfl
  | cons c others => exact digits?_append hfraction (List.cons_ne_nil _ _) hrest

theorem digits_digitsOf (n : Nat) : Digits (digitsOf n) := fun _ => isDigit_of_mem_digitsOf

theorem power?_append (hrest : Follows rest) :
    power? (powerText power ++ rest) = some (power.getD 0, rest) := by
  cases power with
  | none =>
    cases rest with
    | nil => rfl
    | cons c others => rcases hrest c rfl with rfl | rfl <;> rfl
  | some p =>
    have hread : digits? (digitsOf p.natAbs ++ rest) = some (digitsOf p.natAbs, rest) :=
      digits?_append (digits_digitsOf _) (List.length_pos_iff.1 (length_digitsOf_pos _))
        hrest.noDigit
    have hpower (others : List Char) : power? ('e' :: others) = powerDigits? others := rfl
    have hminus (others : List Char) : powerDigits? ('-' :: others) =
      (digits? others).map fun parsed => (-(digitsValue parsed.1 : Int), parsed.2) := rfl
    have hplus (others : List Char) : powerDigits? ('+' :: others) =
      (digits? others).map fun parsed => ((digitsValue parsed.1 : Int), parsed.2) := rfl
    by_cases hneg : p < 0
    · have hvalue : -((p.natAbs : Nat) : Int) = p := by omega
      simp only [powerText, if_pos hneg, List.cons_append, hpower, hminus, hread, Option.map_some,
        digitsValue_digitsOf, hvalue, Option.getD_some]
    · have hvalue : ((p.natAbs : Nat) : Int) = p := by omega
      simp only [powerText, if_neg hneg, List.cons_append, hpower, hplus, hread, Option.map_some,
        digitsValue_digitsOf, hvalue, Option.getD_some]

theorem noDigit_powerText (hrest : Follows rest) : NoDigit (powerText power ++ rest) := by
  cases power with
  | none => exact hrest.noDigit
  | some p =>
    intro c hc
    obtain rfl : 'e' = c := Option.some.inj hc
    decide

theorem head?_powerText_ne (hrest : Follows rest) :
    (powerText power ++ rest).head? ≠ some '.' := by
  cases power with
  | none =>
    intro hhead
    rcases hrest '.' hhead with h | h
    · cases h
    · cases h
  | some p => exact fun h => nomatch h

theorem noDigit_fractionText (hrest : NoDigit rest) : NoDigit (fractionText fraction ++ rest) := by
  cases fraction with
  | nil => exact hrest
  | cons _ _ =>
    intro c hc
    obtain rfl : '.' = c := Option.some.inj hc
    decide

/-- **A numeral is read as its parts.** -/
theorem number?_numeral (negative : Bool) (hwhole : WholeDigits whole) (hfraction : Digits fraction)
    (hrest : Follows rest) :
    number? ((if negative then ['-'] else []) ++ numeral whole fraction power ++ rest) =
      some ((Decimal.ofParts negative whole fraction (power.getD 0)).toBinary64, rest) := by
  have hread : whole? (numeral whole fraction power ++ rest) =
      some (whole, fractionText fraction ++ (powerText power ++ rest)) := by
    rw [numeral, List.append_assoc, List.append_assoc]
    exact whole?_append hwhole (noDigit_fractionText (noDigit_powerText hrest))
  have hfraction : fraction? (fractionText fraction ++ (powerText power ++ rest)) =
      some (fraction, powerText power ++ rest) :=
    fraction?_append hfraction (noDigit_powerText hrest) (head?_powerText_ne hrest)
  have hpower : power? (powerText power ++ rest) = some (power.getD 0, rest) := power?_append hrest
  have hnotMinus : (numeral whole fraction power ++ rest).head? ≠ some '-' := by
    obtain ⟨c, others, rfl, hc⟩ := hwhole.exists_cons
    simp only [numeral, List.cons_append, List.head?_cons, ne_eq, Option.some.injEq]
    rintro rfl
    revert hc
    decide
  cases negative with
  | true =>
    simp only [number?, if_true, List.cons_append, List.nil_append, List.head?_cons, beq_self_eq_true,
      List.tail_cons, hread, Option.bind_eq_bind, Option.bind_some, hfraction, hpower]
  | false =>
    have hsign : ((numeral whole fraction power ++ rest).head? == some '-') = false := by
      simpa using hnotMinus
    simp only [number?, Bool.false_eq_true, if_false, List.nil_append, hsign, hread,
      Option.bind_eq_bind, Option.bind_some, hfraction, hpower]

/-! ## Texts of magnitudes -/

open Binary64

/-- A text is a numeral that stands for a decimal, of either sign. -/
def StandsFor (text : List Char) (digits : Nat) (exponent : Int) : Prop :=
  ∃ whole fraction power, text = numeral whole fraction power ∧ WholeDigits whole ∧
    Digits fraction ∧ ∀ negative, (Decimal.ofParts negative whole fraction (power.getD 0)).toBinary64 =
      Decimal.toBinary64 ⟨negative, digits, exponent⟩

theorem digits_replicate_zero (count : Nat) : Digits (List.replicate count '0') := by
  intro c hc
  rw [List.eq_of_mem_replicate hc]
  rfl

theorem Digits.append (hdigits : Digits digits) (hrest : Digits rest) : Digits (digits ++ rest) := by
  intro c hc
  rcases List.mem_append.1 hc with hc | hc
  · exact hdigits c hc
  · exact hrest c hc

section

variable {others : List Char} {n k : Nat} {exponent : Int}

/-- The digits of a decimal, which begin with another than `0`. -/
structure DigitsOf (c : Char) (others : List Char) (n : Nat) : Prop where
  digits : Digits (c :: others)
  front : c ≠ '0'
  value : digitsValue (c :: others) = n

/-- A whole number: the power of ten becomes zeros. -/
theorem standsFor_zeros (h : DigitsOf c others n) (hk : exponent = k) :
    StandsFor ((c :: others) ++ List.replicate k '0') n exponent := by
  refine ⟨(c :: others) ++ List.replicate k '0', [], none, by simp [numeral, fractionText, powerText],
    ⟨h.digits.append (digits_replicate_zero k), .inr ⟨c, _, rfl, h.front⟩⟩, nofun,
    fun negative => ?_⟩
  have hscale := Decimal.toBinary64_scale negative n exponent k
  rw [show exponent - (k : Int) = 0 by omega] at hscale
  rw [← hscale, Decimal.ofParts, List.append_nil, digitsValue_append, h.value,
    digitsValue_replicate_zero, List.length_replicate, Nat.add_zero, Nat.mul_comm]
  rfl

/-- The point stands among the digits. -/
theorem standsFor_inner (h : DigitsOf c others n) (hfew : k < others.length)
    (hk : exponent = k - (others.length : Int)) :
    StandsFor ((c :: others).take (k + 1) ++ '.' :: (c :: others).drop (k + 1)) n exponent := by
  have hne : (others.drop k).isEmpty = false := by
    rw [List.isEmpty_eq_false_iff, ne_eq, List.drop_eq_nil_iff]
    omega
  refine ⟨c :: others.take k, others.drop k, none, by simp [numeral, fractionText, hne, powerText],
    ⟨fun d hd => h.digits d ?_, .inr ⟨c, _, rfl, h.front⟩⟩,
    fun d hd => h.digits d (List.mem_cons_of_mem _ (List.mem_of_mem_drop hd)), fun negative => ?_⟩
  · exact List.mem_of_mem_take (i := k + 1) hd
  · rw [Decimal.ofParts, List.cons_append, List.take_append_drop, h.value, List.length_drop]
    congr 2
    rw [Option.getD_none]
    omega

/-- The point stands before the digits. -/
theorem standsFor_before (h : DigitsOf c others n)
    (hk : exponent = -(k : Int) - (c :: others).length) :
    StandsFor ('0' :: '.' :: List.replicate k '0' ++ (c :: others)) n exponent := by
  refine ⟨['0'], List.replicate k '0' ++ (c :: others), none,
    by simp [numeral, fractionText, powerText], ⟨digits_replicate_zero 1, .inl rfl⟩,
    (digits_replicate_zero k).append h.digits, fun negative => ?_⟩
  rw [Decimal.ofParts, ← List.append_assoc, digitsValue_append, h.value, List.singleton_append,
    ← List.replicate_succ, digitsValue_replicate_zero, Nat.mul_zero, Nat.zero_add,
    List.length_append, List.length_replicate]
  congr 2
  rw [Option.getD_none]
  omega

/-- The power of ten is written out. -/
theorem standsFor_power (h : DigitsOf c others n) {power : Int}
    (hk : exponent = power - others.length) :
    StandsFor (numeral [c] others (some power)) n exponent := by
  refine ⟨[c], others, some power, rfl, ⟨fun d hd => h.digits d ?_, .inr ⟨c, [], rfl, h.front⟩⟩,
    fun d hd => h.digits d (List.mem_cons_of_mem _ hd), fun negative => ?_⟩
  · rw [List.mem_singleton.1 hd]
    exact List.mem_cons_self
  · rw [Decimal.ofParts, List.singleton_append, h.value]
    congr 2
    exact hk.symm

/-- However the digits of a decimal are laid out, they stand for it. -/
theorem standsFor_layout (hn : 0 < n) :
    StandsFor (layout (digitsOf n) ((digitsOf n).length + exponent)) n exponent := by
  obtain ⟨c, others, hdigits, hc⟩ := digitsOf_eq_cons hn
  have h : DigitsOf c others n :=
    ⟨hdigits ▸ digits_digitsOf n, hc, hdigits ▸ digitsValue_digitsOf n⟩
  have hlength : (c :: others).length = others.length + 1 := rfl
  rw [hdigits]
  simp only [layout]
  split
  next hwhole => exact standsFor_zeros h (by omega)
  next =>
    split
    next hpoint =>
      obtain ⟨k, hk⟩ := Int.eq_ofNat_of_zero_le
        (show 0 ≤ ((c :: others).length : Int) + exponent - 1 by omega)
      rw [show (((c :: others).length : Int) + exponent).toNat = k + 1 by omega]
      exact standsFor_inner h (by omega) (by omega)
    next =>
      split
      next hpoint => exact standsFor_before h (by omega)
      next =>
        have hpower := standsFor_power h
          (show exponent = ((c :: others).length : Int) + exponent - 1 - others.length by omega)
        cases others <;> simpa [numeral, fractionText, powerText] using hpower

theorem standsFor_digitsOf (n : Nat) : StandsFor (digitsOf n) n 0 := by
  have hfront : digitsOf n = ['0'] ∨ ∃ c others, digitsOf n = c :: others ∧ c ≠ '0' := by
    rcases Nat.eq_zero_or_pos n with rfl | hn
    · exact .inl rfl
    · exact .inr (digitsOf_eq_cons hn)
  refine ⟨digitsOf n, [], none, by simp [numeral, fractionText, powerText],
    ⟨digits_digitsOf n, hfront⟩, nofun, fun negative => ?_⟩
  rw [Decimal.ofParts, List.append_nil, digitsValue_digitsOf]
  rfl

end

/-- A safe whole number is read back from its digits. -/
theorem toBinary64_whole {rank whole : Nat} (negative : Bool)
    (hunits : units rank = whole * unitsPerOne) (hsafe : whole ≤ maxSafe) :
    Decimal.toBinary64 ⟨negative, whole, 0⟩ = ofRank negative rank := by
  rcases Nat.eq_zero_or_pos whole with rfl | hpos
  · have hzero : rank = 0 := by
      by_contra hne
      have := units_pos (Nat.pos_of_ne_zero hne)
      omega
    rw [hzero]
    rfl
  · have hlength : (digitsOf whole).length ≤ 16 := by
      rw [length_digitsOf_le_iff (by decide)]
      exact hsafe.trans_lt (by decide)
    rw [Decimal.toBinary64_eq hpos.ne' (by omega) (by omega), ofRatio, ofUnits]
    have hrank := nearestRank_units rank
    rw [hunits] at hrank
    simpa using congrArg (ofRank negative) hrank

theorem magnitudeText_of_whole {rank : Nat}
    (h : units rank % unitsPerOne = 0 ∧ units rank / unitsPerOne ≤ maxSafe) :
    magnitudeText rank = digitsOf (units rank / unitsPerOne) := by
  rw [magnitudeText, if_pos h]

theorem magnitudeText_of_shortest {rank digits : Nat} {exponent : Int}
    (hno : ¬ (units rank % unitsPerOne = 0 ∧ units rank / unitsPerOne ≤ maxSafe))
    (h : shortestDigits rank = (digits, exponent)) :
    magnitudeText rank = layout (digitsOf digits) ((digitsOf digits).length + exponent) := by
  rw [magnitudeText, if_neg hno, h]

theorem units_zero : units 0 = 0 := rfl

theorem ofRank_injective {rank other : Nat} {negative : Bool} (hrank : rank < infinityRank)
    (h : ofRank negative rank = ofRank negative other) : rank = other := by
  have hmin : min rank infinityRank = min other infinityRank := by
    simpa [ofRank] using h
  omega

/-- **The text of a magnitude stands for it.** -/
theorem exists_standsFor_magnitudeText {rank : Nat} (hfinite : rank < infinityRank) :
    ∃ digits exponent, StandsFor (magnitudeText rank) digits exponent ∧
      ∀ negative, Decimal.toBinary64 ⟨negative, digits, exponent⟩ = ofRank negative rank := by
  by_cases hwhole : units rank % unitsPerOne = 0 ∧ units rank / unitsPerOne ≤ maxSafe
  · have hunits : units rank = units rank / unitsPerOne * unitsPerOne :=
      (Nat.div_mul_cancel (Nat.dvd_of_mod_eq_zero hwhole.1)).symm
    rw [magnitudeText_of_whole hwhole]
    exact ⟨_, 0, standsFor_digitsOf _, fun negative => toBinary64_whole negative hunits hwhole.2⟩
  · have hpos : 0 < rank := by
      refine Nat.pos_of_ne_zero fun hzero => hwhole ?_
      rw [hzero, units_zero, Nat.zero_mod, Nat.zero_div]
      exact ⟨rfl, Nat.zero_le _⟩
    cases hshortest : shortestDigits rank with
    | mk digits exponent =>
      have hreads := toBinary64_shortestDigits hpos hfinite hshortest
      have hdigits : 0 < digits := by
        -- no digits would be read as zero
        refine Nat.pos_of_ne_zero fun hzero => ?_
        rw [hzero, Decimal.toBinary64, if_pos rfl] at hreads
        have := ofRank_injective (by decide) hreads
        omega
      rw [magnitudeText_of_shortest hwhole hshortest]
      refine ⟨digits, exponent, standsFor_layout hdigits, fun negative => ?_⟩
      obtain ⟨other, hother⟩ := Decimal.exists_rank_toBinary64 digits exponent
      have hsame := ofRank_injective hfinite (hreads.symm.trans (hother false))
      rw [hother, hsame]

/-! ## Numbers -/

theorem ofRank_val (negative : Bool) (rank : Fin (infinityRank + 1)) :
    ofRank negative rank.val = .signed negative rank := by
  have : min rank.val infinityRank = rank.val := by omega
  simp [ofRank, this]

theorem toList_numberText {negative : Bool} {rank : Fin (infinityRank + 1)}
    (hfinite : rank.val < infinityRank) : (numberText (.signed negative rank)).toList =
      (if negative && rank.val != 0 then ['-'] else []) ++ magnitudeText rank.val := by
  have hne : rank.val ≠ infinityRank := hfinite.ne
  have hfin : isFinite (.signed negative rank) = true := by simpa [isFinite] using hfinite
  rw [numberText, if_pos hfin, Binary64.text]
  simp only [if_neg hne]
  split
  · simp
  · simp

/-- What a number begins with. -/
def NumberStart (c : Char) : Prop := c = '-' ∨ c.isDigit = true

theorem NumberStart.ne {c other : Char} (h : NumberStart c) (hminus : other ≠ '-')
    (hdigit : other.isDigit = false) : c ≠ other := by
  rintro rfl
  rcases h with rfl | h
  · exact hminus rfl
  · rw [hdigit] at h
    cases h

theorem NumberStart.not_isSpace {c : Char} (h : NumberStart c) : isSpace c = false := by
  simp only [isSpace, Bool.or_eq_false_iff, beq_eq_false_iff_ne]
  exact ⟨⟨⟨h.ne (by decide) (by decide), h.ne (by decide) (by decide)⟩,
    h.ne (by decide) (by decide)⟩, h.ne (by decide) (by decide)⟩

/-- What begins as a number is read as one. -/
theorem value?_number {c : Char} {others : List Char} (bound : Nat) (hc : NumberStart c) :
    value? (bound + 1) (c :: others) =
      (number? (c :: others)).map fun (n, rest) => (.number n, rest) := by
  rw [value?, skipSpace_cons hc.not_isSpace]
  split
  case h_7 => rfl
  all_goals
    rename_i heq
    exact absurd (List.cons.inj heq).1 (hc.ne (by decide) (by decide))

/-- **A number is read back from its text.** -/
theorem reads_number {n : Binary64} (hfinite : n.isFinite = true) :
    Reads (.number n) (.number n.readBack) := by
  cases n with
  | nan => cases hfinite
  | signed negative rank =>
    have hrank : rank.val < infinityRank := by simpa [isFinite] using hfinite
    obtain ⟨digits, exponent, ⟨whole, fraction, power, htext, hwhole, hfraction, hparts⟩, hreads⟩ :=
      exists_standsFor_magnitudeText hrank
    intro depth
    rw [prettyAt, toList_numberText hrank, htext]
    obtain ⟨c, others, hstart, hc⟩ : ∃ c others,
        (if negative && rank.val != 0 then ['-'] else []) ++ numeral whole fraction power =
          c :: others ∧ NumberStart c := by
      split
      · exact ⟨'-', _, rfl, .inl rfl⟩
      · obtain ⟨c, others, rfl, hc⟩ := hwhole.exists_cons
        exact ⟨c, _, rfl, .inr hc⟩
    constructor
    case start => exact ⟨c, others, hstart, hc.not_isSpace, hc.ne (by decide) (by decide)⟩
    case read =>
      intro bound rest hbound hrest
      obtain ⟨bound, rfl⟩ : ∃ b, bound = b + 1 := by
        rw [hstart, List.length_cons] at hbound
        exact ⟨bound - 1, by omega⟩
      have hread := @number?_numeral whole fraction rest power (negative && rank.val != 0) hwhole
        hfraction hrest
      rw [hstart, List.cons_append] at hread ⊢
      rw [value?_number bound hc, hread, hparts, hreads, ofRank_val]
      rfl

end Json

end RelStore
