/-
Quoted strings are read back.

Each character is written so that reading its escape gives it back (`stringBody_escaped`), and
halves that belong together are written as they are, and so are read one after the other. What is
read is therefore the text as it was held, with its halves joined (`string?_quoted`).
-/
import RelStore.Json.Read

namespace RelStore.Json

open Hexadecimal (lowerDigit)

variable {bound : Nat} {c : Char} {text rest : List Char}

/-! ## Escapes -/

theorem value?_lowerDigit : ∀ d, d < 16 → Hexadecimal.value? (lowerDigit d) = some d := by
  decide

theorem unitOfHex?_lowerDigits {unit : Nat} (h : unit < 65536) :
    unitOfHex? (lowerDigit (unit / 4096) :: lowerDigit (unit / 256 % 16) ::
      lowerDigit (unit / 16 % 16) :: lowerDigit (unit % 16) :: rest) = some (unit, rest) := by
  have h0 := value?_lowerDigit (unit / 4096) (by omega)
  have h1 := value?_lowerDigit (unit / 256 % 16) (by omega)
  have h2 := value?_lowerDigit (unit / 16 % 16) (by omega)
  have h3 := value?_lowerDigit (unit % 16) (by omega)
  have hsum : (((0 * 16 + unit / 4096) * 16 + unit / 256 % 16) * 16 + unit / 16 % 16) * 16 +
      unit % 16 = unit := by
    omega
  simp only [unitOfHex?, Hexadecimal.number?, List.isEmpty_cons, Bool.false_eq_true, if_false,
    List.foldlM_cons, List.foldlM_nil, h0, h1, h2, h3, Option.map_some, Option.bind_eq_bind,
    Option.bind_some, hsum, pure]

/-- The escape of a unit is read as the character that the unit is. -/
theorem escape?_unitEscape {unit : Nat} (h : unit < 65536)
    (hc : (if 0xD800 ≤ unit ∧ unit < 0xE000 then Text.halfOfUnit unit else Char.ofNat unit) = c) :
    ∃ escape, unitEscape unit = '\\' :: escape ∧ escape? (escape ++ rest) = some (c, rest) := by
  refine ⟨_, rfl, ?_⟩
  simp only [List.cons_append, List.nil_append, escape?, escapedUnit?, unitOfHex?_lowerDigits h,
    Option.bind_eq_bind, Option.bind_some, Bool.and_eq_true, decide_eq_true_eq, hc]

theorem halfOfUnit_unitOfHalf (h : Text.isHalf c = true) :
    Text.halfOfUnit (Text.unitOfHalf c) = c := by
  have hle : Text.halvesStart ≤ c.toNat := by simpa [Text.isHalf] using h
  have hsum : Text.halvesStart + (Text.firstHalfUnit + (c.toNat - Text.halvesStart) -
      Text.firstHalfUnit) = c.toNat := by
    omega
  rw [Text.halfOfUnit, Text.unitOfHalf, hsum, Char.ofNat_toNat]

theorem unitOfHalf_range (h : Text.isHalf c = true) :
    0xD800 ≤ Text.unitOfHalf c ∧ Text.unitOfHalf c < 0xE000 := by
  have hle : Text.halvesStart ≤ c.toNat := by simpa [Text.isHalf] using h
  have hmax := Text.toNat_lt c
  simp only [Text.unitOfHalf, Text.firstHalfUnit, Text.halvesStart] at hle ⊢
  omega

/-! ## Bodies of strings -/

theorem stringBody_escape (h : escape? text = some (c, rest)) :
    stringBody (bound + 1) ('\\' :: text) =
      (stringBody bound rest).map fun (body, rest) => (c :: body, rest) := by
  rw [stringBody, h]
  simp only [Option.bind_eq_bind, Option.bind_some]
  cases stringBody bound rest <;> rfl

theorem stringBody_plain (hquote : c ≠ '"') (hback : c ≠ '\\') (hlow : ¬ c.toNat < 32) :
    stringBody (bound + 1) (c :: rest) =
      (stringBody bound rest).map fun (body, rest) => (c :: body, rest) := by
  rw [stringBody]
  · simp only [hlow, if_false]
    cases stringBody bound rest <;> rfl
  · exact hquote
  · exact hback

/-- What stands for a character is read as the character. -/
theorem stringBody_escaped (c : Char) : stringBody (bound + 1) (escaped c ++ rest) =
    (stringBody bound rest).map fun (body, rest) => (c :: body, rest) := by
  unfold escaped
  -- the characters that have a letter of their own
  iterate 7
    split
    case isTrue h =>
      rw [eq_of_beq h]
      exact stringBody_escape rfl
  split
  case isTrue h =>
    have hnot : ¬ (0xD800 ≤ c.toNat ∧ c.toNat < 0xE000) := by omega
    obtain ⟨escape, he, hread⟩ := @escape?_unitEscape c rest _
      (show c.toNat < 65536 by omega) (by rw [if_neg hnot, Char.ofNat_toNat])
    rw [he]
    exact stringBody_escape hread
  split
  case isTrue h =>
    have hrange := unitOfHalf_range h
    obtain ⟨escape, he, hread⟩ := @escape?_unitEscape c rest _
      (show Text.unitOfHalf c < 65536 by omega) (by rw [if_pos hrange, halfOfUnit_unitOfHalf h])
    rw [he]
    exact stringBody_escape hread
  case isFalse hquote hback _ _ _ _ _ hlow _ =>
    exact stringBody_plain (by simpa using hquote) (by simpa using hback) hlow

/-- Halves stand for themselves inside a string too. -/
theorem stringBody_half (h : Text.isHalf c = true) : stringBody (bound + 1) (c :: rest) =
    (stringBody bound rest).map fun (body, rest) => (c :: body, rest) := by
  have hle : Text.halvesStart ≤ c.toNat := by simpa [Text.isHalf] using h
  have hlow : ¬ c.toNat < 32 := by
    simp only [Text.halvesStart] at hle
    omega
  refine stringBody_plain ?_ ?_ hlow
  · rintro rfl
    exact absurd h (by decide)
  · rintro rfl
    exact absurd h (by decide)

theorem stringBody_escapedText (chars : List Char) (h : chars.length < bound) :
    stringBody bound (escapedText chars ++ '"' :: rest) = some (chars, rest) := by
  induction chars using escapedText.induct generalizing bound with
  | case1 =>
    obtain ⟨bound, rfl⟩ : ∃ b, bound = b + 1 := ⟨bound - 1, by simp at h; omega⟩
    simp [escapedText, stringBody]
  | case2 c =>
    obtain ⟨bound, rfl⟩ : ∃ b, bound = b + 1 + 1 := ⟨bound - 2, by simp at h; omega⟩
    rw [escapedText, stringBody_escaped]
    simp [stringBody]
  | case3 c d others hpair ih =>
    simp only [List.length_cons] at h
    obtain ⟨bound, rfl⟩ : ∃ b, bound = b + 1 + 1 := ⟨bound - 2, by omega⟩
    have hhigh : Text.isHalf c = true := by
      simp only [Text.isHighHalf, Bool.and_eq_true] at hpair
      exact hpair.1.1
    have hlow : Text.isHalf d = true := by
      simp only [Text.isLowHalf, Bool.and_eq_true] at hpair
      exact hpair.2.1
    rw [escapedText, if_pos hpair, List.cons_append, List.cons_append, stringBody_half hhigh,
      stringBody_half hlow, ih (by omega)]
    rfl
  | case4 c d others hpair ih =>
    simp only [List.length_cons] at h
    obtain ⟨bound, rfl⟩ : ∃ b, bound = b + 1 := ⟨bound - 1, by omega⟩
    rw [escapedText, if_neg hpair, List.append_assoc, stringBody_escaped,
      ih (by simp only [List.length_cons]; omega)]
    rfl

/-- The text that is read for a text: its halves are joined. -/
def joined (s : String) : String := String.ofList (Text.joinHalves s.toList)

theorem toList_quoted (s : String) : (quoted s).toList = '"' :: (escapedText s.toList ++ ['"']) := by
  simp [quoted]

/-- **A quoted string is read as the text that it quotes**, with its halves joined. -/
theorem string?_quoted {s : String} (h : s.toList.length < bound) :
    string? bound ((quoted s).toList ++ rest) = some (joined s, rest) := by
  have hbody := @stringBody_escapedText _ rest s.toList h
  rw [toList_quoted, List.cons_append, List.append_assoc, List.singleton_append, string?, hbody]
  rfl

theorem length_escaped_pos (c : Char) : 0 < (escaped c).length := by
  unfold escaped
  repeat' split
  all_goals simp [unitEscape]

/-- A text is not longer than what stands for it. -/
theorem length_le_escapedText (chars : List Char) : chars.length ≤ (escapedText chars).length := by
  induction chars using escapedText.induct with
  | case1 => simp
  | case2 c => exact length_escaped_pos c
  | case3 c d others hpair ih =>
    rw [escapedText, if_pos hpair]
    simp only [List.length_cons]
    omega
  | case4 c d others hpair ih =>
    have := length_escaped_pos c
    rw [escapedText, if_neg hpair]
    simp only [List.length_cons, List.length_append] at ih ⊢
    omega

end RelStore.Json
