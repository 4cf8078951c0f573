/-
Texts that differ in the case of ASCII letters.

What does not tell the cases of a letter apart in ASCII does not tell them apart at all
(`SameLetter.congr`), so that 128 characters are all there is to look at. Names that differ in the case
of letters have one lower case (`lower_eq_of_sameLetters`).
-/
import Mathlib.Data.List.Forall2
import RelStore.Proofs.Name
import RelStore.Text.Units

namespace RelStore.Text

open List (Forall₂)

/-! ## Letters -/

/-- The characters are one, or one ASCII letter in two cases. -/
def SameLetter (c d : Char) : Prop := c.toLower = d.toLower

section

variable {α : Type} {p : Char → α}

theorem apply_toLower (hascii : ∀ n < 128, p (Char.ofNat n).toLower = p (Char.ofNat n)) (c : Char) :
    p c.toLower = p c := by
  by_cases hc : c.toNat < 128
  · exact of_ascii (P := fun c => p c.toLower = p c) hascii hc
  · have hupper : ¬ (c.val ≥ 'A'.val ∧ c.val ≤ 'Z'.val) := fun hle =>
      hc (Nat.lt_of_le_of_lt (UInt32.le_iff_toNat_le.1 hle.2) (by decide))
    have hlower : c.toLower = c := dif_neg hupper
    rw [hlower]

theorem SameLetter.congr {c d : Char} (h : SameLetter c d)
    (hascii : ∀ n < 128, p (Char.ofNat n).toLower = p (Char.ofNat n)) : p c = p d := by
  rw [← apply_toLower hascii c, ← apply_toLower hascii d, h]

end

theorem sameLetter_toLower (c : Char) : SameLetter c.toLower c :=
  apply_toLower (p := Char.toLower) (by decide +kernel) c

/-! ## Texts -/

/-- A text with its ASCII letters in lower case. -/
def lowerLetters (s : String) : String := String.ofList (s.toList.map Char.toLower)

theorem sameLetters_lowerLetters (s : String) : Forall₂ SameLetter (lowerLetters s).toList s.toList := by
  rw [lowerLetters, String.toList_ofList, List.forall₂_map_left_iff]
  exact List.forall₂_same.2 fun c _ => sameLetter_toLower c

section

variable {text other : List Char}

theorem map_toLower_eq_iff : text.map Char.toLower = other.map Char.toLower ↔ Forall₂ SameLetter text other := by
  rw [← List.forall₂_eq_eq_eq, List.forall₂_map_left_iff, List.forall₂_map_right_iff]
  rfl

theorem map_congr_of_sameLetters {α : Type} {p : Char → α} (h : Forall₂ SameLetter text other)
    (hascii : ∀ n < 128, p (Char.ofNat n).toLower = p (Char.ofNat n)) : text.map p = other.map p := by
  induction h with
  | nil => rfl
  | cons hcd _ ih => rw [List.map_cons, List.map_cons, hcd.congr hascii, ih]

theorem meetsCased_eq (h : Forall₂ SameLetter text other) : meetsCased text = meetsCased other := by
  induction h with
  | nil => rfl
  | @cons c d text other hcd _ ih =>
    have hignorable : isCaseIgnorable c = isCaseIgnorable d := hcd.congr (by decide +kernel)
    have hcased : isCased c = isCased d := hcd.congr (by decide +kernel)
    rw [meetsCased, meetsCased] at ih ⊢
    rw [List.find?_cons, List.find?_cons, hignorable]
    cases isCaseIgnorable d with
    | true => exact ih
    | false => exact hcased

theorem lowerAfter_eq (h : Forall₂ SameLetter text other) (cased : Bool) :
    lowerAfter cased text = lowerAfter cased other := by
  induction h generalizing cased with
  | nil => rfl
  | @cons c d text other hcd hrest ih =>
    have hignorable : isCaseIgnorable c = isCaseIgnorable d := hcd.congr (by decide +kernel)
    have hcased : isCased c = isCased d := hcd.congr (by decide +kernel)
    have hsigma : (c == capitalSigma) = (d == capitalSigma) :=
      hcd.congr (p := (· == capitalSigma)) (by decide +kernel)
    have hlower : lowerChar c = lowerChar d := hcd.congr (by decide +kernel)
    rw [lowerAfter, lowerAfter, hignorable, hcased, hsigma, hlower, meetsCased_eq hrest, ih]

theorem flatMap_eq {α : Type} {p : Char → List α} (h : Forall₂ SameLetter text other)
    (hascii : ∀ n < 128, p (Char.ofNat n).toLower = p (Char.ofNat n)) :
    text.flatMap p = other.flatMap p := by
  rw [List.flatMap_def, List.flatMap_def, map_congr_of_sameLetters h hascii]

end

/-- **The lower case of a text does not tell the cases of its letters apart.** -/
theorem lower_eq_of_sameLetters {a b : String} (h : Forall₂ SameLetter a.toList b.toList) :
    lower a = lower b :=
  congrArg String.ofList (lowerAfter_eq h false)

theorem sameName_of_sameLetters {a b : String} (h : Forall₂ SameLetter a.toList b.toList) :
    sameName a b = true :=
  sameName_iff.2 (lower_eq_of_sameLetters h)

end RelStore.Text
