/-
The order of texts.

Texts are in the order of their units, and of their characters where the units do not tell them
apart: one lexicographic order after the other, and so a linear order (`order_eq`).
-/
import Mathlib.Data.List.Basic
import RelStore.Text.Units

namespace RelStore.Text

open Std (LawfulEqCmp OrientedCmp TransCmp)

variable {a b : String}

theorem compareUnits_eq (as bs : List UInt16) : compareUnits as bs = compare as bs := by
  induction as generalizing bs with
  | nil => cases bs <;> rfl
  | cons a as ih =>
    cases bs with
    | nil => rfl
    | cons b bs =>
      rw [List.compare_cons_cons, compareUnits, ih]
      by_cases hlt : a < b
      · simp [hlt, compare, compareOfLessAndEq]
      by_cases heq : a = b
      · subst heq
        simp
      · have hgt : b < a := by
          rw [UInt16.lt_iff_toNat_lt] at hlt ⊢
          have := mt UInt16.toNat_inj.1 heq
          omega
        simp [hlt, hgt, heq, compare, compareOfLessAndEq]

theorem order_eq : order = compareLex (compareOn units) compare := by
  funext a b
  rw [order, compareUnits_eq]
  rfl

instance : TransCmp order := order_eq ▸ inferInstance

theorem eq_of_order_eq (h : order a b = .eq) : a = b := by
  rw [order, Ordering.then_eq_eq] at h
  exact LawfulEqCmp.eq_of_compare h.2

theorem not_lt_eq : (!lt b a) = (order a b).isLE := by
  rw [lt, @OrientedCmp.eq_swap _ order]
  cases order a b <;> rfl

end RelStore.Text
