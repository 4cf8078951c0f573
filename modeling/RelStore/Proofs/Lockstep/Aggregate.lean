/-
Aggregates of alike values.

A sum does not tell one zero from the other but in the sign of a zero, and of the extremes of alike
values the same is kept, so that aggregates of alike values are alike.
-/
import RelStore.Aggregate
import RelStore.Proofs.Binary64.Rounding
import RelStore.Proofs.Lockstep

namespace RelStore

open Sql
open List (Forall₂)

/-! ## Sums -/

namespace Binary64

/-- One number, where both zeros are one. -/
def Alike (x y : Binary64) : Prop := Scalar.Alike (.number x) (.number y)

/-- Zero with either sign. -/
def zeroOf (negative : Bool) : Binary64 := .signed negative ⟨0, Nat.succ_pos _⟩

variable {x y x' y' : Binary64}

theorem alike_zeroOf (s t : Bool) : (zeroOf s).Alike (zeroOf t) :=
  congrArg Key.number (place_eq_iff.2 ⟨rfl, .inl rfl⟩)

theorem Alike.eq_or_zeros (h : x.Alike y) : x = y ∨ ∃ s t, x = zeroOf s ∧ y = zeroOf t := by
  rcases Value.Alike.eq_or_zeros h with heq | ⟨s, t, hx, hy⟩
  · exact .inl (Scalar.number.inj (Option.some.inj heq))
  · exact .inr ⟨s, t, Scalar.number.inj (Option.some.inj hx), Scalar.number.inj (Option.some.inj hy)⟩

theorem nearestRank_zero (d : Nat) : nearestRank 0 d = 0 := by
  simp [nearestRank, roundDiv]

theorem ofUnits_zero (negative : Bool) (d : Nat) : ofUnits negative 0 d = zeroOf negative := by
  rw [ofUnits, nearestRank_zero, ofRank, zeroOf]
  simp

theorem toUnits_zeroOf (negative : Bool) : (zeroOf negative).toUnits = 0 := by
  cases negative <;> simp [zeroOf, toUnits, units]

theorem add_comm (x y : Binary64) : x.add y = y.add x := by
  cases x with
  | nan => cases y <;> rfl
  | signed s a =>
    cases y with
    | nan => rfl
    | signed t b =>
      simp only [add, Int.add_comm (toUnits (.signed t b)), Bool.and_comm t s]
      by_cases ha : a.val = infinityRank <;> by_cases hb : b.val = infinityRank
      · obtain rfl : a = b := Fin.ext (ha.trans hb.symm)
        cases s <;> cases t <;> simp [ha]
      all_goals simp [ha, hb]

/-- What is added to a zero does not tell its sign, unless it is a zero. -/
theorem alike_zeroOf_add (s t : Bool) (y : Binary64) :
    ((zeroOf s).add y).Alike ((zeroOf t).add y) := by
  cases y with
  | nan => rfl
  | signed u b =>
    have hunits (v : Bool) : toUnits (.signed v ⟨0, Nat.succ_pos _⟩) = 0 := toUnits_zeroOf v
    have hfinite : (0 : Nat) ≠ infinityRank := by decide
    simp only [zeroOf, add, hunits, Int.zero_add, if_neg hfinite]
    split
    · exact .refl _
    by_cases hsum : toUnits (.signed u b) = 0
    · simp only [hsum, if_true, Int.natAbs_zero, ofUnits_zero]
      exact alike_zeroOf _ _
    · simp only [hsum, if_false]
      exact .refl _

theorem Alike.add (hx : x.Alike x') (hy : y.Alike y') : (x.add y).Alike (x'.add y') := by
  have hleft {x x' : Binary64} (h : x.Alike x') (y : Binary64) : (x.add y).Alike (x'.add y) := by
    rcases h.eq_or_zeros with rfl | ⟨s, t, rfl, rfl⟩
    · exact .refl _
    · exact alike_zeroOf_add s t y
  refine (hleft hx y).trans ?_
  rw [add_comm x', add_comm x']
  exact hleft hy x'

theorem Alike.divNat (h : x.Alike y) (n : Nat) : (x.divNat n).Alike (y.divNat n) := by
  rcases h.eq_or_zeros with rfl | ⟨s, t, rfl, rfl⟩
  · exact .refl _
  · have hfinite : (0 : Nat) ≠ infinityRank := by decide
    have hunits : units 0 = 0 := by simp [units]
    simp only [zeroOf, divNat, if_neg hfinite, hunits, ofUnits_zero]
    exact alike_zeroOf s t

end Binary64

/-! ## Aggregates -/

variable {as bs : List Scalar} {a b : Scalar}

theorem ends_sumFrom (fn : AggregateFn) {sum sum' : Binary64} (hsum : sum.Alike sum')
    (h : Forall₂ Scalar.Alike as bs) :
    Ends Binary64.Alike (sumFrom fn sum as) (sumFrom fn sum' bs) := by
  induction h generalizing sum sum' with
  | nil => exact .ok hsum
  | @cons a b _ _ hab _ ih =>
    rcases hab.eq_or_zeros with heq | ⟨s, t, ha, hb⟩
    · obtain rfl := Option.some.inj heq
      cases a with
      | number n => exact ih (hsum.add (.refl _))
      | text _ | bool _ => exact .error (.refl _)
    · obtain rfl := Option.some.inj ha
      obtain rfl := Option.some.inj hb
      exact ih (hsum.add (Binary64.alike_zeroOf s t))

theorem ends_extremeFrom (fn : AggregateFn) (wanted : Ordering) (hab : a.Alike b)
    (h : Forall₂ Scalar.Alike as bs) :
    Ends Scalar.Alike (extremeFrom fn wanted a as) (extremeFrom fn wanted b bs) := by
  induction h generalizing a b with
  | nil => exact .ok hab
  | cons hnext _ ih =>
    rw [extremeFrom, extremeFrom, hnext.compare?_eq hab, hnext.dataType_eq, hab.dataType_eq]
    split
    · exact .error (.refl _)
    · split
      · exact ih hnext
      · exact ih hab

theorem ends_ofScalars (fn : AggregateFn) (h : Forall₂ Scalar.Alike as bs) :
    Ends Value.Alike (fn.ofScalars as) (fn.ofScalars bs) := by
  have hlength := h.length_eq
  cases h with
  | nil => exact (Ends.of_eq rfl).mono fun _ _ heq => heq ▸ .refl _
  | cons hab hrest =>
    cases fn with
    | count =>
      rw [AggregateFn.ofScalars, AggregateFn.ofScalars, hlength]
      exact .ok (.refl _)
    | sum => exact (ends_sumFrom .sum (.refl _) (.cons hab hrest)).map fun _ _ hsum => hsum
    | avg =>
      refine (ends_sumFrom .avg (.refl _) (.cons hab hrest)).map fun sum sum' hsum => ?_
      rw [hlength]
      exact hsum.divNat _
    | min => exact (ends_extremeFrom .min .lt hab hrest).map fun _ _ hbest => hbest
    | max => exact (ends_extremeFrom .max .gt hab hrest).map fun _ _ hbest => hbest

/-- **Aggregates of alike values are alike.** -/
theorem ends_compute (call : AggregateCall) {vs ws : List Value} (h : Forall₂ Value.Alike vs ws) :
    Ends Value.Alike (call.compute vs) (call.compute ws) := by
  rw [AggregateCall.compute, AggregateCall.compute]
  split
  · rw [h.length_eq]
    exact .ok (.refl _)
  · exact ends_ofScalars call.fn (List.rel_filterMap (fun _ _ hvw => hvw.rel) h)

end RelStore
