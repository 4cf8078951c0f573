/-
Whole numbers among the binary64 numbers.

A whole number counts as `unitsPerOne` units for each one (`toInt?_eq_some`). Not every whole number
is a number: those up to 2⁵³ - 1 are (`isNumber_of_safe`), and further out the numbers lie more than
one apart. A whole number that is one is its own rounding (`toInt?_ofInt`), and what is added to it
gives the exact sum, rounded once (`add_ofInt`).
-/
import RelStore.Proofs.Json.Number

namespace RelStore

namespace Binary64

variable {x : Binary64} {m n : Int}

theorem natAbs_toUnits (negative : Bool) (rank : Fin (infinityRank + 1)) :
    (toUnits (.signed negative rank)).natAbs = units rank.val := by
  show (if negative then -(units rank.val : Int) else units rank.val).natAbs = _
  split
  · exact (Int.natAbs_neg _).trans (Int.natAbs_natCast _)
  · exact Int.natAbs_natCast _

theorem natAbs_mul_unitsPerOne (n : Int) :
    (n * unitsPerOne).natAbs = n.natAbs * unitsPerOne :=
  (Int.natAbs_mul _ _).trans (congrArg (n.natAbs * ·) (Int.natAbs_natCast _))

theorem mul_unitsPerOne_pos : 0 < n * unitsPerOne ↔ 0 < n :=
  mul_pos_iff_of_pos_right (Int.natCast_pos.2 unitsPerOne_pos)

theorem mul_unitsPerOne_neg : n * unitsPerOne < 0 ↔ n < 0 := by
  rw [← not_le, mul_nonneg_iff_of_pos_right (Int.natCast_pos.2 unitsPerOne_pos), not_le]

theorem mul_unitsPerOne_eq_zero : n * unitsPerOne = 0 ↔ n = 0 :=
  mul_eq_zero_iff_right (Int.natCast_ne_zero.2 unitsPerOne_pos.ne')

theorem toInt?_eq_some :
    x.toInt? = some n ↔ x.isFinite = true ∧ x.toUnits = n * unitsPerOne := by
  have hpos : (unitsPerOne : Int) ≠ 0 := Int.natCast_ne_zero.2 unitsPerOne_pos.ne'
  rw [toInt?]
  split
  next hwhole =>
    obtain ⟨hfinite, hdvd⟩ := Bool.and_eq_true_iff.1 hwhole
    have hdvd : (unitsPerOne : Int) ∣ x.toUnits := Int.dvd_of_emod_eq_zero (beq_iff_eq.1 hdvd)
    rw [Option.some_inj, Int.ediv_eq_iff_eq_mul_left hpos hdvd, and_iff_right hfinite]
  next hno =>
    refine iff_of_false nofun fun ⟨hfinite, hunits⟩ => hno ?_
    rw [hfinite, hunits, Int.mul_emod_left]
    rfl

/-- A whole number that is one of the numbers. -/
def IsNumber (n : Int) : Prop := ∃ x : Binary64, x.toInt? = some n

/-- The magnitude of a whole number that is a number has a rank, to which it is rounded. -/
theorem IsNumber.exists_rank (h : IsNumber n) :
    ∃ rank : Fin (infinityRank + 1), rank.val < infinityRank ∧
      units rank.val = n.natAbs * unitsPerOne ∧ ofInt n = .signed (n < 0) rank := by
  obtain ⟨x, hx⟩ := h
  obtain ⟨hfinite, hunits⟩ := toInt?_eq_some.1 hx
  cases x with
  | nan => cases hfinite
  | signed negative rank =>
    have hmagnitude : units rank.val = n.natAbs * unitsPerOne := by
      rw [← natAbs_toUnits negative, hunits, natAbs_mul_unitsPerOne]
    refine ⟨rank, of_decide_eq_true hfinite, hmagnitude, ?_⟩
    rw [ofInt, ofRatio, ofUnits, ← hmagnitude, nearestRank_units, Json.ofRank_val]

/-- A rank with the sign and the magnitude of a whole number has its value. -/
theorem toInt?_signed {rank : Fin (infinityRank + 1)} (hfinite : rank.val < infinityRank)
    (hunits : units rank.val = n.natAbs * unitsPerOne) :
    (signed (n < 0) rank).toInt? = some n := by
  refine toInt?_eq_some.2 ⟨decide_eq_true hfinite, ?_⟩
  rw [toUnits, hunits, Int.natCast_mul]
  by_cases hneg : n < 0
  · rw [if_pos (decide_eq_true hneg), ← Int.neg_mul]
    exact congrArg (· * (unitsPerOne : Int)) (by omega)
  · rw [if_neg (by simpa using hneg)]
    exact congrArg (· * (unitsPerOne : Int)) (by omega)

/-- **A whole number that is a number is its own rounding.** -/
theorem toInt?_ofInt (h : IsNumber n) : (ofInt n).toInt? = some n := by
  obtain ⟨rank, hfinite, hunits, hrounded⟩ := h.exists_rank
  rw [hrounded]
  exact toInt?_signed hfinite hunits

/-- A sum of numbers with whole values is the exact sum, rounded once. -/
theorem add_ofInt (hm : IsNumber m) (hx : x.toInt? = some n) : (ofInt m).add x = ofInt (m + n) := by
  obtain ⟨rank, hfinite, -, hrounded⟩ := hm.exists_rank
  obtain ⟨-, hleft⟩ := toInt?_eq_some.1 (toInt?_ofInt hm)
  obtain ⟨hfinite', hright⟩ := toInt?_eq_some.1 hx
  rw [hrounded] at hleft ⊢
  cases x with
  | nan => cases hfinite'
  | signed negative rank' =>
    have hsum : toUnits (.signed (m < 0) rank) + toUnits (.signed negative rank') =
        (m + n) * unitsPerOne := by
      rw [hleft, hright, Int.add_mul]
    rw [add, if_neg hfinite.ne, if_neg (of_decide_eq_true hfinite').ne]
    simp only [hsum, natAbs_mul_unitsPerOne, mul_unitsPerOne_eq_zero, mul_unitsPerOne_neg]
    rw [ofInt, ofRatio]
    congr 1
    split
    next hzero =>
      -- the sum is not `-0`: two negative numbers do not add up to zero
      have hnot : ¬ (m < 0 ∧ negative = true) := by
        rintro ⟨hneg, rfl⟩
        have hpos : 0 < n * (unitsPerOne : Int) := mul_unitsPerOne_pos.2 (by omega)
        rw [← hright, toUnits, if_pos rfl] at hpos
        omega
      simpa [hzero] using hnot
    next => rfl

theorem two_pow_eq_unitsPerOne {k : Nat} (h : k = 1074) : 2 ^ k = unitsPerOne := by
  delta unitsPerOne
  rw [← h]
  rfl

/-- Whole numbers of at most 53 binary digits have a rank. -/
theorem exists_rank_of_safe {k : Nat} (h : k ≤ maxSafe) :
    ∃ rank, rank < infinityRank ∧ units rank = k * unitsPerOne := by
  rcases Nat.eq_zero_or_pos k with rfl | hpos
  · exact ⟨0, by decide, by rw [Nat.zero_mul]; rfl⟩
  · -- the significand is the number with its digits moved up to the 53rd
    have hlow : 2 ^ Nat.log2 k ≤ k := Nat.log2_self_le hpos.ne'
    have hhigh : k < 2 ^ (Nat.log2 k + 1) := Nat.lt_log2_self
    have hlog : Nat.log2 k < 53 := (Nat.log2_lt hpos.ne').2 (h.trans_lt (by decide))
    obtain ⟨shift, hshift⟩ := Nat.exists_eq_add_of_le (Nat.lt_succ_iff.1 hlog)
    have hnormal : binade ≤ k * 2 ^ shift := by
      rw [binade_eq, hshift, Nat.pow_add]
      exact Nat.mul_le_mul_right _ hlow
    have hlt : k * 2 ^ shift < 2 * binade := by
      rw [binade_eq, hshift, ← Nat.pow_succ', Nat.succ_eq_add_one, Nat.add_right_comm, Nat.pow_add]
      exact Nat.mul_lt_mul_of_pos_right hhigh (Nat.two_pow_pos _)
    have hform := @form_of_lt (1022 + Nat.log2 k) _ hlt (.inr hnormal)
    refine ⟨_, ?_, hform.units_eq.trans ?_⟩
    · have hbelow : Nat.log2 k * binade ≤ 52 * binade := Nat.mul_le_mul_right _ (by omega)
      rw [Nat.add_mul, Nat.add_assoc]
      exact (Nat.add_le_add_left (Nat.add_le_add hbelow hlt.le) _).trans_lt (by decide)
    · rw [Nat.mul_assoc, ← Nat.pow_add, two_pow_eq_unitsPerOne (by omega)]

/-- **Every safe whole number is a number.** -/
theorem isNumber_of_safe (h : n.natAbs ≤ maxSafe) : IsNumber n := by
  obtain ⟨rank, hfinite, hunits⟩ := exists_rank_of_safe h
  exact ⟨.signed (n < 0) ⟨rank, hfinite.trans (Nat.lt_succ_self _)⟩, toInt?_signed hfinite hunits⟩

end Binary64

end RelStore
