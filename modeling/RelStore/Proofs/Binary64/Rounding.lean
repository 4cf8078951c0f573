/-
Which rank a fraction is rounded to.

Magnitudes are compared in whole numbers: `n / d` units lie below the middle of two ranks if
`2 * n < d * (units a + units b)`. A rank is a significand and a shift (`Form`), from which its
neighbours are read off, and a fraction nearer to a rank than the middles on both sides is rounded
to it (`nearestRank_eq`). So a rank is its own rounding, and rounding depends on the value of the
fraction alone (`nearestRank_scale`).
-/
import Mathlib.Order.Monotone.Basic
import Mathlib.Tactic.Linarith
import Mathlib.Tactic.Ring
import RelStore.Binary64.Rounding

namespace RelStore

theorem binade_eq : binade = 2 ^ 52 := by decide

/-- A fraction within half a unit of a whole number is rounded to it. -/
theorem roundDiv_eq {n d m : Nat} (hbelow : 2 * (m * d) < 2 * n + d)
    (habove : 2 * n < 2 * (m * d) + d) : roundDiv n d = m := by
  have hd : 0 < d := by
    by_contra h
    obtain rfl : d = 0 := by omega
    omega
  have hdiv : d * (n / d) + n % d = n := Nat.div_add_mod n d
  have hmod : n % d < d := Nat.mod_lt n hd
  have hlow : m < n / d + 2 := by
    refine Nat.lt_of_mul_lt_mul_left (a := d) ?_
    rw [Nat.mul_comm m d] at hbelow
    rw [Nat.mul_add]
    omega
  have hhigh : n / d < m + 1 := by
    refine Nat.lt_of_mul_lt_mul_left (a := d) ?_
    rw [Nat.mul_comm m d] at habove
    rw [Nat.mul_add]
    omega
  have hcases : m = n / d ∨ m = n / d + 1 := by omega
  unfold roundDiv
  rcases hcases with rfl | rfl
  · rw [if_pos]
    rw [Nat.mul_comm (n / d) d] at habove
    omega
  · rw [Nat.add_mul, Nat.mul_comm (n / d) d] at hbelow
    rw [if_neg (by omega), if_pos (by omega)]

theorem roundDiv_scale {n d k : Nat} (hk : 0 < k) : roundDiv (n * k) (d * k) = roundDiv n d := by
  unfold roundDiv
  simp only [Nat.mul_div_mul_right _ _ hk, Nat.mul_mod_mul_right]
  have hlt (a b : Nat) : 2 * (a * k) < b * k ↔ 2 * a < b := by
    rw [← Nat.mul_assoc, Nat.mul_lt_mul_right hk]
  have hgt (a b : Nat) : b * k < 2 * (a * k) ↔ b < 2 * a := by
    rw [← Nat.mul_assoc, Nat.mul_lt_mul_right hk]
  simp only [hlt, hgt]

namespace Binary64

variable {rank shift significand n d k : Nat}

/-- A rank as a significand and a shift. Only at shift 0 are there significands below those of a
whole binade. -/
structure Form (rank shift significand : Nat) : Prop where
  rank_eq : rank = shift * binade + significand
  units_eq : units rank = significand * 2 ^ shift
  lt : significand < 2 * binade
  normal : shift = 0 ∨ binade ≤ significand

theorem form_of_lt (hlt : significand < 2 * binade) (hnormal : shift = 0 ∨ binade ≤ significand) :
    Form (shift * binade + significand) shift significand := by
  refine ⟨rfl, ?_, hlt, hnormal⟩
  have hpos : 0 < binade := by decide
  rcases Nat.lt_or_ge significand binade with hsmall | hlarge
  · obtain rfl : shift = 0 := hnormal.resolve_right (by omega)
    simp [units, Nat.div_eq_of_lt hsmall]
  · obtain ⟨fraction, rfl⟩ := Nat.exists_eq_add_of_le hlarge
    have hrank : shift * binade + (binade + fraction) = fraction + (shift + 1) * binade := by
      rw [Nat.succ_mul]
      omega
    have hfraction : fraction < binade := by omega
    simp [units, hrank, Nat.add_mul_div_right _ _ hpos, Nat.div_eq_of_lt hfraction,
      Nat.mod_eq_of_lt hfraction]

theorem exists_form (rank : Nat) : ∃ shift significand, Form rank shift significand := by
  have hdiv : binade * (rank / binade) + rank % binade = rank := Nat.div_add_mod rank binade
  have hmod : rank % binade < binade := Nat.mod_lt rank (by decide)
  cases hexponent : rank / binade with
  | zero =>
    rw [hexponent] at hdiv
    have hform := @form_of_lt 0 rank (by omega) (.inl rfl)
    exact ⟨0, rank, by simpa using hform⟩
  | succ shift =>
    have hrank : rank = shift * binade + (binade + rank % binade) := by
      rw [hexponent, Nat.mul_succ, Nat.mul_comm] at hdiv
      omega
    refine ⟨shift, binade + rank % binade, ?_⟩
    have hform := @form_of_lt shift (binade + rank % binade) (by omega) (.inr (by omega))
    rwa [← hrank] at hform

theorem Form.units_add_one (h : Form rank shift significand) :
    units (rank + 1) = (significand + 1) * 2 ^ shift := by
  have hlt := h.lt
  rcases Nat.lt_or_ge (significand + 1) (2 * binade) with hless | hlast
  · have hnext := @form_of_lt shift (significand + 1) hless (h.normal.imp_right (by omega))
    rw [h.rank_eq, Nat.add_assoc]
    exact hnext.units_eq
  · -- the next rank is the first of the next binade
    have hnext := @form_of_lt (shift + 1) binade (by decide) (.inr (Nat.le_refl _))
    have hrank : rank + 1 = (shift + 1) * binade + binade := by
      rw [h.rank_eq, Nat.succ_mul]
      omega
    rw [hrank, hnext.units_eq, Nat.pow_succ]
    have : significand + 1 = 2 * binade := by omega
    rw [this]
    ring

/-- The distance of a rank to the next is not too small. -/
theorem units_lt_mul_gap (rank : Nat) :
    units rank < 2 * binade * (units (rank + 1) - units rank) := by
  obtain ⟨shift, significand, h⟩ := exists_form rank
  rw [h.units_add_one, h.units_eq, Nat.succ_mul significand, Nat.add_sub_cancel_left]
  exact Nat.mul_lt_mul_of_pos_right h.lt (Nat.pow_pos (by decide))

theorem units_lt_units_add_one (rank : Nat) : units rank < units (rank + 1) := by
  obtain ⟨shift, significand, h⟩ := exists_form rank
  rw [h.units_add_one, h.units_eq]
  exact Nat.mul_lt_mul_of_pos_right (Nat.lt_succ_self _) (Nat.pow_pos (by decide))

theorem units_add_one_le_mul_gap (rank : Nat) :
    units (rank + 1) ≤ 2 * binade * (units (rank + 1) - units rank) := by
  obtain ⟨shift, significand, h⟩ := exists_form rank
  rw [h.units_add_one, h.units_eq, Nat.succ_mul significand, Nat.add_sub_cancel_left,
    ← Nat.succ_mul]
  exact Nat.mul_le_mul_right _ h.lt

theorem strictMono_units : StrictMono units := strictMono_nat_of_lt_succ units_lt_units_add_one

/-! ## Rounding -/

/-- The shift of a fraction. -/
theorem log2_sub_eq (hlow : shift = 0 ∨ binade * 2 ^ shift ≤ n) (hhigh : n < 2 * binade * 2 ^ shift) :
    Nat.log2 n - 52 = shift := by
  have hbinade : 2 * binade * 2 ^ shift = 2 ^ (53 + shift) := by
    rw [binade_eq, ← Nat.pow_succ', Nat.pow_add]
  rcases Nat.eq_zero_or_pos n with rfl | hpos
  · rcases hlow with rfl | hlow
    · rfl
    · have : 0 < binade * 2 ^ shift := Nat.mul_pos (by decide) (Nat.pow_pos (by decide))
      omega
  · have hne : n ≠ 0 := by omega
    have hlt : Nat.log2 n < 53 + shift := (Nat.log2_lt hne).2 (hbinade ▸ hhigh)
    rcases hlow with rfl | hlow
    · omega
    · have hle : 52 + shift ≤ Nat.log2 n := by
        rw [Nat.le_log2 hne, Nat.pow_add, ← binade_eq]
        exact hlow
      omega

theorem nearestRank_scale (hk : 0 < k) : nearestRank (n * k) (d * k) = nearestRank n d := by
  unfold nearestRank
  simp only [Nat.mul_div_mul_right _ _ hk]
  rw [Nat.mul_right_comm, roundDiv_scale hk]

/-- Rounding at a shift that suits the fraction. -/
theorem nearestRank_of_shift {m : Nat} (hlow : shift = 0 ∨ binade * (d * 2 ^ shift) ≤ n)
    (hhigh : n < 2 * binade * (d * 2 ^ shift))
    (hbelow : 2 * (m * (d * 2 ^ shift)) < 2 * n + d * 2 ^ shift)
    (habove : 2 * n < 2 * (m * (d * 2 ^ shift)) + d * 2 ^ shift) :
    nearestRank n d = shift * binade + m := by
  have hd : 0 < d := Nat.pos_of_ne_zero fun h => by simp [h] at hhigh
  have hshift : Nat.log2 (n / d) - 52 = shift := by
    refine log2_sub_eq (hlow.imp_right fun hlow => ?_) ?_
    · rw [Nat.le_div_iff_mul_le hd, Nat.mul_assoc, Nat.mul_comm _ d]
      exact hlow
    · rw [Nat.div_lt_iff_lt_mul hd, Nat.mul_assoc, Nat.mul_comm _ d]
      exact hhigh
  rw [nearestRank, hshift]
  exact congrArg _ (roundDiv_eq hbelow habove)

/-- A fraction that is not below a rank is rounded to it up to the middle to the next. -/
theorem Form.nearestRank_of_le (h : Form rank shift significand)
    (hle : significand * (d * 2 ^ shift) ≤ n)
    (hmiddle : 2 * n < 2 * (significand * (d * 2 ^ shift)) + d * 2 ^ shift) :
    nearestRank n d = rank := by
  have hnext := Nat.mul_le_mul_right (d * 2 ^ shift) h.lt
  rw [Nat.succ_mul] at hnext
  rw [h.rank_eq]
  refine nearestRank_of_shift (h.normal.imp_right fun hnormal => ?_) (by omega) (by omega) hmiddle
  exact (Nat.mul_le_mul_right _ hnormal).trans hle

/-- One below a rank is rounded to it from the middle to the rank before on, if both have the same
shift. -/
theorem Form.nearestRank_of_lt (h : Form rank shift (significand + 1))
    (hsame : shift = 0 ∨ binade ≤ significand) (hlt : n < (significand + 1) * (d * 2 ^ shift))
    (hbelow : d * (units (shift * binade + significand) + units rank) < 2 * n) :
    nearestRank n d = rank := by
  have hnext := Nat.mul_le_mul_right (d * 2 ^ shift) h.lt
  have hsucc : (significand + 1) * (d * 2 ^ shift) =
      significand * (d * 2 ^ shift) + d * 2 ^ shift := Nat.succ_mul _ _
  have hlower := @form_of_lt shift significand (Nat.lt_of_succ_lt h.lt) hsame
  have hmiddle : 2 * (significand * (d * 2 ^ shift)) + d * 2 ^ shift < 2 * n := by
    rw [hlower.units_eq, h.units_eq] at hbelow
    calc 2 * (significand * (d * 2 ^ shift)) + d * 2 ^ shift
        = d * (significand * 2 ^ shift + (significand + 1) * 2 ^ shift) := by ring
      _ < 2 * n := hbelow
  rw [Nat.succ_mul] at hnext
  rw [h.rank_eq]
  refine nearestRank_of_shift (hsame.imp_right fun hnormal => ?_) (by omega) (by omega) (by omega)
  have := Nat.mul_le_mul_right (d * 2 ^ shift) hnormal
  omega

/-- Before the first rank of a binade, the one below lies half as far away. -/
theorem Form.nearestRank_of_lt_binade (h : Form rank (shift + 1) binade)
    (hlt : n < binade * (d * 2 ^ (shift + 1)))
    (hbelow : d * (units (shift * binade + (2 * binade - 1)) + units rank) < 2 * n) :
    nearestRank n d = rank := by
  have hpos := h.lt
  have hlower := @form_of_lt shift (2 * binade - 1) (by omega) (.inr (by omega))
  have hunits : d * units rank = 2 * binade * (d * 2 ^ shift) := by
    rw [h.units_eq, Nat.pow_succ]
    ring
  have hpred : (2 * binade - 1) * (d * 2 ^ shift) + d * 2 ^ shift =
      2 * binade * (d * 2 ^ shift) := by
    rw [← Nat.succ_mul]
    exact congrArg (· * (d * 2 ^ shift)) (by omega)
  have hmiddle : (2 * binade - 1) * (d * 2 ^ shift) + 2 * binade * (d * 2 ^ shift) < 2 * n := by
    rw [Nat.mul_add, hunits, hlower.units_eq] at hbelow
    calc (2 * binade - 1) * (d * 2 ^ shift) + 2 * binade * (d * 2 ^ shift)
        = d * ((2 * binade - 1) * 2 ^ shift) + 2 * binade * (d * 2 ^ shift) := by ring
      _ < 2 * n := hbelow
  have hless : n < 2 * binade * (d * 2 ^ shift) := by
    calc n < binade * (d * 2 ^ (shift + 1)) := hlt
      _ = 2 * binade * (d * 2 ^ shift) := by
        rw [Nat.pow_succ]
        ring
  have hbinade := Nat.mul_le_mul_right (d * 2 ^ shift) (show binade ≤ 2 * binade - 1 by omega)
  have hround := @nearestRank_of_shift shift n d (2 * binade) (.inr (by omega)) hless (by omega)
    (by omega)
  rw [hround, h.rank_eq, Nat.succ_mul shift]
  omega

/-- **A fraction that is nearer to a rank than the middles between its neighbours and it** is
rounded to the rank. -/
theorem nearestRank_eq (habove : 2 * n < d * (units rank + units (rank + 1)))
    (hbelow : ∀ lower, rank = lower + 1 → d * (units lower + units rank) < 2 * n) :
    nearestRank n d = rank := by
  obtain ⟨shift, significand, h⟩ := exists_form rank
  rcases Nat.lt_or_ge n (significand * (d * 2 ^ shift)) with hless | hmore
  · obtain ⟨significand, rfl⟩ : ∃ m, significand = m + 1 :=
      Nat.exists_eq_succ_of_ne_zero fun h => by simp [h] at hless
    by_cases hsame : shift = 0 ∨ binade ≤ significand
    · exact h.nearestRank_of_lt hsame hless (hbelow _ (by rw [h.rank_eq, Nat.add_assoc]))
    · rw [not_or, Nat.not_le] at hsame
      obtain ⟨shift, rfl⟩ := Nat.exists_eq_succ_of_ne_zero hsame.1
      have hfirst : significand + 1 = binade := by
        have := h.normal.resolve_left (Nat.succ_ne_zero _)
        omega
      rw [hfirst] at h hless
      refine h.nearestRank_of_lt_binade hless (hbelow _ ?_)
      rw [h.rank_eq, Nat.succ_mul shift]
      omega
  · refine h.nearestRank_of_le hmore ?_
    rw [h.units_add_one, h.units_eq] at habove
    calc 2 * n < d * (significand * 2 ^ shift + (significand + 1) * 2 ^ shift) := habove
      _ = 2 * (significand * (d * 2 ^ shift)) + d * 2 ^ shift := by ring

/-- **A rank is its own rounding.** -/
theorem nearestRank_units (rank : Nat) : nearestRank (units rank) 1 = rank := by
  have hnext := units_lt_units_add_one rank
  refine nearestRank_eq (by omega) fun lower hlower => ?_
  have := units_lt_units_add_one lower
  subst hlower
  omega

/-! ## Numbers of ratios -/

/-- The number of a ratio depends on its value alone. -/
theorem ofRatio_congr {negative : Bool} {a b c : Nat} (hb : 0 < b) (hd : 0 < d)
    (h : a * d = c * b) : ofRatio negative a b = ofRatio negative c d := by
  have hleft : nearestRank (a * unitsPerOne * d) (b * d) = nearestRank (a * unitsPerOne) b :=
    nearestRank_scale hd
  have hright : nearestRank (c * unitsPerOne * b) (d * b) = nearestRank (c * unitsPerOne) d :=
    nearestRank_scale hb
  have hsame : a * unitsPerOne * d = c * unitsPerOne * b := by
    rw [Nat.mul_right_comm, h, Nat.mul_right_comm]
  rw [ofRatio, ofRatio, ofUnits, ofUnits, ← hleft, ← hright, hsame, Nat.mul_comm b d]

end Binary64

end RelStore
