/-
Seventeen digits are enough for every number.

A decimal grid of seventeen digits is finer than the numbers: a step of it is less than the
distance from a number to either of its neighbours (`step_lt_gap`). The grid point next to a number
is therefore nearer to it than the middles on both sides, and is read back as the number. So the
shortest digits are found among the grids that are tried, and are read back as well
(`toBinary64_shortestDigits`).
-/
import RelStore.Decimal.Shortest
import RelStore.Proofs.Decimal

namespace RelStore.Binary64

variable {rank digits count : Nat} {point exponent : Int}

theorem unitsPerOne_pos : 0 < unitsPerOne := by decide +kernel

theorem ten_pow_pos (k : Nat) : 0 < 10 ^ k := Nat.pow_pos (by decide)

theorem readsBack_iff : readsBack rank digits exponent = true ↔
    Decimal.toBinary64 ⟨false, digits, exponent⟩ = ofRank false rank := by
  simp [readsBack]

/-! ## Where the point is -/

theorem units_pos (h : 0 < rank) : 0 < units rank := by
  have := strictMono_units h
  omega

/-- No finite magnitude has more than 309 digits before the point. -/
theorem units_lt_of_finite (h : rank < infinityRank) : units rank < 10 ^ 309 * unitsPerOne :=
  (strictMono_units h).trans_le (by decide +kernel)

/-- A magnitude between two powers of ten has as many digits on a grid as their difference says. -/
theorem digits_on_grid {u one shift size : Nat} (hsize : 0 < size) (hcount : 0 < count)
    (hlow : 10 ^ (size - 1) * one ≤ u * 10 ^ shift) (hhigh : u * 10 ^ shift < 10 ^ size * one)
    (hexponent : exponent = (size : Int) - shift - count) :
    10 ^ (count - 1) * (one * 10 ^ exponent.toNat) ≤ u * 10 ^ (-exponent).toNat ∧
      u * 10 ^ (-exponent).toNat < 10 ^ count * (one * 10 ^ exponent.toNat) := by
  have hbelow : 10 ^ (count - 1) * (one * 10 ^ exponent.toNat) * 10 ^ shift =
      10 ^ (size - 1) * one * 10 ^ (-exponent).toNat := by
    have hpowers : count - 1 + exponent.toNat + shift = size - 1 + (-exponent).toNat := by omega
    calc 10 ^ (count - 1) * (one * 10 ^ exponent.toNat) * 10 ^ shift
        = 10 ^ (count - 1) * 10 ^ exponent.toNat * 10 ^ shift * one := by ring
      _ = 10 ^ (size - 1) * 10 ^ (-exponent).toNat * one := by
        rw [← Nat.pow_add, ← Nat.pow_add, hpowers, Nat.pow_add]
      _ = 10 ^ (size - 1) * one * 10 ^ (-exponent).toNat := by ring
  have habove : 10 ^ count * (one * 10 ^ exponent.toNat) * 10 ^ shift =
      10 ^ size * one * 10 ^ (-exponent).toNat := by
    have hpowers : count + exponent.toNat + shift = size + (-exponent).toNat := by omega
    calc 10 ^ count * (one * 10 ^ exponent.toNat) * 10 ^ shift
        = 10 ^ count * 10 ^ exponent.toNat * 10 ^ shift * one := by ring
      _ = 10 ^ size * 10 ^ (-exponent).toNat * one := by
        rw [← Nat.pow_add, ← Nat.pow_add, hpowers, Nat.pow_add]
      _ = 10 ^ size * one * 10 ^ (-exponent).toNat := by ring
  constructor
  · refine Nat.le_of_mul_le_mul_right ?_ (ten_pow_pos shift)
    rw [hbelow, Nat.mul_right_comm u]
    exact Nat.mul_le_mul_right _ hlow
  · refine Nat.lt_of_mul_lt_mul_right (a := 10 ^ shift) ?_
    rw [habove, Nat.mul_right_comm u]
    exact Nat.mul_lt_mul_of_pos_right hhigh (ten_pow_pos _)

/-- The digits of a fraction down to some place after the point. -/
theorem digits_of_fraction {u one shift : Nat} (hu : 0 < u) (hone : 0 < one)
    (hshift : one ≤ 10 ^ shift) {size : Nat} (hsize : size = (digitsOf (u * 10 ^ shift / one)).length) :
    0 < size ∧ 10 ^ (size - 1) * one ≤ u * 10 ^ shift ∧ u * 10 ^ shift < 10 ^ size * one ∧
      ∀ places, u < 10 ^ places * one → size ≤ places + shift := by
  subst hsize
  have hle : one ≤ u * 10 ^ shift := hshift.trans (Nat.le_mul_of_pos_left _ hu)
  have hvalue : 0 < u * 10 ^ shift / one := Nat.div_pos hle hone
  refine ⟨length_digitsOf_pos _, ?_, ?_, fun places hplaces => ?_⟩
  · exact (Nat.le_div_iff_mul_le hone).1 (pow_le_of_length_digitsOf hvalue)
  · exact (Nat.div_lt_iff_lt_mul hone).1 (lt_pow_length_digitsOf _)
  · have hlt : u * 10 ^ shift / one < 10 ^ (places + shift) := by
      rw [Nat.div_lt_iff_lt_mul hone, Nat.pow_add, Nat.mul_right_comm]
      exact Nat.mul_lt_mul_of_pos_right hplaces (ten_pow_pos _)
    by_contra hlong
    have hpos : 0 < places + shift := by
      by_contra hzero
      have : places + shift = 0 := by omega
      rw [this, Nat.pow_zero] at hlt
      omega
    exact hlong ((length_digitsOf_le_iff hpos).2 hlt)

theorem exists_decimalPoint_eq (rank : Nat) : ∃ shift : Nat, shift = 330 ∧ decimalPoint rank =
    ((digitsOf (units rank * 10 ^ shift / unitsPerOne)).length : Int) - 330 := by
  -- the power of ten is not to be written out
  unfold decimalPoint
  generalize (330 : Nat) = places
  exact ⟨places, rfl, rfl⟩

/-- What the point says about a magnitude. -/
theorem decimalPoint_spec (hpos : 0 < rank) : ∃ size shift : Nat,
    decimalPoint rank = size - shift ∧ shift = 330 ∧ 0 < size ∧
      10 ^ (size - 1) * unitsPerOne ≤ units rank * 10 ^ shift ∧
      units rank * 10 ^ shift < 10 ^ size * unitsPerOne ∧
      ∀ places, units rank < 10 ^ places * unitsPerOne → size ≤ places + shift := by
  obtain ⟨shift, hshift, hpoint⟩ := exists_decimalPoint_eq rank
  have hscale : unitsPerOne ≤ 10 ^ shift := by
    rw [hshift]
    decide +kernel
  refine ⟨_, shift, ?_, hshift, digits_of_fraction (units_pos hpos) unitsPerOne_pos hscale rfl⟩
  omega

/-- On the grid of seventeen digits a magnitude lies between the 10¹⁶th step and the 10¹⁷th. -/
theorem grid_bounds (hpos : 0 < rank) (hexponent : exponent = decimalPoint rank - 17) :
    10 ^ 16 * (unitsPerOne * 10 ^ exponent.toNat) ≤ units rank * 10 ^ (-exponent).toNat ∧
      units rank * 10 ^ (-exponent).toNat < 10 ^ 17 * (unitsPerOne * 10 ^ exponent.toNat) := by
  obtain ⟨size, shift, hpoint, -, hsize, hlow, hhigh, -⟩ := decimalPoint_spec hpos
  rw [hpoint] at hexponent
  have hgrid := digits_on_grid hsize (by decide : 0 < 17) hlow hhigh hexponent
  exact hgrid

theorem decimalPoint_bounds (hpos : 0 < rank) (hfinite : rank < infinityRank) :
    -330 < decimalPoint rank ∧ decimalPoint rank ≤ 309 := by
  obtain ⟨size, shift, hpoint, hshift, hsize, -, -, hlong⟩ := decimalPoint_spec hpos
  have := hlong 309 (units_lt_of_finite hfinite)
  omega

/-! ## Grid points next to a number -/

/-- A grid point of seventeen digits that is nearer to a number than the middles on both sides. -/
theorem readsBack_of_near (hpos : 0 < rank) (hfinite : rank < infinityRank)
    (hexponent : exponent = decimalPoint rank - 17) (hlow : 10 ^ 16 ≤ digits)
    (hhigh : digits ≤ 10 ^ 17)
    (habove : 2 * (digits * (unitsPerOne * 10 ^ exponent.toNat)) <
      10 ^ (-exponent).toNat * (units rank + units (rank + 1)))
    (hbelow : ∀ lower, rank = lower + 1 → 10 ^ (-exponent).toNat * (units lower + units rank) <
      2 * (digits * (unitsPerOne * 10 ^ exponent.toNat))) :
    readsBack rank digits exponent = true := by
  obtain ⟨hpoint, hpoint'⟩ := decimalPoint_bounds hpos hfinite
  have hlong : ¬ (digitsOf digits).length ≤ 16 := by
    rw [length_digitsOf_le_iff (by decide)]
    omega
  have hshort : (digitsOf digits).length ≤ 18 := by
    rw [length_digitsOf_le_iff (by decide)]
    omega
  have hunits : digits * 10 ^ exponent.toNat * unitsPerOne =
      digits * (unitsPerOne * 10 ^ exponent.toNat) := by ring
  rw [readsBack_iff, Decimal.toBinary64_eq (by omega) (by omega) (by omega), ofRatio, ofUnits,
    hunits, nearestRank_eq habove hbelow]

/-- A step of the grid of seventeen digits is less than a distance that is not below the number's
2⁻⁵³rd part. -/
theorem step_lt_gap {step scale gap : Nat} (hscale : 0 < scale) (hgap : 0 < gap)
    (hstep : 10 ^ 16 * step ≤ units rank * scale) (hunits : units rank ≤ 2 * binade * gap) :
    step < scale * gap := by
  refine Nat.lt_of_mul_lt_mul_left (a := 10 ^ 16) ?_
  calc 10 ^ 16 * step ≤ units rank * scale := hstep
    _ ≤ 2 * binade * gap * scale := Nat.mul_le_mul_right _ hunits
    _ = 2 * binade * (scale * gap) := by ring
    _ < 10 ^ 16 * (scale * gap) :=
      Nat.mul_lt_mul_of_pos_right (by decide) (Nat.mul_pos hscale hgap)

/-- The middle to the next rank is more than half a step away. -/
theorem step_lt_middle_above {step scale : Nat} (hscale : 0 < scale)
    (hstep : 10 ^ 16 * step ≤ units rank * scale) :
    2 * (units rank * scale) + step < scale * (units rank + units (rank + 1)) := by
  obtain ⟨gap, hgap⟩ := Nat.exists_eq_add_of_lt (units_lt_units_add_one rank)
  have hunits := (units_lt_mul_gap rank).le
  rw [hgap, show units rank + gap + 1 - units rank = gap + 1 by omega] at hunits
  have := step_lt_gap hscale (by omega : 0 < gap + 1) hstep hunits
  calc 2 * (units rank * scale) + step < 2 * (units rank * scale) + scale * (gap + 1) := by omega
    _ = scale * (units rank + units (rank + 1)) := by
      rw [hgap]
      ring

/-- So is the middle to the rank before. -/
theorem step_lt_middle_below {step scale : Nat} (hscale : 0 < scale)
    (hstep : 10 ^ 16 * step ≤ units (rank + 1) * scale) :
    scale * (units rank + units (rank + 1)) + step < 2 * (units (rank + 1) * scale) := by
  obtain ⟨gap, hgap⟩ := Nat.exists_eq_add_of_lt (units_lt_units_add_one rank)
  have hunits := units_add_one_le_mul_gap rank
  rw [hgap, show units rank + gap + 1 - units rank = gap + 1 by omega, ← hgap] at hunits
  have := step_lt_gap hscale (by omega : 0 < gap + 1) hstep hunits
  calc scale * (units rank + units (rank + 1)) + step
      < scale * (units rank + units (rank + 1)) + scale * (gap + 1) := by omega
    _ = 2 * (units (rank + 1) * scale) := by
      rw [hgap]
      ring

/-- Of the two grid points around a number, the nearer is read back. -/
theorem readsBack_below_or_above {below : Nat} (hpos : 0 < rank) (hfinite : rank < infinityRank)
    (hexponent : exponent = decimalPoint rank - 17) (hdiv : below =
      units rank * 10 ^ (-exponent).toNat / (unitsPerOne * 10 ^ exponent.toNat)) :
    readsBack rank below exponent = true ∨ readsBack rank (below + 1) exponent = true := by
  obtain ⟨hlow, hhigh⟩ := grid_bounds hpos hexponent
  have hnear (digits : Nat) := @readsBack_of_near rank digits exponent hpos hfinite hexponent
  have hstep := Nat.mul_pos unitsPerOne_pos (ten_pow_pos exponent.toNat)
  have hscale := ten_pow_pos (-exponent).toNat
  generalize unitsPerOne * 10 ^ exponent.toNat = step at *
  generalize 10 ^ (-exponent).toNat = scale at *
  have hbelow : below * step ≤ units rank * scale := hdiv ▸ Nat.div_mul_le_self _ _
  have habove : units rank * scale < below * step + step := by
    rw [← Nat.succ_mul, hdiv]
    exact Nat.lt_mul_of_div_lt (Nat.lt_succ_self _) hstep
  have hdigits : 10 ^ 16 < below + 1 := by
    refine Nat.lt_of_mul_lt_mul_right (a := step) ?_
    rw [Nat.succ_mul]
    omega
  have hdigits' : below < 10 ^ 17 := Nat.lt_of_mul_lt_mul_right (hbelow.trans_lt hhigh)
  have hsucc : (below + 1) * step = below * step + step := Nat.succ_mul _ _
  have hup := step_lt_middle_above hscale hlow
  have hdown (lower : Nat) (hlower : rank = lower + 1) :
      scale * (units lower + units rank) + step < 2 * (units rank * scale) := by
    subst hlower
    exact step_lt_middle_below hscale hlow
  rcases Nat.lt_or_ge (2 * (below * step) + step) (2 * (units rank * scale)) with hfar | hnearer
  · right
    refine hnear (below + 1) (by omega) (by omega) (by omega) fun lower hlower => ?_
    have := hdown lower hlower
    omega
  · left
    refine hnear below (by omega) (by omega) (by omega) fun lower hlower => ?_
    have := hdown lower hlower
    omega

/-! ## The digits that are found -/

/-- The fraction whose whole part stands below the number on a grid. -/
theorem gridFraction_eq (exponent : Int) :
    (if 0 ≤ exponent then (units rank, unitsPerOne * Nat.pow 10 exponent.toNat)
      else (units rank * Nat.pow 10 (-exponent).toNat, unitsPerOne)) =
      (units rank * 10 ^ (-exponent).toNat, unitsPerOne * 10 ^ exponent.toNat) := by
  split
  next hpos =>
    have : (-exponent).toNat = 0 := by omega
    rw [this, Nat.pow_zero, Nat.mul_one]
    rfl
  next hneg =>
    have : exponent.toNat = 0 := by omega
    rw [this, Nat.pow_zero, Nat.mul_one]
    rfl

theorem roundDiv_cases (n d : Nat) : roundDiv n d = n / d ∨ roundDiv n d = n / d + 1 := by
  simp only [roundDiv]
  split_ifs
  · exact .inl rfl
  · exact .inr rfl
  · exact .inl rfl
  · exact .inr rfl

/-- The digits that a grid gives are read back. -/
theorem toBinary64_of_gridDigits (h : gridDigits rank point count = some (digits, exponent)) :
    Decimal.toBinary64 ⟨false, digits, exponent⟩ = ofRank false rank := by
  simp only [gridDigits, gridFraction_eq, Option.map_eq_some_iff] at h
  obtain ⟨chosen, hchosen, h⟩ := h
  generalize units rank * _ = n at hchosen
  generalize unitsPerOne * _ = d at hchosen
  have hreads : readsBack rank chosen (point - count) = true := by
    split at hchosen
    next hbelow habove =>
      obtain rfl := Option.some.inj hchosen
      rcases roundDiv_cases n d with heq | heq
      · rwa [heq]
      · rwa [heq]
    next hbelow _ =>
      obtain rfl := Option.some.inj hchosen
      exact hbelow
    next _ habove =>
      obtain rfl := Option.some.inj hchosen
      exact habove
    next => cases hchosen
  rw [readsBack_iff] at hreads
  split at h
  next hround =>
    obtain ⟨rfl, rfl⟩ := Prod.mk.inj h
    rw [← hreads, hround, ← Decimal.toBinary64_scale false 1 point count, Nat.one_mul]
    rfl
  next =>
    obtain ⟨rfl, rfl⟩ := Prod.mk.inj h
    exact hreads

/-- The grid of seventeen digits always gives some. -/
theorem isSome_gridDigits (hpos : 0 < rank) (hfinite : rank < infinityRank)
    (hpoint : point = decimalPoint rank) (hcount : count = 17) :
    (gridDigits rank point count).isSome = true := by
  simp only [gridDigits, gridFraction_eq, Option.isSome_map]
  have hexponent : point - (count : Int) = decimalPoint rank - 17 := by omega
  have hreads := readsBack_below_or_above hpos hfinite hexponent rfl
  generalize units rank * _ / _ = below at hreads ⊢
  split
  next => rfl
  next => rfl
  next => rfl
  next hno hno' =>
    rw [hno, hno'] at hreads
    exact absurd hreads (by decide)

/-- **The digits of a number are read back as the number.** -/
theorem toBinary64_shortestDigits (hpos : 0 < rank) (hfinite : rank < infinityRank)
    (h : shortestDigits rank = (digits, exponent)) :
    Decimal.toBinary64 ⟨false, digits, exponent⟩ = ofRank false rank := by
  simp only [shortestDigits] at h
  cases hfound : (List.range 17).findSome? fun i => gridDigits rank (decimalPoint rank) (i + 1) with
  | some found =>
    rw [hfound, Option.getD_some] at h
    obtain ⟨i, -, hgrid⟩ := List.exists_of_findSome?_eq_some hfound
    rw [h] at hgrid
    exact toBinary64_of_gridDigits hgrid
  | none =>
    have hlast := List.findSome?_eq_none_iff.1 hfound 16 (by simp)
    have hsome := isSome_gridDigits hpos hfinite rfl (rfl : 16 + 1 = 17)
    rw [hlast] at hsome
    cases hsome

end RelStore.Binary64
