/-
Numerals that stand for the same number.

The digits of a whole number are read back as the number, and there are as many as its size asks
for. What a numeral is read as does not depend on how many of its powers of ten are written as
zeros (`toBinary64_scale`).
-/
import RelStore.Decimal
import RelStore.Proofs.Binary64.Rounding

namespace RelStore

variable {n k : Nat}

/-! ## Digits -/

theorem digitsValue_append (digits more : List Char) :
    digitsValue (digits ++ more) = 10 ^ more.length * digitsValue digits + digitsValue more := by
  have h := @Nat.ofDigitChars_eq_ofDigitChars_zero more (digitsValue digits)
  simp only [Nat.ofDigitChars_eq_foldl] at h
  rw [digitsValue, List.foldl_append]
  exact h

theorem digitsValue_digitsOf (n : Nat) : digitsValue (digitsOf n) = n := by
  have h := @Nat.ofDigitChars_toDigits 10 n (by decide) (by decide)
  rwa [Nat.ofDigitChars_eq_foldl] at h

theorem digitsValue_replicate_zero (count : Nat) :
    digitsValue (List.replicate count '0') = 0 := by
  induction count with
  | zero => rfl
  | succ count ih => exact ih

theorem isDigit_of_mem_digitsOf {c : Char} (h : c ∈ digitsOf n) : c.isDigit = true :=
  Nat.isDigit_of_mem_toDigits (by decide) (by decide) h

theorem length_digitsOf_pos (n : Nat) : 0 < (digitsOf n).length := Nat.length_toDigits_pos

theorem length_digitsOf_le_iff (hk : 0 < k) : (digitsOf n).length ≤ k ↔ n < 10 ^ k :=
  Nat.length_toDigits_le_iff (by decide) hk

theorem lt_pow_length_digitsOf (n : Nat) : n < 10 ^ (digitsOf n).length :=
  (length_digitsOf_le_iff (length_digitsOf_pos n)).1 (Nat.le_refl _)

/-- A number of some length is not below the least of this length. -/
theorem pow_le_of_length_digitsOf (hn : 0 < n) : 10 ^ ((digitsOf n).length - 1) ≤ n := by
  rcases Nat.eq_zero_or_pos ((digitsOf n).length - 1) with hzero | hpos
  · rw [hzero]
    exact hn
  · by_contra hlt
    have := (length_digitsOf_le_iff hpos).2 (Nat.not_le.1 hlt)
    omega

theorem length_digitsOf_eq (hlow : 10 ^ k ≤ n) (hhigh : n < 10 ^ (k + 1)) :
    (digitsOf n).length = k + 1 := by
  refine Nat.le_antisymm ((length_digitsOf_le_iff (Nat.succ_pos k)).2 hhigh) ?_
  by_contra hshort
  have hlt := lt_pow_length_digitsOf n
  have : 10 ^ (digitsOf n).length ≤ 10 ^ k := Nat.pow_le_pow_right (by decide) (by omega)
  omega

theorem length_digitsOf_mul_pow (hn : 0 < n) (k : Nat) :
    (digitsOf (n * 10 ^ k)).length = (digitsOf n).length + k := by
  obtain ⟨m, hm⟩ : ∃ m, (digitsOf n).length = m + 1 :=
    Nat.exists_eq_succ_of_ne_zero (length_digitsOf_pos n).ne'
  have hlow := pow_le_of_length_digitsOf hn
  have hhigh := lt_pow_length_digitsOf n
  rw [hm, Nat.add_sub_cancel] at hlow
  rw [hm] at hhigh
  rw [hm, Nat.add_right_comm]
  refine length_digitsOf_eq ?_ ?_
  · rw [Nat.pow_add]
    exact Nat.mul_le_mul_right _ hlow
  · rw [Nat.add_right_comm, Nat.pow_add _ (m + 1)]
    exact Nat.mul_lt_mul_of_pos_right hhigh (Nat.pow_pos (by decide))

theorem digitsValue_cons (c : Char) (rest : List Char) :
    digitsValue (c :: rest) = 10 ^ rest.length * (c.toNat - 48) + digitsValue rest := by
  have h := digitsValue_append [c] rest
  have hone : digitsValue [c] = c.toNat - 48 := by simp [digitsValue]
  rwa [hone, List.singleton_append] at h

theorem digitsValue_lt {digits : List Char} (h : ∀ c ∈ digits, c.isDigit = true) :
    digitsValue digits < 10 ^ digits.length := by
  induction digits with
  | nil => decide
  | cons c rest ih =>
    obtain ⟨hc, hrest⟩ := List.forall_mem_cons.1 h
    have hlt := ih hrest
    have hdigit : c.toNat - 48 ≤ 9 := by
      simp only [Char.isDigit, Bool.and_eq_true, decide_eq_true_eq] at hc
      have : c.toNat ≤ 57 := hc.2
      omega
    have hle := Nat.mul_le_mul_left (10 ^ rest.length) hdigit
    rw [digitsValue_cons, List.length_cons, Nat.pow_succ]
    omega

/-- The digits of a number that is not zero begin with another digit than `0`. -/
theorem digitsOf_eq_cons (hn : 0 < n) : ∃ c rest, digitsOf n = c :: rest ∧ c ≠ '0' := by
  cases hdigits : digitsOf n with
  | nil => exact absurd (congrArg List.length hdigits) (length_digitsOf_pos n).ne'
  | cons c rest =>
    refine ⟨c, rest, rfl, ?_⟩
    rintro rfl
    have hall : ∀ c ∈ rest, c.isDigit = true := fun c hc =>
      isDigit_of_mem_digitsOf (n := n) (hdigits ▸ List.mem_cons_of_mem _ hc)
    have hlt := digitsValue_lt hall
    have hle := pow_le_of_length_digitsOf hn
    have hvalue : digitsValue rest = n := by
      have := digitsValue_digitsOf n
      rwa [hdigits, digitsValue_cons, show '0'.toNat - 48 = 0 from rfl, Nat.mul_zero,
        Nat.zero_add] at this
    rw [hdigits, List.length_cons, Nat.add_sub_cancel] at hle
    omega

namespace Decimal

/-- What a numeral is read as, when neither of the two bounds on its size decides. -/
theorem toBinary64_eq {negative : Bool} {digits : Nat} {exponent : Int} (hdigits : digits ≠ 0)
    (hlow : -330 ≤ ((digitsOf digits).length : Int) + exponent)
    (hhigh : ((digitsOf digits).length : Int) + exponent ≤ 310) :
    toBinary64 ⟨negative, digits, exponent⟩ =
      .ofRatio negative (digits * 10 ^ exponent.toNat) (10 ^ (-exponent).toNat) := by
  simp only [toBinary64, if_neg hdigits, if_neg (Int.not_lt.2 hlow), if_neg (Int.not_lt.2 hhigh)]
  split
  next hpos =>
    have : (-exponent).toNat = 0 := by omega
    rw [this]
    rfl
  next hneg =>
    have : exponent.toNat = 0 := by omega
    rw [this, Nat.pow_zero, Nat.mul_one]
    rfl

/-- Which magnitude a numeral is read as does not depend on its sign. -/
theorem exists_rank_toBinary64 (digits : Nat) (exponent : Int) :
    ∃ rank, ∀ negative, toBinary64 ⟨negative, digits, exponent⟩ = .ofRank negative rank := by
  simp only [toBinary64]
  split
  · exact ⟨_, fun _ => rfl⟩
  split
  · exact ⟨_, fun _ => rfl⟩
  split
  · exact ⟨_, fun _ => rfl⟩
  split
  · exact ⟨_, fun _ => rfl⟩
  · exact ⟨_, fun _ => rfl⟩

/-- **Zeros at the end of the digits can be left to the power of ten.** -/
theorem toBinary64_scale (negative : Bool) (digits : Nat) (exponent : Int) (k : Nat) :
    toBinary64 ⟨negative, digits * 10 ^ k, exponent - k⟩ =
      toBinary64 ⟨negative, digits, exponent⟩ := by
  rcases Nat.eq_zero_or_pos digits with rfl | hpos
  · simp [toBinary64]
  have hten (m : Nat) : 0 < 10 ^ m := Nat.pow_pos (by decide)
  have hne : digits * 10 ^ k ≠ 0 := (Nat.mul_pos hpos (hten k)).ne'
  have hsize : ((digitsOf (digits * 10 ^ k)).length : Int) + (exponent - k) =
      (digitsOf digits).length + exponent := by
    rw [length_digitsOf_mul_pow hpos]
    omega
  by_cases hhigh : ((digitsOf digits).length : Int) + exponent ≤ 310
  · by_cases hlow : -330 ≤ ((digitsOf digits).length : Int) + exponent
    · rw [toBinary64_eq hne (hsize ▸ hlow) (hsize ▸ hhigh), toBinary64_eq hpos.ne' hlow hhigh]
      refine Binary64.ofRatio_congr (hten _) (hten _) ?_
      have hpowers : k + (exponent - k).toNat + (-exponent).toNat =
          exponent.toNat + (-(exponent - k)).toNat := by omega
      rw [Nat.mul_assoc digits, Nat.mul_assoc digits, ← Nat.pow_add, ← Nat.pow_add, hpowers,
        Nat.pow_add, Nat.mul_assoc]
    · have hsmall := Int.not_le.1 hlow
      simp [toBinary64, hne, hpos.ne', hsize, hsmall, Int.not_lt.2 hhigh]
  · have hlarge := Int.not_le.1 hhigh
    simp [toBinary64, hne, hpos.ne', hsize, hlarge]

end Decimal

end RelStore
